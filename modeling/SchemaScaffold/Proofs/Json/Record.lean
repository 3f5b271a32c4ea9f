import SchemaScaffold.Json.Shape
import SchemaScaffold.Keyed

/-!
# Records that are read field by field

Two facts carry all that is said of a record: what every field of it keeps holds of whatever is
read, in either form of a record; and an object with an entry for a known field is read entry by
entry. Lists are treated the same way: what is read comes from the items, and items that read
back one by one read back together.
-/

namespace SchemaScaffold.Json

variable {σ α β : Type}

/-- A result that goes through two steps goes through the first one. -/
theorem bind_eq_ok {ε : Type} {first : Except ε α} {next : α → Except ε β} {result : β}
    (hrun : first >>= next = .ok result) : ∃ item, first = .ok item ∧ next item = .ok result := by
  cases first with
  | error error => cases hrun
  | ok item => exact ⟨item, rfl, hrun⟩

/-- A result that is changed afterwards comes from a result. -/
theorem map_eq_ok {ε : Type} {first : Except ε α} {change : α → β} {result : β}
    (hrun : first.map change = .ok result) : ∃ item, first = .ok item ∧ change item = result := by
  cases first with
  | error error => cases hrun
  | ok item => exact ⟨item, rfl, Except.ok.inj hrun⟩

/-- A result is not touched when only errors are changed. -/
theorem mapError_eq_ok {ε δ : Type} {first : Except ε α} {change : ε → δ} {result : α}
    (hrun : first.mapError change = .ok result) : first = .ok result := by
  cases first with
  | error error => cases hrun
  | ok item => exact congrArg Except.ok (Except.ok.inj hrun)

/-- A run of steps keeps what every step keeps. -/
theorem foldlM_keeps {property : σ → Prop} {step : σ → α → Shaped σ} {items : List α}
    (hstep : ∀ item ∈ items, ∀ record result, property record → step record item = .ok result →
      property result)
    {record result : σ} (hrecord : property record)
    (hrun : items.foldlM step record = .ok result) : property result := by
  induction items generalizing record with
  | nil =>
      cases hrun
      exact hrecord
  | cons item rest ih =>
      rw [List.foldlM_cons] at hrun
      obtain ⟨next, hnext, hrest⟩ := bind_eq_ok hrun
      have hkept := hstep item List.mem_cons_self record next hrecord hnext
      exact ih (fun other hother => hstep other (List.mem_cons_of_mem _ hother)) hkept hrest

/-- A field keeps a property of records: whatever it reads, the property still holds. -/
def RecordField.Keeps (property : σ → Prop) (field : RecordField σ) : Prop :=
  ∀ value record result, property record → field.read value record = .ok result →
    property result

/-- A field that is stored keeps what storing any value that can be read keeps. -/
theorem RecordField.keeps_of {property : σ → Prop} {key : String} {read : Json → Shaped α}
    {store : α → σ → σ}
    (hstore : ∀ value item record, read value = .ok item → property record →
      property (store item record)) :
    (RecordField.of key read store).Keeps property := by
  intro value record result hrecord hread
  obtain ⟨item, hitem, rfl⟩ := map_eq_ok hread
  exact hstore value item record hitem hrecord

/-- A field keeps what does not concern it. -/
theorem RecordField.keeps_of_store {property : σ → Prop} {key : String} {read : Json → Shaped α}
    {store : α → σ → σ} (hstore : ∀ item record, property record → property (store item record)) :
    (RecordField.of key read store).Keeps property :=
  RecordField.keeps_of fun _ item record _ hrecord => hstore item record hrecord

/-- What holds of the blank record and is kept by every field holds of each record that is read,
be it written as an object or as an array. -/
theorem readRecord_keeps (property : σ → Prop) {label : String} {fields : List (RecordField σ)}
    {blank result : σ} (hblank : property blank) (hfields : ∀ field ∈ fields, field.Keeps property)
    {value : Json} (hread : readRecord label fields blank value = .ok result) :
    property result := by
  cases value with
  | object entries =>
      refine foldlM_keeps ?_ hblank hread
      intro entry _ record next hrecord hnext
      obtain ⟨key, value⟩ := entry
      cases hfield : fields.find? (·.key == key) with
      | some field =>
          simp only [hfield] at hnext
          exact hfields field (List.mem_of_find?_eq_some hfield) value record next hrecord hnext
      | none =>
          simp only [hfield] at hnext
          cases hnext
          exact hrecord
  | array items =>
      obtain ⟨record, hordered, hlength⟩ := bind_eq_ok hread
      have hrecord : property record := by
        refine foldlM_keeps ?_ hblank hordered
        intro pair hpair before next hbefore hnext
        exact hfields pair.1 (List.of_mem_zip hpair).1 pair.2 before next hbefore hnext
      by_cases hmany : fields.length < items.length
      · rw [if_pos hmany] at hlength
        cases hlength
      · rw [if_neg hmany] at hlength
        cases hlength
        exact hrecord
  | null => cases hread
  | bool value => cases hread
  | number value => cases hread
  | string value => cases hread

/-- A field is found by its key when no two fields share one. -/
theorem find?_key {fields : List (RecordField σ)} (hkeys : (fields.map (·.key)).Nodup)
    {field : RecordField σ} (hfield : field ∈ fields) :
    fields.find? (·.key == field.key) = some field := by
  induction fields with
  | nil => cases hfield
  | cons first rest ih =>
      obtain ⟨hfirst, hrest⟩ := List.nodup_cons.mp hkeys
      rcases List.mem_cons.mp hfield with rfl | hfield
      · exact List.find?_cons_of_pos (beq_self_eq_true field.key)
      · have hne : ¬(first.key == field.key) = true := fun hsame =>
          hfirst (List.mem_map.mpr ⟨field, hfield, (beq_iff_eq.mp hsame).symm⟩)
        rw [← ih hrest hfield]
        exact List.find?_cons_of_neg hne

/-- What is found by a key is a field of this key. -/
theorem key_of_find? {fields : List (RecordField σ)} {key : String} {field : RecordField σ}
    (hfield : fields.find? (·.key == key) = some field) : field.key = key := by
  have hsame := List.find?_some hfield
  exact beq_iff_eq.mp hsame

/-- An object with an entry for each field, in their order, is read as the array of its values
is. -/
theorem readByKey_zip {fields : List (RecordField σ)} (hkeys : (fields.map (·.key)).Nodup)
    (blank : σ) (values : List Json) :
    readByKey fields blank ((fields.map (·.key)).zip values) = readInOrder fields blank values := by
  have hfound : ∀ pair ∈ fields.zip values,
      fields.find? (·.key == pair.1.key) = some pair.1 :=
    fun pair hpair => find?_key hkeys (List.of_mem_zip hpair).1
  rw [readByKey, readInOrder, List.zip_map_left, List.foldlM_map]
  generalize fields.zip values = pairs at hfound
  induction pairs generalizing blank with
  | nil => rfl
  | cons pair rest ih =>
      obtain ⟨field, value⟩ := pair
      have hfirst := hfound (field, value) List.mem_cons_self
      have hrest (next : σ) := ih next fun other hother =>
        hfound other (List.mem_cons_of_mem _ hother)
      rw [List.foldlM_cons, List.foldlM_cons]
      simp only [Prod.map_fst, Prod.map_snd, id_eq, hfirst] at hrest ⊢
      congr 1
      funext next
      exact hrest next

/-- When the first value is read into the first field, the other values are read after it. -/
theorem readInOrder_cons {fields : List (RecordField σ)} {blank record : σ} {key : String}
    {read : Json → Shaped α} {store : α → σ → σ} {value : Json} {item : α} {values : List Json}
    (hread : read value = .ok item)
    (hrest : readInOrder fields (store item blank) values = .ok record) :
    readInOrder (.of key read store :: fields) blank (value :: values) = .ok record := by
  have hstored : (RecordField.of key read store).read value blank = .ok (store item blank) := by
    show (read value).map (store · blank) = .ok (store item blank)
    rw [hread]
    rfl
  rw [readInOrder, List.zip_cons_cons, List.foldlM_cons]
  simp only [hstored]
  exact hrest

/-- What stands under a key of an object, read; when nothing stands there, a value for this. -/
def readUnder (read : Json → Shaped α) (absent : α) (entries : List (String × Json))
    (key : String) : Shaped α :=
  ((entries.lookup key).map read).getD (.ok absent)

theorem readUnder_cons_self (read : Json → Shaped α) (absent : α) (key : String) (value : Json)
    (rest : List (String × Json)) :
    readUnder read absent ((key, value) :: rest) key = read value := by
  rw [readUnder, List.lookup_cons_self, Option.map_some, Option.getD_some]

theorem readUnder_cons_of_ne (read : Json → Shaped α) (absent : α) {key other : String}
    (hne : key ≠ other) (value : Json) (rest : List (String × Json)) :
    readUnder read absent ((other, value) :: rest) key = readUnder read absent rest key := by
  rw [readUnder, List.lookup_cons, beq_false_of_ne hne, readUnder]

/-- A field that is stored is read when what stands under its key is. -/
theorem RecordField.exists_read {key : String} {read : Json → Shaped α} {store : α → σ → σ}
    {value : Json} {item : α} (hread : read value = .ok item) (record : σ) :
    ∃ next, (RecordField.of key read store).read value record = .ok next := by
  refine ⟨store item record, ?_⟩
  show (read value).map (store · record) = .ok (store item record)
  rw [hread]
  rfl

/-- An object of distinct keys is read when each field can be read from what stands under its
key. -/
theorem exists_readByKey {fields : List (RecordField σ)} {entries : List (String × Json)}
    (hkeys : (entries.map Prod.fst).Nodup)
    (hentries : ∀ field ∈ fields, ∀ value ∈ entries.lookup field.key,
      ∀ record, ∃ next, field.read value record = .ok next) (blank : σ) :
    ∃ record, readByKey fields blank entries = .ok record := by
  induction entries generalizing blank with
  | nil => exact ⟨blank, rfl⟩
  | cons entry rest ih =>
      obtain ⟨key, value⟩ := entry
      obtain ⟨hkey, hrest⟩ := List.nodup_cons.mp hkeys
      have hlater := ih hrest fun field hfield other hother => by
        refine hentries field hfield other ?_
        have hne : field.key ≠ key := by
          rintro hsame
          rw [hsame, Keyed.lookup_of_not_mem hkey] at hother
          cases hother
        rwa [List.lookup_cons, beq_false_of_ne hne]
      rw [readByKey, List.foldlM_cons]
      cases hfield : fields.find? (·.key == key) with
      | none =>
          simp only [hfield]
          exact hlater blank
      | some field =>
          have hlookup : ((key, value) :: rest).lookup field.key = some value := by
            rw [key_of_find? hfield, List.lookup_cons_self]
          obtain ⟨next, hnext⟩ :=
            hentries field (List.mem_of_find?_eq_some hfield) value hlookup blank
          simp only [hfield, hnext]
          exact hlater next

/-- A field leaves what is seen of a record as it is, unless it has the key; then what is seen is
what is read. -/
def RecordField.Shows (view : σ → α) (key : String) (read : Json → Shaped α)
    (field : RecordField σ) : Prop :=
  ∀ value record next, field.read value record = .ok next →
    (field.key = key → read value = .ok (view next)) ∧
    (field.key ≠ key → view next = view record)

/-- A field is seen where it is stored. -/
theorem RecordField.Shows.self {view : σ → α} {key : String} {read : Json → Shaped α}
    {store : α → σ → σ} (hview : ∀ item record, view (store item record) = item) :
    (RecordField.of key read store).Shows view key read := by
  intro value record next hread
  obtain ⟨item, hitem, rfl⟩ := map_eq_ok hread
  exact ⟨fun _ => by rw [hview, hitem], fun hne => absurd rfl hne⟩

/-- A field is not seen where another one is stored. -/
theorem RecordField.Shows.other {view : σ → α} {key other : String} {read : Json → Shaped α}
    {readOther : Json → Shaped β} {store : β → σ → σ} (hne : other ≠ key)
    (hview : ∀ item record, view (store item record) = view record) :
    (RecordField.of other readOther store).Shows view key read := by
  intro value record next hread
  obtain ⟨item, -, rfl⟩ := map_eq_ok hread
  exact ⟨fun hsame => absurd hsame hne, fun _ => hview item record⟩

/-- After an object of distinct keys was read, what is seen of the record is what stands under the
key, wherever that is, and otherwise what was seen of the blank record. -/
theorem readUnder_of_readByKey {fields : List (RecordField σ)} {entries : List (String × Json)}
    {blank record : σ} (hread : readByKey fields blank entries = .ok record)
    (hkeys : (entries.map Prod.fst).Nodup) (view : σ → α) {key : String} {read : Json → Shaped α}
    (hkey : key ∈ fields.map (·.key)) (hfields : ∀ field ∈ fields, field.Shows view key read) :
    readUnder read (view blank) entries key = .ok (view record) := by
  induction entries generalizing blank with
  | nil =>
      cases hread
      rfl
  | cons entry rest ih =>
      obtain ⟨first, value⟩ := entry
      obtain ⟨hfirst, hrest⟩ := List.nodup_cons.mp hkeys
      rw [readByKey, List.foldlM_cons] at hread
      obtain ⟨next, hnext, hread⟩ := bind_eq_ok hread
      have hlater := ih hread hrest
      cases hfound : fields.find? (·.key == first) with
      | none =>
          simp only [hfound] at hnext
          cases hnext
          have hne : key ≠ first := by
            rintro rfl
            obtain ⟨field, hfield, hsame⟩ := List.mem_map.mp hkey
            exact List.find?_eq_none.mp hfound field hfield (beq_iff_eq.mpr hsame)
          rw [readUnder_cons_of_ne read _ hne, hlater]
      | some field =>
          simp only [hfound] at hnext
          have hfield := hfields field (List.mem_of_find?_eq_some hfound) value blank next hnext
          rw [key_of_find? hfound] at hfield
          by_cases hsame : first = key
          · subst hsame
            rw [readUnder, Keyed.lookup_of_not_mem hfirst, Option.map_none,
              Option.getD_none] at hlater
            rw [readUnder_cons_self, hfield.1 rfl, hlater]
          · rw [readUnder_cons_of_ne read _ (Ne.symm hsame), ← hfield.2 hsame, hlater]

/-- A value that is there reads back as it does by itself, when it is not `null`. -/
theorem readOptional_some {read : Json → Shaped α} {value : Json} {item : α}
    (hnull : value.isNull = false) (hread : read value = .ok item) :
    readOptional read value = .ok (some item) := by
  cases value with
  | null => cases hnull
  | _ =>
      rw [readOptional, hread]
      · rfl
      · exact nofun

/-- Each item of a list that was read was read by itself. -/
theorem exists_of_mem_readList {read : Json → Shaped α} {value : Json} {list : List α}
    (hread : readList read value = .ok list) {item : α} (hitem : item ∈ list) :
    ∃ source, read source = .ok item := by
  cases value with
  | array items =>
      rw [readList] at hread
      induction items generalizing list with
      | nil =>
          cases hread
          cases hitem
      | cons source rest ih =>
          rw [List.mapM_cons] at hread
          obtain ⟨first, hfirst, hread⟩ := bind_eq_ok hread
          obtain ⟨others, hothers, hread⟩ := bind_eq_ok hread
          cases hread
          rcases List.mem_cons.mp hitem with rfl | hitem
          · exact ⟨source, hfirst⟩
          · exact ih hitem hothers
  | null => cases hread
  | bool value => cases hread
  | number value => cases hread
  | string value => cases hread
  | object entries => cases hread

/-- A list is read when its items are, and then it is seen as they are. -/
theorem exists_readList {read : Json → Shaped α} {view : α → β} {look : Json → β}
    {items : List Json} (hitems : ∀ item ∈ items, ∃ result, read item = .ok result ∧
      view result = look item) :
    ∃ results, readList read (.array items) = .ok results ∧
      results.map view = items.map look := by
  simp only [readList]
  induction items with
  | nil => exact ⟨[], rfl, rfl⟩
  | cons item rest ih =>
      obtain ⟨first, hfirst, hview⟩ := hitems item List.mem_cons_self
      obtain ⟨others, hothers, hviews⟩ := ih fun other hother =>
        hitems other (List.mem_cons_of_mem _ hother)
      refine ⟨first :: others, ?_, ?_⟩
      · rw [List.mapM_cons, hfirst, hothers]
        rfl
      · rw [List.map_cons, List.map_cons, hview, hviews]

/-- A list whose items read back one by one reads back. -/
theorem readList_map {read : Json → Shaped α} {write : α → Json} {list : List α}
    (hitems : ∀ item ∈ list, read (write item) = .ok item) :
    readList read (.array (list.map write)) = .ok list := by
  rw [readList]
  induction list with
  | nil => rfl
  | cons item rest ih =>
      have hrest := ih fun other hother => hitems other (List.mem_cons_of_mem _ hother)
      rw [List.map_cons, List.mapM_cons, hitems item List.mem_cons_self, hrest]
      rfl

end SchemaScaffold.Json
