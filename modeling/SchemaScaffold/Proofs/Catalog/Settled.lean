import SchemaScaffold.Catalog.OfText
import SchemaScaffold.Proofs.Decimal.Numeral
import SchemaScaffold.Proofs.Json.Record
import SchemaScaffold.Proofs.Text.Trimming

/-!
# Settled catalogs

Lists of arguments and of columns are the only part of a catalog that is changed on the way in:
their items are trimmed and empty ones are dropped. A catalog is settled when all such lists hold
items that reading leaves alone. Whatever is read, from an export or in the catalog's own form, is
settled.
-/

namespace SchemaScaffold.Catalog

open Json (RecordField)
open Text (IsItem)

/-- No character of a number is blank. -/
theorem isBlank_of_isNumeralChar {c : Char} (hc : isNumeralChar c = true) :
    Text.isBlank c = false := by
  simp only [isNumeralChar, Char.isDigit, Bool.or_eq_true, Bool.and_eq_true, decide_eq_true_eq,
    beq_iff_eq] at hc
  rcases hc with (((⟨hlow, hhigh⟩ | rfl) | rfl) | rfl) | rfl
  · have hlow : 48 ≤ c.toNat := hlow
    have hhigh : c.toNat ≤ 57 := hhigh
    simp [Text.isBlank]
    omega
  all_goals decide

/-- A number is written as an item. -/
theorem isItem_render_number (number : JsonNumber) : IsItem number.render := by
  refine ⟨number.render_ne_empty, Text.trimmed_of_any_eq_false (List.any_eq_false.mpr ?_)⟩
  intro c hc
  rw [isBlank_of_isNumeralChar (number.isNumeral_render c hc)]
  exact Bool.false_ne_true

/-- An object is written as an item, as it begins and ends with a brace. -/
theorem isItem_render_object (entries : List (String × Json)) :
    IsItem (Json.object entries).render := by
  rw [Json.render]
  refine ⟨by simp, ?_, ?_⟩
  · intro c hc
    simp only [String.toList_append] at hc
    cases hc
    decide
  · intro c hc
    simp only [String.toList_append] at hc
    rw [List.getLast?_append] at hc
    cases hc
    decide

/-- Every text of a list that was read leniently is an item. -/
theorem isItem_of_mem_textList {value : Json} {text : String} (hmem : text ∈ textList value) :
    IsItem text := by
  cases value with
  | null => cases hmem
  | bool value =>
      obtain rfl := List.mem_singleton.mp hmem
      cases value
      · exact ⟨by decide, Text.trimmed_of_any_eq_false (by decide +kernel)⟩
      · exact ⟨by decide, Text.trimmed_of_any_eq_false (by decide +kernel)⟩
  | number number =>
      obtain rfl := List.mem_singleton.mp hmem
      exact isItem_render_number number
  | string list => exact Text.isItem_of_mem_commaItems hmem
  | array items =>
      obtain ⟨hitem, hne⟩ := List.mem_filter.mp hmem
      obtain ⟨item, -, rfl⟩ := List.mem_map.mp hitem
      exact Text.isItem_trim (of_decide_eq_true hne)
  | object entries =>
      obtain rfl := List.mem_singleton.mp hmem
      exact isItem_render_object entries

/-- A list of items reads back as it is. -/
theorem textList_of_items {items : List String} (hitems : ∀ item ∈ items, IsItem item) :
    textList (.array (items.map .string)) = items := by
  rw [textList, List.map_map]
  have htrim : items.map ((fun item => Text.trim (scalarText item)) ∘ Json.string) = items := by
    refine (List.map_congr_left fun item hitem => ?_).trans (List.map_id' items)
    exact (hitems item hitem).trim_eq
  rw [htrim, List.filter_eq_self]
  intro item hitem
  exact decide_eq_true (hitems item hitem).1

/-- The arguments of the type are items. -/
def TypeName.Settled (type : TypeName) : Prop := ∀ arg ∈ type.args, IsItem arg

/-- The types of all columns are settled. -/
def Table.Settled (table : Table) : Prop := ∀ column ∈ table.columns, column.type.Settled

/-- The columns of the endpoint are items. -/
def Endpoint.Settled (endpoint : Endpoint) : Prop := ∀ column ∈ endpoint.columns, IsItem column

/-- All endpoints of the ref are settled. -/
def Ref.Settled (ref : Ref) : Prop := ∀ endpoint ∈ ref.endpoints, endpoint.Settled

/-- All tables and refs of the catalog are settled. -/
structure Settled (catalog : Catalog) : Prop where
  tables : ∀ table ∈ catalog.tables, table.Settled
  refs : ∀ ref ∈ catalog.refs, ref.Settled

/-- A catalog without tables and refs is settled. -/
theorem settled_empty : Settled {} :=
  ⟨fun _ htable => (nomatch htable), fun _ href => (nomatch href)⟩

/-- The arguments behind a declared type are items. -/
theorem Export.isItem_of_mem_splitDeclaration {declared arg : String}
    (harg : arg ∈ (splitDeclaration declared).2) : IsItem arg := by
  unfold splitDeclaration at harg
  split at harg
  · cases harg
  · exact Text.isItem_of_mem_commaItems harg

/-- The type of a field is settled, wherever its arguments stand. -/
theorem Export.settled_type (node : Json) : (type node).Settled := by
  intro arg harg
  unfold type at harg
  split at harg
  case h_1 entries =>
    simp only at harg
    split at harg
    · exact isItem_of_mem_splitDeclaration harg
    · cases hargs : (Json.object entries).get? "args" with
      | none =>
          rw [hargs] at harg
          cases harg
      | some value =>
          rw [hargs] at harg
          exact isItem_of_mem_textList harg
  case h_2 => exact isItem_of_mem_splitDeclaration harg

/-- The columns of an endpoint are items, as its list of fields is read leniently. -/
theorem Export.settled_endpoint (schema : Option String) (node : Json) :
    (endpoint schema node).Settled := by
  intro column hcolumn
  unfold endpoint at hcolumn
  cases hnames : node.get? "fieldNames" with
  | none =>
      rw [hnames] at hcolumn
      cases hcolumn
  | some value =>
      rw [hnames] at hcolumn
      exact isItem_of_mem_textList hcolumn

/-- What one schema declares keeps a catalog settled. -/
theorem Export.settled_addSchema {catalog : Catalog} (hsettled : catalog.Settled) (node : Json) :
    (addSchema catalog node).Settled := by
  constructor
  · intro table htable
    rcases List.mem_append.mp htable with hold | hnew
    · exact hsettled.tables table hold
    · obtain ⟨source, -, rfl⟩ := List.mem_map.mp hnew
      intro column hcolumn
      obtain ⟨field, -, rfl⟩ := List.mem_map.mp hcolumn
      exact settled_type _
  · intro ref href
    rcases List.mem_append.mp href with hold | hnew
    · exact hsettled.refs ref hold
    · obtain ⟨source, -, rfl⟩ := List.mem_map.mp hnew
      intro endpoint hendpoint
      obtain ⟨side, -, rfl⟩ := List.mem_map.mp hendpoint
      exact settled_endpoint _ side

/-- The declarations of several schemas keep a catalog settled. -/
theorem Export.settled_foldl_addSchema {catalog : Catalog} (hsettled : catalog.Settled)
    (schemas : List Json) : (schemas.foldl addSchema catalog).Settled := by
  induction schemas generalizing catalog with
  | nil => exact hsettled
  | cons node rest ih => exact ih (settled_addSchema hsettled node)

/-- A catalog that was read from an export is settled. -/
theorem settled_of_ofExport {database : Json} {catalog : Catalog}
    (hread : ofExport database = .ok catalog) : catalog.Settled := by
  unfold ofExport at hread
  split at hread
  · cases hread
  · split at hread
    · cases hread
    · cases hread
      exact Export.settled_foldl_addSchema settled_empty _

/-- A type name that was read is settled. -/
theorem TypeName.settled_of_ofJson {value : Json} {type : TypeName}
    (hread : TypeName.ofJson value = .ok type) : type.Settled := by
  refine Json.readRecord_keeps Settled ?_ ?_ hread
  · intro arg harg
    cases harg
  intro field hfield
  simp only [List.mem_cons, List.not_mem_nil, or_false] at hfield
  -- Only the third field holds arguments; the others are stored beside them.
  rcases hfield with rfl | rfl | rfl | rfl
  case inr.inr.inl =>
    apply RecordField.keeps_of
    intro source args record hargs _ arg harg
    cases hargs
    exact isItem_of_mem_textList harg
  all_goals exact RecordField.keeps_of_store fun _ _ hrecord => hrecord

/-- A column that was read has a settled type. -/
theorem Column.settled_of_ofJson {value : Json} {column : Column}
    (hread : Column.ofJson value = .ok column) : column.type.Settled := by
  refine Json.readRecord_keeps (fun column : Column => column.type.Settled) ?_ ?_ hread
  · intro arg harg
    cases harg
  intro field hfield
  simp only [List.mem_cons, List.not_mem_nil, or_false] at hfield
  rcases hfield with rfl | rfl | rfl | rfl | rfl | rfl | rfl | rfl
  case inr.inl =>
    apply RecordField.keeps_of
    intro source type record htype _
    exact TypeName.settled_of_ofJson htype
  all_goals exact RecordField.keeps_of_store fun _ _ hrecord => hrecord

/-- A table that was read is settled. -/
theorem Table.settled_of_ofJson {value : Json} {table : Table}
    (hread : Table.ofJson value = .ok table) : table.Settled := by
  refine Json.readRecord_keeps Settled ?_ ?_ hread
  · intro column hcolumn
    cases hcolumn
  intro field hfield
  simp only [List.mem_cons, List.not_mem_nil, or_false] at hfield
  rcases hfield with rfl | rfl | rfl | rfl | rfl
  case inr.inr.inr.inl =>
    apply RecordField.keeps_of
    intro source columns record hcolumns _ column hcolumn
    obtain ⟨item, hitem⟩ := Json.exists_of_mem_readList hcolumns hcolumn
    exact Column.settled_of_ofJson hitem
  all_goals exact RecordField.keeps_of_store fun _ _ hrecord => hrecord

/-- An endpoint that was read is settled. -/
theorem Endpoint.settled_of_ofJson {value : Json} {endpoint : Endpoint}
    (hread : Endpoint.ofJson value = .ok endpoint) : endpoint.Settled := by
  refine Json.readRecord_keeps Settled ?_ ?_ hread
  · intro column hcolumn
    cases hcolumn
  intro field hfield
  simp only [List.mem_cons, List.not_mem_nil, or_false] at hfield
  rcases hfield with rfl | rfl | rfl | rfl
  case inr.inr.inl =>
    apply RecordField.keeps_of
    intro source columns record hcolumns _ column hcolumn
    cases hcolumns
    exact isItem_of_mem_textList hcolumn
  all_goals exact RecordField.keeps_of_store fun _ _ hrecord => hrecord

/-- A ref that was read is settled. -/
theorem Ref.settled_of_ofJson {value : Json} {ref : Ref} (hread : Ref.ofJson value = .ok ref) :
    ref.Settled := by
  refine Json.readRecord_keeps Settled ?_ ?_ hread
  · intro endpoint hendpoint
    cases hendpoint
  intro field hfield
  simp only [List.mem_cons, List.not_mem_nil, or_false] at hfield
  rcases hfield with rfl | rfl | rfl | rfl | rfl | rfl
  case inr.inr.inr.inr.inr =>
    apply RecordField.keeps_of
    intro source endpoints record hendpoints _ endpoint hendpoint
    obtain ⟨item, hitem⟩ := Json.exists_of_mem_readList hendpoints hendpoint
    exact Endpoint.settled_of_ofJson hitem
  all_goals exact RecordField.keeps_of_store fun _ _ hrecord => hrecord

/-- A catalog that was read from its own form is settled. -/
theorem settled_of_ofJson {value : Json} {catalog : Catalog} (hread : ofJson value = .ok catalog) :
    catalog.Settled := by
  refine Json.readRecord_keeps Settled settled_empty ?_ hread
  intro field hfield
  simp only [List.mem_cons, List.not_mem_nil, or_false] at hfield
  rcases hfield with rfl | rfl | rfl
  case inl =>
    apply RecordField.keeps_of
    intro source tables record htables hrecord
    refine ⟨fun table htable => ?_, hrecord.refs⟩
    obtain ⟨item, hitem⟩ := Json.exists_of_mem_readList htables htable
    exact Table.settled_of_ofJson hitem
  case inr.inl =>
    exact RecordField.keeps_of_store fun _ _ hrecord => ⟨hrecord.tables, hrecord.refs⟩
  case inr.inr =>
    apply RecordField.keeps_of
    intro source refs record hrefs hrecord
    refine ⟨hrecord.tables, fun ref href => ?_⟩
    obtain ⟨item, hitem⟩ := Json.exists_of_mem_readList hrefs href
    exact Ref.settled_of_ofJson hitem

/-- Whatever is read is settled, in whichever form it came. -/
theorem settled_of_ofValue {value : Json} {catalog : Catalog}
    (hread : ofValue value = .ok catalog) : catalog.Settled := by
  unfold ofValue at hread
  split at hread
  · cases hread
  · split at hread
    · exact settled_of_ofExport (Json.mapError_eq_ok hread)
    · split at hread
      · exact settled_of_ofJson (Json.mapError_eq_ok hread)
      · cases hread

end SchemaScaffold.Catalog
