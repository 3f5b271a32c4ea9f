/-!
# Lists of entries by key

Small maps whose order can be seen are kept as lists of entries. Putting a value under a key that
is already there replaces the value in its place; a new key goes to the end.
-/

namespace SchemaScaffold.Keyed

variable {κ : Type} {α : Type} [DecidableEq κ]

/-- Put a value under a key. A key that is there already keeps its place. -/
def put (key : κ) (value : α) : List (κ × α) → List (κ × α)
  | [] => [(key, value)]
  | (other, old) :: rest =>
    if other = key then (key, value) :: rest else (other, old) :: put key value rest

/-- The key just put leads to its value. -/
theorem lookup_put_self [BEq κ] [LawfulBEq κ] (key : κ) (value : α) (entries : List (κ × α)) :
    (put key value entries).lookup key = some value := by
  induction entries with
  | nil => simp [put]
  | cons entry rest ih =>
    obtain ⟨other, old⟩ := entry
    by_cases hkey : other = key
    · simp [put, hkey]
    · have hne : (key == other) = false := by simpa using fun h => hkey h.symm
      simp [put, hkey, List.lookup_cons, hne, ih]

/-- Every other key leads where it led before. -/
theorem lookup_put_of_ne [BEq κ] [LawfulBEq κ] {key other : κ} (hne : other ≠ key) (value : α)
    (entries : List (κ × α)) : (put key value entries).lookup other = entries.lookup other := by
  induction entries with
  | nil =>
    have h : (other == key) = false := by simpa using hne
    simp [put, List.lookup_cons, h]
  | cons entry rest ih =>
    obtain ⟨name, old⟩ := entry
    by_cases hkey : name = key
    · have h : (other == key) = false := by simpa using hne
      simp [put, hkey, List.lookup_cons, h]
    · simp only [put, if_neg hkey, List.lookup_cons, ih]

/-- Putting a value under a key adds the key behind the others, unless it is there. -/
theorem keys_put (key : κ) (value : α) (entries : List (κ × α)) :
    (put key value entries).map Prod.fst =
      if key ∈ entries.map Prod.fst then entries.map Prod.fst
      else entries.map Prod.fst ++ [key] := by
  induction entries with
  | nil => rfl
  | cons entry rest ih =>
      obtain ⟨other, old⟩ := entry
      by_cases hkey : other = key
      · simp [put, hkey]
      · have hne : key ≠ other := fun h => hkey h.symm
        rw [put, if_neg hkey, List.map_cons, ih, List.map_cons]
        simp only [List.mem_cons, hne, false_or]
        split <;> rfl

/-- Keys stay distinct when values are put one after another. -/
theorem nodup_keys_foldl_put {ρ : Type} (keyOf : ρ → κ) (valueOf : ρ → α) (records : List ρ)
    {entries : List (κ × α)} (hnodup : (entries.map Prod.fst).Nodup) :
    ((records.foldl (fun entries record => put (keyOf record) (valueOf record) entries)
      entries).map Prod.fst).Nodup := by
  induction records generalizing entries with
  | nil => exact hnodup
  | cons record rest ih =>
      apply ih
      rw [keys_put]
      split
      · exact hnodup
      · rename_i habsent
        refine List.nodup_append.mpr ⟨hnodup, by simp, ?_⟩
        intro key hkey last hlast hsame
        rw [List.mem_singleton] at hlast
        exact habsent (hlast ▸ hsame ▸ hkey)

/-- When values are put one after another, a key leads to the last value that was put under it. -/
theorem lookup_foldl_put [BEq κ] [LawfulBEq κ] {ρ : Type} (keyOf : ρ → κ) (valueOf : ρ → α)
    (records : List ρ) (entries : List (κ × α)) (key : κ) :
    (records.foldl (fun entries record => put (keyOf record) (valueOf record) entries)
      entries).lookup key =
      ((records.filter (keyOf · = key)).getLast?.map valueOf).or (entries.lookup key) := by
  induction records generalizing entries with
  | nil => rfl
  | cons record rest ih =>
      rw [List.foldl_cons, ih]
      by_cases hkey : keyOf record = key
      · subst hkey
        rw [lookup_put_self, List.filter_cons_of_pos (by simp), List.getLast?_cons]
        cases (rest.filter (keyOf · = keyOf record)).getLast? <;> rfl
      · rw [lookup_put_of_ne fun h => hkey h.symm, List.filter_cons_of_neg (by simpa using hkey)]

/-- The last of the records under a key is the one that no later one follows under this key. -/
theorem getLast?_filter_eq_some_iff {ρ : Type} {keyOf : ρ → κ} {records : List ρ} {key : κ}
    {last : ρ} :
    (records.filter (keyOf · = key)).getLast? = some last ↔
      ∃ before after, records = before ++ last :: after ∧ keyOf last = key ∧
        ∀ later ∈ after, keyOf later ≠ key := by
  constructor
  · intro hfound
    obtain ⟨others, hothers⟩ := List.getLast?_eq_some_iff.mp hfound
    obtain ⟨before, rest, rfl, -, hrest⟩ := List.filter_eq_append_iff.mp hothers
    obtain ⟨between, after, rfl, -, hkey, hafter⟩ := List.filter_eq_cons_iff.mp hrest
    refine ⟨before ++ between, after, by simp, of_decide_eq_true hkey, fun later hlater => ?_⟩
    simpa using List.filter_eq_nil_iff.mp hafter later hlater
  · rintro ⟨before, after, rfl, hkey, hlater⟩
    have hafter : after.filter (keyOf · = key) = [] :=
      List.filter_eq_nil_iff.mpr fun later hmem => by simpa using hlater later hmem
    rw [List.filter_append, List.filter_cons_of_pos (by simpa using hkey), hafter]
    exact List.getLast?_concat

/-- A key without an entry leads nowhere. -/
theorem lookup_of_not_mem {ι : Type} [BEq ι] [LawfulBEq ι] {entries : List (ι × α)} {key : ι}
    (hkey : key ∉ entries.map Prod.fst) : entries.lookup key = none := by
  refine List.lookup_eq_none_iff.mpr fun entry hentry => bne_iff_ne.mpr ?_
  rintro rfl
  exact hkey (List.mem_map_of_mem hentry)

/-- Entries with the same distinct keys in the same order are the same when all keys lead to the
same values. -/
theorem eq_of_lookup_eq [BEq κ] [LawfulBEq κ] {first second : List (κ × α)}
    (hkeys : first.map Prod.fst = second.map Prod.fst) (hnodup : (first.map Prod.fst).Nodup)
    (hlookup : ∀ key, first.lookup key = second.lookup key) : first = second := by
  induction first generalizing second with
  | nil => exact (List.map_eq_nil_iff.mp hkeys.symm).symm
  | cons entry rest ih =>
      obtain ⟨key, value⟩ := entry
      obtain ⟨⟨other, changed⟩, left, rfl, rfl, hleft⟩ := List.map_eq_cons_iff.mp hkeys.symm
      obtain ⟨hkey, hrest⟩ := List.nodup_cons.mp hnodup
      have hvalue := hlookup other
      rw [List.lookup_cons_self, List.lookup_cons_self, Option.some.injEq] at hvalue
      have hsame : rest = left := ih hleft.symm hrest fun name => by
        by_cases hname : name = other
        · subst hname
          rw [lookup_of_not_mem hkey, lookup_of_not_mem (hleft ▸ hkey)]
        · have hother := hlookup name
          rwa [List.lookup_cons, List.lookup_cons, beq_false_of_ne hname] at hother
      rw [hvalue, hsame]

/-- The keys come from the records alone, whatever is put under them. -/
theorem keys_foldl_put_congr {ρ : Type} (keyOf : ρ → κ) (first second : ρ → α) (records : List ρ)
    {entries others : List (κ × α)} (hkeys : entries.map Prod.fst = others.map Prod.fst) :
    (records.foldl (fun entries record => put (keyOf record) (first record) entries)
        entries).map Prod.fst =
      (records.foldl (fun entries record => put (keyOf record) (second record) entries)
        others).map Prod.fst := by
  induction records generalizing entries others with
  | nil => exact hkeys
  | cons record rest ih =>
      apply ih
      rw [keys_put, keys_put, hkeys]

/-- Two kinds of values lead to the same entries exactly when they agree on the records that are
the last under their keys. -/
theorem foldl_put_eq_iff {ρ : Type} (keyOf : ρ → κ) (first second : ρ → α) (records : List ρ) :
    records.foldl (fun entries record => put (keyOf record) (first record) entries) [] =
        records.foldl (fun entries record => put (keyOf record) (second record) entries) [] ↔
      ∀ before last after, records = before ++ last :: after →
        (∀ later ∈ after, keyOf later ≠ keyOf last) → first last = second last := by
  let _ : BEq κ := instBEqOfDecidableEq
  constructor
  · intro hsame before last after hrecords hlater
    have hlast : (records.filter (keyOf · = keyOf last)).getLast? = some last :=
      getLast?_filter_eq_some_iff.mpr ⟨before, after, hrecords, rfl, hlater⟩
    have hlookup := congrArg (List.lookup (keyOf last)) hsame
    rw [lookup_foldl_put, lookup_foldl_put, hlast] at hlookup
    exact Option.some.inj hlookup
  · intro hagree
    refine eq_of_lookup_eq (keys_foldl_put_congr keyOf first second records rfl)
      (nodup_keys_foldl_put keyOf first records List.nodup_nil) fun key => ?_
    rw [lookup_foldl_put, lookup_foldl_put]
    cases hlast : (records.filter (keyOf · = key)).getLast? with
    | none => rfl
    | some last =>
        obtain ⟨before, after, hrecords, rfl, hlater⟩ := getLast?_filter_eq_some_iff.mp hlast
        rw [Option.map_some, Option.map_some, hagree before last after hrecords hlater]

end SchemaScaffold.Keyed
