import Mathlib.Data.List.Nodup
import SchemaScaffold.Relationship

/-!
# Accessors of the relationships to one row

A column with a reference makes a relationship to one row. Which columns do, and what the
relationship says of the reference, does not depend on the accessors that are taken; only its own
accessor does. That one is always new: when the names after the target and after the column are
both taken, there are more numbers to put behind the latter than there are names in use. So the
accessors of these relationships are pairwise different, whatever the convention.
-/

namespace SchemaScaffold.Relationship

open Schema (Table Column Reference)

/-- Different numbers behind a stem make different names. -/
theorem numberedName_injective (stem : String) :
    Function.Injective fun number : Nat => stem ++ toString number := by
  intro first second hsame
  have hdigits : (toString first).toList = (toString second).toList := by
    have hlists := congrArg String.toList hsame
    simpa only [String.toList_append, List.append_cancel_left_eq] using hlists
  have hvalues := congrArg (Nat.ofDigitChars 10 · 0) hdigits
  simpa only [Nat.toString_eq_repr, Nat.toList_repr,
    Nat.ofDigitChars_toDigits (by decide : 1 < 10) (by decide : 10 ≤ 10)] using hvalues

/-- A stem that is taken has a number, less than two above the count of taken names, that makes it
new. -/
theorem exists_number_not_mem {used : List String} {stem : String} (hstem : stem ∈ used) :
    ∃ n < used.length, stem ++ toString (n + 2) ∉ used := by
  by_contra hnone
  simp only [not_exists, not_and, not_not] at hnone
  -- The stem and its numbered names would all be taken, and they are one more than the taken ones.
  let candidates := stem :: (List.range used.length).map fun n => stem ++ toString (n + 2)
  have hnodup : candidates.Nodup := by
    refine List.nodup_cons.mpr ⟨?_, ?_⟩
    · intro hmem
      obtain ⟨n, -, hsame⟩ := List.mem_map.mp hmem
      exact Nat.repr_ne_empty (String.append_eq_left_iff.mp hsame)
    · refine List.Nodup.map (fun first second hsame => ?_) List.nodup_range
      have hsucc := numberedName_injective stem hsame
      omega
  have hsubset : candidates ⊆ used := by
    intro name hname
    rcases List.mem_cons.mp hname with rfl | hnumbered
    · exact hstem
    · obtain ⟨n, hn, rfl⟩ := List.mem_map.mp hnumbered
      exact hnone n (List.mem_range.mp hn)
  have hlength := hnodup.length_le_of_subset hsubset
  rw [List.length_cons, List.length_map, List.length_range] at hlength
  omega

/-- A numbered name is new. -/
theorem numbered_not_mem (used : List String) (stem : String) : numbered used stem ∉ used := by
  unfold numbered
  split
  case isTrue hnew => exact hnew
  case isFalse htaken =>
    obtain ⟨n, hn, hnew⟩ := exists_number_not_mem (not_not.mp htaken)
    cases hfound : ((List.range used.length).map fun n => stem ++ toString (n + 2)).find?
        (· ∉ used) with
    | none =>
        have htaken := List.find?_eq_none.mp hfound (stem ++ toString (n + 2))
          (List.mem_map.mpr ⟨n, List.mem_range.mpr hn, rfl⟩)
        exact absurd (decide_eq_true hnew) htaken
    | some name =>
        have hnew := List.find?_some hfound
        exact of_decide_eq_true hnew

/-- The name of an accessor is new. -/
theorem accessor_not_mem (used : List String) (byTarget byColumn : String) :
    accessor used byTarget byColumn ∉ used := by
  unfold accessor
  split
  case isTrue hnew => exact hnew
  case isFalse => exact numbered_not_mem used byColumn

/-- The accessors of the relationships of columns are none of those that were taken before. -/
theorem method_not_mem_of_mem_belongsToFrom (names : Convention) {used : List String}
    {columns : List Column} {relationship : Relationship}
    (hmem : relationship ∈ belongsToFrom names used columns) : relationship.method ∉ used := by
  induction columns generalizing used with
  | nil => cases hmem
  | cons column rest ih =>
      unfold belongsToFrom at hmem
      split at hmem
      case h_1 => exact ih hmem
      case h_2 reference _ =>
        rcases List.mem_cons.mp hmem with rfl | hrest
        · exact accessor_not_mem used _ _
        · exact fun hused => ih hrest (List.mem_cons_of_mem _ hused)

/-- The accessors of the relationships of columns are pairwise different. -/
theorem nodup_methods_belongsToFrom (names : Convention) (used : List String)
    (columns : List Column) : ((belongsToFrom names used columns).map (·.method)).Nodup := by
  induction columns generalizing used with
  | nil => exact List.nodup_nil
  | cons column rest ih =>
      unfold belongsToFrom
      split
      case h_1 => exact ih used
      case h_2 reference _ =>
        refine List.nodup_cons.mpr ⟨fun hmem => ?_, ih _⟩
        obtain ⟨later, hlater, hsame⟩ := List.mem_map.mp hmem
        exact method_not_mem_of_mem_belongsToFrom names hlater (hsame ▸ List.mem_cons_self)

/-- The accessors to one row are pairwise different. -/
theorem nodup_methods_belongsTo (names : Convention) (table : Table) :
    ((belongsTo names table).map (·.method)).Nodup :=
  nodup_methods_belongsToFrom names [] table.columns

/-- What a relationship says of the reference it comes from: the column that points, the column
pointed to, and the table. -/
def link (relationship : Relationship) : String × Option String × String :=
  (relationship.foreignKey, relationship.key, relationship.table)

/-- Each column with a reference makes one relationship, which says what its first reference does,
whichever accessors are taken. -/
theorem map_link_belongsToFrom (names : Convention) (used : List String) (columns : List Column) :
    (belongsToFrom names used columns).map link = columns.filterMap fun column =>
      column.foreignKey.map fun reference => (column.name, reference.key, reference.table) := by
  induction columns generalizing used with
  | nil => rfl
  | cons column rest ih =>
      unfold belongsToFrom
      rw [List.filterMap_cons]
      split
      case h_1 hnone => rw [hnone, ih]; rfl
      case h_2 reference hsome => rw [hsome, List.map_cons, ih]; rfl

end SchemaScaffold.Relationship
