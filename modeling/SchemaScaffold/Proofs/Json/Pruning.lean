import Mathlib.Data.List.Forall2
import SchemaScaffold.Json.Basic

/-!
# Deleting what is `null`

An entry of an object that holds `null` may be there to say that there is nothing. Here such
entries are deleted, from an object and from the objects inside it. Not every object is meant: a
layout says which values inside a value are looked into, and all others stay as they are. Any set
of keys may go; the case that all of them go is a function.

What is found under a key afterwards is what was found there before, with what was deleted inside
of it; or it was `null` and is nothing now.
-/

namespace SchemaScaffold.Json

/-- Which objects inside a value may lose entries. -/
inductive Layout
  /-- The value stays as it is. -/
  | fixed
  /-- The items of an array, each with the same layout. -/
  | list (item : Layout)
  /-- The object itself, with a layout for what stands under each key. -/
  | object (part : String → Layout)

/-- Two entries under one key. -/
def SameKey (under : String → Json → Json → Prop) (before after : String × Json) : Prop :=
  before.1 = after.1 ∧ under before.1 before.2 after.2

/-- Some items of an array have changed. -/
inductive ChangedItems (item : Json → Json → Prop) : Json → Json → Prop
  | other {value : Json} (hother : value.items? = none) : ChangedItems item value value
  | array {before after : List Json} (hitems : List.Forall₂ item before after) :
      ChangedItems item (.array before) (.array after)

/-- An object has lost some keys that held `null`, and what stands under others has changed. -/
inductive ChangedEntries (under : String → Json → Json → Prop) : Json → Json → Prop
  | other {value : Json} (hother : value.entries? = none) : ChangedEntries under value value
  | object {before after : List (String × Json)} (keys : List String)
      (hnull : ∀ key ∈ keys, before.lookup key = some .null)
      (hkept : List.Forall₂ (SameKey under) (before.filter (·.1 ∉ keys)) after) :
      ChangedEntries under (.object before) (.object after)

/-- The second value is left of the first when keys with `null` are deleted where the layout allows
for it. -/
def Pruned : Layout → Json → Json → Prop
  | .fixed => Eq
  | .list item => ChangedItems (Pruned item)
  | .object part => ChangedEntries fun key => Pruned (part key)

/-- The keys of an object that hold `null`. -/
def nullKeys (entries : List (String × Json)) : List String :=
  (entries.map Prod.fst).filter fun key => (entries.lookup key).any isNull

/-- Change the items of an array. -/
def mapItems (change : Json → Json) : Json → Json
  | .array items => .array (items.map change)
  | other => other

/-- Delete all keys of an object that hold `null`, and change what stands under the others. -/
def dropNulls (change : String → Json → Json) : Json → Json
  | .object entries =>
    .object ((entries.filter (·.1 ∉ nullKeys entries)).map fun entry =>
      (entry.1, change entry.1 entry.2))
  | other => other

/-- What is left of a value when all keys with `null` are deleted where the layout allows for
it. -/
def withoutNulls : Layout → Json → Json
  | .fixed => id
  | .list item => mapItems (withoutNulls item)
  | .object part => dropNulls fun key => withoutNulls (part key)

/-- Entries under the same keys lead to values that are related as theirs are. -/
theorem lookup_of_forall₂ {under : String → Json → Json → Prop}
    {before after : List (String × Json)} (hsame : List.Forall₂ (SameKey under) before after)
    (key : String) : Option.Rel (under key) (before.lookup key) (after.lookup key) := by
  induction hsame with
  | nil => exact .none
  | @cons first second before after hfirst _ ih =>
      obtain ⟨name, value⟩ := first
      obtain ⟨other, changed⟩ := second
      obtain ⟨rfl, hvalue⟩ := hfirst
      by_cases hkey : key = name
      · subst hkey
        rw [List.lookup_cons_self, List.lookup_cons_self]
        exact .some hvalue
      · rw [List.lookup_cons, List.lookup_cons, beq_false_of_ne hkey]
        exact ih

/-- A key is found unless it is deleted. -/
theorem lookup_filter_not_mem (entries : List (String × Json)) (keys : List String) (key : String) :
    (entries.filter (·.1 ∉ keys)).lookup key =
      if key ∈ keys then none else entries.lookup key := by
  induction entries with
  | nil => simp
  | cons entry rest ih =>
      obtain ⟨name, value⟩ := entry
      by_cases hname : name ∈ keys
      · rw [List.filter_cons_of_neg (by simpa using hname), ih, List.lookup_cons]
        by_cases hkey : key = name
        · rw [if_pos (hkey ▸ hname), if_pos (hkey ▸ hname)]
        · rw [beq_false_of_ne hkey]
      · rw [List.filter_cons_of_pos (by simpa using hname)]
        by_cases hkey : key = name
        · subst hkey
          rw [List.lookup_cons_self, List.lookup_cons_self, if_neg hname]
        · rw [List.lookup_cons, List.lookup_cons, beq_false_of_ne hkey, ih]

/-- What is found under a key of an object afterwards: what was there before, with what was deleted
inside of it, or nothing for `null`. -/
theorem Pruned.get? {part : String → Layout} {before after : Json}
    (hpruned : Pruned (.object part) before after) (key : String) :
    (before.get? key = some .null ∧ after.get? key = none) ∨
      Option.Rel (Pruned (part key)) (before.get? key) (after.get? key) := by
  cases hpruned with
  | other hother =>
      right
      rw [Json.get?, hother]
      exact .none
  | @object before after keys hnull hkept =>
      have hlookup := lookup_of_forall₂ hkept key
      rw [lookup_filter_not_mem] at hlookup
      by_cases hkey : key ∈ keys
      · rw [if_pos hkey] at hlookup
        left
        refine ⟨hnull key hkey, ?_⟩
        show after.lookup key = none
        cases hafter : after.lookup key with
        | none => rfl
        | some value =>
            rw [hafter] at hlookup
            cases hlookup
      · rw [if_neg hkey] at hlookup
        exact .inr hlookup

/-- What stands under a key that is not looked into is there afterwards, or was `null`. -/
theorem Pruned.get?_eq {part : String → Layout} {before after : Json}
    (hpruned : Pruned (.object part) before after) (key : String) (hfixed : part key = .fixed) :
    (before.get? key = some .null ∧ after.get? key = none) ∨ after.get? key = before.get? key := by
  refine (hpruned.get? key).imp_right fun hsame => ?_
  rw [hfixed] at hsame
  generalize before.get? key = first at hsame
  generalize after.get? key = second at hsame
  cases hsame with
  | none => rfl
  | some hvalue => exact congrArg some (Eq.symm hvalue)

/-- Whatever is read under such a key stays the same, if `null` is read as nothing is. -/
theorem Pruned.read_eq {α : Type} {part : String → Layout} {before after : Json}
    (hpruned : Pruned (.object part) before after) {key : String} (hfixed : part key = .fixed)
    (read : Option Json → α) (hnull : read (some .null) = read none) :
    read (after.get? key) = read (before.get? key) := by
  rcases hpruned.get?_eq key hfixed with ⟨hbefore, hafter⟩ | hsame
  · rw [hbefore, hafter, hnull]
  · rw [hsame]

/-- An array under a key is there still, with what was deleted inside of its items. -/
theorem Pruned.items? {part : String → Layout} {before after : Json}
    (hpruned : Pruned (.object part) before after) (key : String) {item : Layout}
    (hlist : part key = .list item) :
    Option.Rel (List.Forall₂ (Pruned item)) ((before.get? key).bind Json.items?)
      ((after.get? key).bind Json.items?) := by
  rcases hpruned.get? key with ⟨hbefore, hafter⟩ | hsame
  · rw [hbefore, hafter]
    exact .none
  · rw [hlist] at hsame
    generalize before.get? key = first at hsame
    generalize after.get? key = second at hsame
    cases hsame with
    | none => exact .none
    | some hvalue =>
        cases hvalue with
        | other hother =>
            rw [Option.bind_some, hother]
            exact .none
        | array hitems => exact .some hitems

/-- The items under a key are those that were there before, with what was deleted inside of
them. -/
theorem Pruned.items {part : String → Layout} {before after : Json}
    (hpruned : Pruned (.object part) before after) (key : String) {item : Layout}
    (hlist : part key = .list item) :
    List.Forall₂ (Pruned item) (((before.get? key).bind Json.items?).getD [])
      (((after.get? key).bind Json.items?).getD []) := by
  have hitems := hpruned.items? key hlist
  generalize (before.get? key).bind Json.items? = first at hitems
  generalize (after.get? key).bind Json.items? = second at hitems
  cases hitems with
  | none => exact .nil
  | some hitems => exact hitems

/-- What stands under a key, or `null`, has changed as its layout allows for. -/
theorem Pruned.value {part inner : String → Layout} {before after : Json}
    (hpruned : Pruned (.object part) before after) {key : String}
    (hpart : part key = .object inner) :
    Pruned (.object inner) ((before.get? key).getD .null) ((after.get? key).getD .null) := by
  rcases hpruned.get? key with ⟨hbefore, hafter⟩ | hsame
  · rw [hbefore, hafter]
    exact .other rfl
  · rw [hpart] at hsame
    generalize before.get? key = first at hsame
    generalize after.get? key = second at hsame
    cases hsame with
    | none => exact .other rfl
    | some hvalue => exact hvalue

/-- Only `null` is `null`. -/
theorem isNull_iff {value : Json} : value.isNull = true ↔ value = .null := by
  cases value <;> simp [isNull]

/-- These are the keys with `null`. -/
theorem mem_nullKeys {entries : List (String × Json)} {key : String} :
    key ∈ nullKeys entries ↔ entries.lookup key = some .null := by
  rw [nullKeys, List.mem_filter, Option.any_eq_true]
  simp only [isNull_iff]
  constructor
  · rintro ⟨-, value, hvalue, rfl⟩
    exact hvalue
  · intro hnull
    obtain ⟨front, back, rfl, -⟩ := List.lookup_eq_some_iff.mp hnull
    exact ⟨by simp, .null, hnull, rfl⟩

/-- Deleting all of them is one way of deleting some. -/
theorem pruned_withoutNulls (layout : Layout) (value : Json) :
    Pruned layout value (withoutNulls layout value) := by
  induction layout generalizing value with
  | fixed => rfl
  | list item ih =>
      cases value with
      | array items =>
          refine .array (List.forall₂_map_right_iff.mpr (List.forall₂_same.mpr ?_))
          exact fun item _ => ih item
      | _ => exact .other rfl
  | object part ih =>
      cases value with
      | object entries =>
          refine .object (nullKeys entries) (fun key hkey => mem_nullKeys.mp hkey) ?_
          refine List.forall₂_map_right_iff.mpr (List.forall₂_same.mpr fun entry _ => ?_)
          exact ⟨rfl, ih entry.1 entry.2⟩
      | _ => exact .other rfl

/-- An object is an object still. -/
theorem exists_withoutNulls_object (part : String → Layout) (entries : List (String × Json)) :
    ∃ left, withoutNulls (.object part) (.object entries) = .object left :=
  ⟨_, rfl⟩

/-- The same for each item of a list. -/
theorem forall₂_withoutNulls (item : Layout) (values : List Json) :
    List.Forall₂ (Pruned item) values (values.map (withoutNulls item)) :=
  List.forall₂_map_right_iff.mpr (List.forall₂_same.mpr fun value _ =>
    pruned_withoutNulls item value)

/-- Changing what stands under the keys does not change the keys. -/
theorem lookup_map (change : String → Json → Json) (entries : List (String × Json)) (key : String) :
    (entries.map fun entry => (entry.1, change entry.1 entry.2)).lookup key =
      (entries.lookup key).map (change key) := by
  induction entries with
  | nil => rfl
  | cons entry rest ih =>
      obtain ⟨name, value⟩ := entry
      by_cases hkey : key = name
      · subst hkey
        rw [List.map_cons, List.lookup_cons_self, List.lookup_cons_self, Option.map_some]
      · simp only [List.map_cons, List.lookup_cons, beq_false_of_ne hkey, ih]

/-- What stands under a key is found afterwards, with what was deleted inside of it, unless it was
`null`. -/
theorem get?_withoutNulls (part : String → Layout) (value : Json) (key : String) :
    (withoutNulls (.object part) value).get? key =
      ((value.get? key).filter (!·.isNull)).map (withoutNulls (part key)) := by
  cases value with
  | object entries =>
      have hkept : (entries.filter (·.1 ∉ nullKeys entries)).lookup key =
          (entries.lookup key).filter (!·.isNull) := by
        rw [lookup_filter_not_mem]
        cases hlookup : entries.lookup key with
        | none => exact ite_self none
        | some value =>
            simp only [mem_nullKeys, hlookup, Option.some.injEq, ← isNull_iff, Option.filter_some]
            cases value.isNull <;> rfl
      show ((entries.filter (·.1 ∉ nullKeys entries)).map fun entry =>
        (entry.1, withoutNulls (part entry.1) entry.2)).lookup key = _
      rw [lookup_map fun key => withoutNulls (part key), hkept]
      rfl
  | _ => rfl

/-- What stands under a key, or `null`, is what is left of it. -/
theorem value_withoutNulls (part : String → Layout) (value : Json) (key : String) :
    ((withoutNulls (.object part) value).get? key).getD .null =
      withoutNulls (part key) ((value.get? key).getD .null) := by
  have hnull : withoutNulls (part key) .null = .null := by
    cases part key <;> rfl
  rw [get?_withoutNulls]
  cases value.get? key with
  | none => exact hnull.symm
  | some value =>
      cases value with
      | null => exact hnull.symm
      | _ => rfl

/-- The items of an array under a key are what is left of the items that were there. -/
theorem items?_withoutNulls {part : String → Layout} (value : Json) {key : String} {item : Layout}
    (hlist : part key = .list item) :
    ((withoutNulls (.object part) value).get? key).bind Json.items? =
      ((value.get? key).bind Json.items?).map (List.map (withoutNulls item)) := by
  rw [get?_withoutNulls, hlist]
  cases value.get? key with
  | none => rfl
  | some value => cases value <;> rfl

/-- The same with no items when there is no array. -/
theorem items_withoutNulls {part : String → Layout} (value : Json) {key : String} {item : Layout}
    (hlist : part key = .list item) :
    (((withoutNulls (.object part) value).get? key).bind Json.items?).getD [] =
      (((value.get? key).bind Json.items?).getD []).map (withoutNulls item) := by
  rw [items?_withoutNulls value hlist]
  cases (value.get? key).bind Json.items? <;> rfl

variable {α : Type} {item : Layout} {hides : Json → Prop}

/-- Deleting keys with `null` changes what is shown of a value only where they hide something, and
there it does when all of them are deleted. -/
structure NullsHide (layout : Layout) (shown : Json → α) (hides : Json → Prop) : Prop where
  same {before after : Json} (hpruned : Pruned layout before after) (hhides : ¬hides before) :
    shown after = shown before
  changed {value : Json} (hhides : hides value) :
    shown (withoutNulls layout value) ≠ shown value

/-- What is shown of a value goes on being shown, though perhaps as something else. -/
def StaysShown (layout : Layout) (shown : Json → Option α) : Prop :=
  ∀ before after, Pruned layout before after → (shown before).isSome → (shown after).isSome

/-- Where `null` hides whether anything is shown at all, it is known what deleting it changes. -/
theorem nullsHide_of_none {shown : Json → Option α}
    (hsame : ∀ before after, Pruned item before after →
      shown after = shown before ∨ hides before ∧ shown before = none)
    (hseen : ∀ value, hides value →
      shown value = none ∧ (shown (withoutNulls item value)).isSome) :
    NullsHide item shown hides where
  same hpruned hhides := (hsame _ _ hpruned).resolve_right fun h => hhides h.1
  changed hhides heq := by
    obtain ⟨hnone, hsome⟩ := hseen _ hhides
    rw [heq, hnone] at hsome
    cases hsome

/-- And then everything that is shown stays as it is. -/
theorem staysShown_of_none {shown : Json → Option α}
    (hsame : ∀ before after, Pruned item before after →
      shown after = shown before ∨ hides before ∧ shown before = none) :
    StaysShown item shown := by
  intro before after hpruned hshown
  rcases hsame before after hpruned with hsame | ⟨-, hnone⟩
  · rwa [hsame]
  · rw [hnone] at hshown
    cases hshown

/-- The items of a list show what they did when nothing is hidden in any of them. -/
theorem NullsHide.map_eq {shown : Json → α} (hnulls : NullsHide item shown hides)
    {before after : List Json} (hitems : List.Forall₂ (Pruned item) before after)
    (hnone : ∀ value ∈ before, ¬hides value) : after.map shown = before.map shown := by
  induction hitems with
  | nil => rfl
  | cons hfirst _ ih =>
      rw [List.map_cons, List.map_cons, hnulls.same hfirst (hnone _ List.mem_cons_self),
        ih fun other hother => hnone other (List.mem_cons_of_mem _ hother)]

/-- The items of a list show something else when something is hidden in one of them. -/
theorem NullsHide.map_ne {shown : Json → α} (hnulls : NullsHide item shown hides)
    {values : List Json} {value : Json} (hvalue : value ∈ values) (hhides : hides value) :
    (values.map (withoutNulls item)).map shown ≠ values.map shown := by
  rw [List.map_map]
  exact fun hsame => hnulls.changed hhides (List.map_inj_left.mp hsame value hvalue)

/-- The same for items of which some are not shown at all. -/
theorem NullsHide.filterMap_eq {shown : Json → Option α} (hnulls : NullsHide item shown hides)
    {before after : List Json} (hitems : List.Forall₂ (Pruned item) before after)
    (hnone : ∀ value ∈ before, ¬hides value) :
    after.filterMap shown = before.filterMap shown := by
  have hmap := congrArg (List.filterMap id) (hnulls.map_eq hitems hnone)
  rwa [List.filterMap_map, List.filterMap_map] at hmap

/-- No fewer items are shown when keys with `null` are deleted. -/
theorem StaysShown.length_le {shown : Json → Option α} (hstays : StaysShown item shown)
    {before after : List Json} (hitems : List.Forall₂ (Pruned item) before after) :
    (before.filterMap shown).length ≤ (after.filterMap shown).length := by
  induction hitems with
  | nil => exact Nat.le_refl _
  | @cons first second before after hfirst _ ih =>
      rw [List.filterMap_cons, List.filterMap_cons]
      have hsome := hstays first second hfirst
      cases hbefore : shown first with
      | none =>
          cases shown second with
          | none => exact ih
          | some value => exact Nat.le_succ_of_le ih
      | some value =>
          rw [hbefore] at hsome
          obtain ⟨other, hother⟩ := Option.isSome_iff_exists.mp (hsome rfl)
          rw [hother]
          exact Nat.succ_le_succ ih

/-- When the shown items are the same ones, each item shows the same. -/
theorem StaysShown.eq_of_filterMap_eq {shown : Json → Option α} (hstays : StaysShown item shown)
    {values : List Json}
    (hsame : (values.map (withoutNulls item)).filterMap shown = values.filterMap shown) :
    ∀ value ∈ values, shown (withoutNulls item value) = shown value := by
  induction values with
  | nil => nofun
  | cons first rest ih =>
      have hlength : (rest.filterMap shown).length ≤
          ((rest.map (withoutNulls item)).filterMap shown).length :=
        hstays.length_le (forall₂_withoutNulls item rest)
      have hsome := hstays first _ (pruned_withoutNulls item first)
      rw [List.map_cons, List.filterMap_cons, List.filterMap_cons] at hsame
      suffices hfirst : shown (withoutNulls item first) = shown first by
        refine List.forall_mem_cons.mpr ⟨hfirst, ih ?_⟩
        rw [hfirst] at hsame
        cases hshown : shown first with
        | none => rwa [hshown] at hsame
        | some value =>
            rw [hshown] at hsame
            exact (List.cons.inj hsame).2
      cases hbefore : shown first with
      | none =>
          cases hafter : shown (withoutNulls item first) with
          | none => rfl
          | some value =>
              rw [hbefore, hafter] at hsame
              have hmore := congrArg List.length hsame
              simp only [List.length_cons] at hmore
              omega
      | some value =>
          rw [hbefore] at hsome
          obtain ⟨other, hother⟩ := Option.isSome_iff_exists.mp (hsome rfl)
          rw [hbefore, hother] at hsame
          rw [hother, (List.cons.inj hsame).1]

/-- The shown items are others when something is hidden in one of them. -/
theorem NullsHide.filterMap_ne {shown : Json → Option α} (hnulls : NullsHide item shown hides)
    (hstays : StaysShown item shown) {values : List Json} {value : Json} (hvalue : value ∈ values)
    (hhides : hides value) :
    (values.map (withoutNulls item)).filterMap shown ≠ values.filterMap shown :=
  fun hsame => hnulls.changed hhides (hstays.eq_of_filterMap_eq hsame value hvalue)

end SchemaScaffold.Json
