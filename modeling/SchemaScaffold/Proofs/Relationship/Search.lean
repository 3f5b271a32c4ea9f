import SchemaScaffold.Proofs.Relationship.Accessor

/-!
# The search for a new accessor

An accessor that is taken gives way to another one, and in the end numbers are tried until a name
is new. Nothing in that search says when to stop. Here it is written out as a loop without a bound,
whose runs are finite derivations, and is shown to end on the least number that makes the name new.
It always does, because there are more numbers than names in use: with `n` relationships before it,
an accessor gets no number above `n + 1`. What is found depends on all accessors before it, numbered
ones included, and is told by them alone.
-/

namespace SchemaScaffold.Relationship

open Schema (Table Column Reference)

/-- The accessor for a reference, given those that are taken: the name after the target if it is
new, else the one after the column if that is new, else the latter with the least number from two on
that makes it new. The number is at most one above the count of the names that are taken. -/
inductive IsAccessor (used : List String) (byTarget byColumn : String) : String → Prop
  | target (hnew : byTarget ∉ used) : IsAccessor used byTarget byColumn byTarget
  | column (htarget : byTarget ∈ used) (hnew : byColumn ∉ used) :
      IsAccessor used byTarget byColumn byColumn
  | numbered {number : Nat} (htarget : byTarget ∈ used) (hcolumn : byColumn ∈ used)
      (htwo : 2 ≤ number) (hbound : number ≤ used.length + 1)
      (hnew : byColumn ++ toString number ∉ used)
      (hleast : ∀ smaller, 2 ≤ smaller → smaller < number → byColumn ++ toString smaller ∈ used) :
      IsAccessor used byTarget byColumn (byColumn ++ toString number)

/-- A stem that is taken gets the least number that makes it new. -/
theorem exists_numbered_eq {used : List String} {stem : String} (hstem : stem ∈ used) :
    ∃ number, numbered used stem = stem ++ toString number ∧ 2 ≤ number ∧
      number ≤ used.length + 1 ∧ stem ++ toString number ∉ used ∧
      ∀ smaller, 2 ≤ smaller → smaller < number → stem ++ toString smaller ∈ used := by
  obtain ⟨free, hfree, hnew⟩ := exists_number_not_mem hstem
  cases hfound : (List.range used.length).find? (fun n => stem ++ toString (n + 2) ∉ used) with
  | none =>
      have htaken := List.find?_eq_none.mp hfound free (List.mem_range.mpr hfree)
      exact absurd (decide_eq_true hnew) htaken
  | some least =>
      obtain ⟨hleast, hrange, hbefore⟩ := List.find?_range_eq_some.mp hfound
      have hbound := List.mem_range.mp hrange
      refine ⟨least + 2, ?_, by omega, by omega, of_decide_eq_true hleast, ?_⟩
      · rw [numbered, if_neg (not_not.mpr hstem), List.find?_map]
        simp only [Function.comp_def, hfound, Option.map_some, Option.getD_some]
      · intro smaller htwo hsmaller
        have htaken := hbefore (smaller - 2) (by omega)
        simpa [Nat.sub_add_cancel htwo] using htaken

/-- The accessor is chosen in this way. -/
theorem isAccessor_accessor (used : List String) (byTarget byColumn : String) :
    IsAccessor used byTarget byColumn (accessor used byTarget byColumn) := by
  unfold accessor
  split
  case isTrue hnew => exact .target hnew
  case isFalse htarget =>
    by_cases hcolumn : byColumn ∈ used
    · obtain ⟨number, hname, htwo, hbound, hnew, hleast⟩ := exists_numbered_eq hcolumn
      rw [hname]
      exact .numbered (not_not.mp htarget) hcolumn htwo hbound hnew hleast
    · rw [numbered, if_pos hcolumn]
      exact .column (not_not.mp htarget) hcolumn

/-- Which accessor is chosen does not depend on the order in which others were taken. -/
theorem IsAccessor.perm {used others : List String} {byTarget byColumn name : String}
    (hperm : used.Perm others) (haccessor : IsAccessor used byTarget byColumn name) :
    IsAccessor others byTarget byColumn name := by
  cases haccessor with
  | target hnew => exact .target (mt hperm.mem_iff.mpr hnew)
  | column htarget hnew => exact .column (hperm.mem_iff.mp htarget) (mt hperm.mem_iff.mpr hnew)
  | numbered htarget hcolumn htwo hbound hnew hleast =>
      exact .numbered (hperm.mem_iff.mp htarget) (hperm.mem_iff.mp hcolumn) htwo
        (hperm.length_eq ▸ hbound) (mt hperm.mem_iff.mpr hnew) fun smaller htwo hsmaller =>
          hperm.mem_iff.mp (hleast smaller htwo hsmaller)

/-- The search for a name: one that is taken gives way to the stem with the counter behind it, over
and over, until one is new. Where none is, the search finds nothing. -/
inductive Search (used : List String) (stem : String) : Nat → String → String → Prop
  | stop {counter : Nat} {name : String} (hnew : name ∉ used) :
      Search used stem counter name name
  | next {counter : Nat} {name found : String} (htaken : name ∈ used)
      (hrest : Search used stem (counter + 1) (stem ++ toString counter) found) :
      Search used stem counter name found

/-- A search finds one name at most. -/
theorem Search.unique {used : List String} {stem name found other : String} {counter : Nat}
    (hfound : Search used stem counter name found) (hother : Search used stem counter name other) :
    found = other := by
  induction hfound with
  | stop hnew =>
      cases hother with
      | stop => rfl
      | next htaken => exact absurd htaken hnew
  | next htaken _ ih =>
      cases hother with
      | stop hnew => exact absurd htaken hnew
      | next _ hrest => exact ih hrest

/-- The search goes on from a counter to a number as long as all names in between are taken. -/
theorem Search.upTo {used : List String} {stem name : String} {counter number : Nat}
    (htaken : name ∈ used) (hcounter : counter ≤ number)
    (hnew : stem ++ toString number ∉ used)
    (hbetween : ∀ smaller, counter ≤ smaller → smaller < number →
      stem ++ toString smaller ∈ used) :
    Search used stem counter name (stem ++ toString number) := by
  refine .next htaken ?_
  induction hsteps : number - counter generalizing counter with
  | zero =>
      obtain rfl : counter = number := by omega
      exact .stop hnew
  | succ steps ih =>
      refine .next (hbetween counter (Nat.le_refl _) (by omega)) ?_
      exact ih (by omega) (fun smaller hsmaller => hbetween smaller (by omega)) (by omega)

/-- The search for an accessor: it starts from the name after the target, or from the one after the
column when the former is taken. -/
def SearchAccessor (used : List String) (byTarget byColumn found : String) : Prop :=
  let stem := if byTarget ∈ used then byColumn else byTarget
  Search used stem 2 stem found

/-- The search ends on the accessor that is to be chosen. -/
theorem IsAccessor.searchAccessor {used : List String} {byTarget byColumn name : String}
    (haccessor : IsAccessor used byTarget byColumn name) :
    SearchAccessor used byTarget byColumn name := by
  unfold SearchAccessor
  cases haccessor with
  | target hnew =>
      rw [if_neg hnew]
      exact .stop hnew
  | column htarget hnew =>
      rw [if_pos htarget]
      exact .stop hnew
  | numbered htarget hcolumn htwo _ hnew hleast =>
      rw [if_pos htarget]
      exact .upTo hcolumn htwo hnew hleast

/-- The pass through the columns with every accessor searched for, given those that are taken. It
yields nothing when one of the searches does not end. -/
inductive SearchesFrom (names : Convention) :
    List String → List Column → List Relationship → Prop
  | nil {used : List String} : SearchesFrom names used [] []
  | skip {used : List String} {column : Column} {rest : List Column} {found : List Relationship}
      (hnone : column.foreignKey = none) (hrest : SearchesFrom names used rest found) :
      SearchesFrom names used (column :: rest) found
  | make {used : List String} {column : Column} {rest : List Column} {reference : Reference}
      {method : String} {found : List Relationship} (hsome : column.foreignKey = some reference)
      (hmethod : SearchAccessor used (names.belongsTo reference.table) (names.column column.name)
        method)
      (hrest : SearchesFrom names (method :: used) rest found) :
      SearchesFrom names used (column :: rest)
        ({ kind := .belongsTo
           method
           model := names.model reference.table
           table := reference.table
           foreignKey := column.name
           key := reference.key } :: found)

/-- The pass comes to its end with the relationships of the columns, and with nothing else. -/
theorem searchesFrom_iff {names : Convention} {used : List String} {columns : List Column}
    {found : List Relationship} :
    SearchesFrom names used columns found ↔ found = belongsToFrom names used columns := by
  constructor
  · intro hsearches
    induction hsearches with
    | nil => rfl
    | skip hnone _ ih => simp only [belongsToFrom, hnone, ih]
    | make hsome hmethod _ ih =>
        obtain rfl := hmethod.unique (isAccessor_accessor _ _ _).searchAccessor
        simp only [belongsToFrom, hsome, ih]
  · rintro rfl
    induction columns generalizing used with
    | nil => exact .nil
    | cons column rest ih =>
        cases hforeign : column.foreignKey with
        | none =>
            simp only [belongsToFrom, hforeign]
            exact .skip hforeign ih
        | some reference =>
            simp only [belongsToFrom, hforeign]
            exact .make hforeign (isAccessor_accessor _ _ _).searchAccessor ih

/-- The columns that have a reference, each with its first one. -/
def firstReferences (columns : List Column) : List (Column × Reference) :=
  columns.filterMap fun column => column.references.head?.map (column, ·)

/-- A column's first reference makes the relationship at its position: with the column as foreign
key, the table of the reference, its column as key unless that is the usual one or there is none,
and an accessor chosen in view of those before. -/
structure Makes (names : Convention) (used : List String) (column : Column)
    (reference : Reference) (relationship : Relationship) : Prop where
  kind : relationship.kind = .belongsTo
  model : relationship.model = names.model reference.table
  table : relationship.table = reference.table
  foreignKey : relationship.foreignKey = column.name
  key : relationship.key =
    if reference.column.getD "id" = "id" then none else some (reference.column.getD "id")
  method : IsAccessor used (names.belongsTo reference.table) (names.column column.name)
    relationship.method

/-- There are as many relationships as columns with a reference. -/
theorem length_belongsToFrom (names : Convention) (used : List String) (columns : List Column) :
    (belongsToFrom names used columns).length = (firstReferences columns).length := by
  have hlinks : (belongsToFrom names used columns).map link =
      (firstReferences columns).map fun own => (own.1.name, own.2.key, own.2.table) := by
    simp only [map_link_belongsToFrom, firstReferences, Column.foreignKey, List.map_filterMap,
      Option.map_map, Function.comp_def]
  simpa only [List.length_map] using congrArg List.length hlinks

/-- A reference makes the relationship at its position, in view of the accessors that were taken
and of those of the relationships before it. -/
theorem exists_makes (names : Convention) (used : List String) {columns : List Column}
    {position : Nat} {column : Column} {reference : Reference}
    (hposition : (firstReferences columns)[position]? = some (column, reference)) :
    ∃ relationship, (belongsToFrom names used columns)[position]? = some relationship ∧
      Makes names (((belongsToFrom names used columns).take position).map (·.method) ++ used)
        column reference relationship := by
  induction columns generalizing used position with
  | nil => cases hposition
  | cons first rest ih =>
      rw [firstReferences, List.filterMap_cons, ← Column.foreignKey] at hposition
      unfold belongsToFrom
      split
      case h_1 hnone =>
        rw [hnone] at hposition
        exact ih used hposition
      case h_2 own hsome =>
        rw [hsome] at hposition
        cases position with
        | zero =>
            obtain ⟨rfl, rfl⟩ := Prod.mk.inj (Option.some.inj hposition)
            exact ⟨_, rfl, rfl, rfl, rfl, rfl, rfl, isAccessor_accessor used _ _⟩
        | succ position =>
            obtain ⟨relationship, hrelationship, hmakes⟩ := ih _ hposition
            refine ⟨relationship, hrelationship, { hmakes with method := ?_ }⟩
            exact hmakes.method.perm List.perm_middle

/-- The search for accessors ends for every table, whatever the convention, with one result only: a
relationship for each column that has a reference, in the order of the columns. Its accessor is the
one after the target unless an earlier relationship has it, else the one after the column unless an
earlier relationship has that, else the latter with the least number from two on that no earlier
relationship has. So the accessors are pairwise different. -/
theorem search_ends_with_distinct_accessors (names : Convention) (table : Table) :
    (∀ found, SearchesFrom names [] table.columns found ↔ found = belongsTo names table) ∧
      (belongsTo names table).length = (firstReferences table.columns).length ∧
      (∀ position column reference,
        (firstReferences table.columns)[position]? = some (column, reference) →
          ∃ relationship, (belongsTo names table)[position]? = some relationship ∧
            Makes names (((belongsTo names table).take position).map (·.method)) column reference
              relationship) ∧
      ((belongsTo names table).map (·.method)).Nodup := by
  refine ⟨fun _ => searchesFrom_iff, length_belongsToFrom names [] table.columns,
    fun position column reference hposition => ?_, nodup_methods_belongsTo names table⟩
  have hmakes := exists_makes names [] hposition
  rwa [List.append_nil] at hmakes

-- The second column is named like the target, so it gets a number; the last one is named after
-- itself although the target's name is taken. The key is given where it is not the usual one.
example :
    let author (column : String) : Reference :=
      { table := "users", schema := none, column, onDelete := none, onUpdate := none }
    let columns : List Column :=
      [("user_id", "id"), ("user", "uuid"), ("owner", "id"), ("users_id", "email")].map
        fun (name, key) => { name, type := { name := "bigint" }, references := [author key] }
    let posts : Table := { name := "posts", schema := "public", columns, indexes := [] }
    (belongsTo .eloquent posts).map (fun relationship => (relationship.method, relationship.key)) =
      [("user", none), ("user2", some "uuid"), ("owner", none), ("users", some "email")] := by
  decide +kernel

end SchemaScaffold.Relationship
