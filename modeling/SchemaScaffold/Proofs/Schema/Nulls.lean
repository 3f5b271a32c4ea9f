import SchemaScaffold.Proofs.Catalog.Nulls
import SchemaScaffold.Proofs.Schema.Congruence

/-!
# An export without its `null`s

Any keys that hold `null` are deleted from the objects of an export. What is linked of its tables
and enumerations then changes where something was hidden and nowhere else, refs have the same effect
as before, and an export that is rejected stays so. Of several enumerations of one name only the
last one counts, for it hides the others whatever is in them.
-/

namespace SchemaScaffold.Catalog.Export

open Json (Pruned withoutNulls)
open Schema (Endpoint.Alike attach Untold)

/-- An end of a ref stays the same, or has no token before and after. -/
theorem alike_endpoint (schema : Option String) {before after : Json}
    (hpruned : Pruned plainLayout before after) :
    Endpoint.Alike (endpoint schema before) (endpoint schema after) := by
  have hcolumns : ((after.get? "fieldNames").map textList).getD [] =
      ((before.get? "fieldNames").map textList).getD [] :=
    hpruned.read_eq rfl (fun found => (found.map textList).getD []) rfl
  rcases hpruned.get?_eq "relation" rfl with ⟨hbefore, hafter⟩ | hsame
  · right
    constructor
    · intro token htoken
      rw [endpoint, hbefore] at htoken
      exact (Option.some.inj htoken).symm
    · intro token htoken
      rw [endpoint, hafter] at htoken
      cases htoken
  · left
    rw [endpoint, endpoint, hcolumns, hsame, text?_eq_of_pruned hpruned "schemaName" rfl,
      text?_eq_of_pruned hpruned "tableName" rfl]

/-- A ref does the same to the tables. -/
theorem attach_ref (index : Schema.ColumnIndex) (tables : List Schema.Table)
    (schema : Option String) {before after : Json} (hpruned : Pruned refLayout before after) :
    attach index tables (ref schema after) = attach index tables (ref schema before) := by
  refine Schema.attach_congr index tables (text?_eq_of_pruned hpruned "onDelete" rfl)
    (text?_eq_of_pruned hpruned "onUpdate" rfl) ?_
  refine List.forall₂_map_left_iff.mpr (List.forall₂_map_right_iff.mpr ?_)
  exact (hpruned.items "endpoints" rfl).imp fun _ _ hend => alike_endpoint schema hend

/-- The nodes that schemas declare under a key, each with the name of the schema around it. -/
def declared (key : String) (schemas : List Json) : List (Option String × Json) :=
  schemas.flatMap fun schema => (list schema key).map fun node => (text? schema "name", node)

/-- The tables of schemas are read from what these declare, and so are enumerations and refs. -/
theorem tablesOf_eq (schemas : List Json) :
    tablesOf schemas = (declared "tables" schemas).map fun node => table node.1 node.2 := by
  rw [declared, List.map_flatMap, tablesOf]
  simp only [List.map_map, Function.comp_def]

theorem enumerationsOf_eq (schemas : List Json) :
    enumerationsOf schemas =
      (declared "enums" schemas).map fun node => enumeration node.1 node.2 := by
  rw [declared, List.map_flatMap, enumerationsOf]
  simp only [List.map_map, Function.comp_def]

theorem refsOf_eq (schemas : List Json) :
    refsOf schemas = (declared "refs" schemas).map fun node => ref node.1 node.2 := by
  rw [declared, List.map_flatMap, refsOf]
  simp only [List.map_map, Function.comp_def]

/-- What schemas declare has changed one by one, in schemas of the same names. -/
theorem declared_of_pruned {part : String → Json.Layout} (key : String) {item : Json.Layout}
    (hlist : part key = .list item) (hname : part "name" = .fixed) {before after : List Json}
    (hschemas : List.Forall₂ (Pruned (.object part)) before after) :
    List.Forall₂ (fun first second => second.1 = first.1 ∧ Pruned item first.2 second.2)
      (declared key before) (declared key after) := by
  induction hschemas with
  | nil => exact .nil
  | @cons first second before after hfirst _ ih =>
      have hnodes : List.Forall₂
          (fun first second : Option String × Json =>
            second.1 = first.1 ∧ Pruned item first.2 second.2)
          ((list first key).map fun node => (text? first "name", node))
          ((list second key).map fun node => (text? second "name", node)) := by
        refine List.forall₂_map_left_iff.mpr (List.forall₂_map_right_iff.mpr ?_)
        exact (hfirst.items key hlist).imp fun _ _ hnode =>
          ⟨text?_eq_of_pruned hfirst "name" hname, hnode⟩
      rw [declared, declared, List.flatMap_cons, List.flatMap_cons]
      exact List.rel_append hnodes ih

/-- When all is deleted, each of the nodes is what is left of it. -/
theorem declared_withoutNulls {part : String → Json.Layout} {key : String} {item : Json.Layout}
    (hlist : part key = .list item) (hname : part "name" = .fixed) (schemas : List Json) :
    declared key (schemas.map (withoutNulls (.object part))) =
      (declared key schemas).map fun node => (node.1, withoutNulls item node.2) := by
  rw [declared, declared, List.flatMap_map, List.map_flatMap]
  congr 1
  funext schema
  rw [text?_eq_of_pruned (Json.pruned_withoutNulls _ schema) "name" hname, list,
    Json.items_withoutNulls schema hlist, List.map_map, List.map_map]
  rfl

/-- All refs together do the same to the tables. -/
theorem foldl_attach_refsOf {before after : List Json}
    (hschemas : List.Forall₂ (Pruned schemaLayout) before after) (index : Schema.ColumnIndex)
    (tables : List Schema.Table) :
    (refsOf after).foldl (attach index) tables = (refsOf before).foldl (attach index) tables := by
  have hrefs := declared_of_pruned "refs" rfl rfl hschemas
  rw [refsOf_eq, refsOf_eq, List.foldl_map, List.foldl_map]
  generalize declared "refs" before = first at hrefs
  generalize declared "refs" after = second at hrefs
  induction hrefs generalizing tables with
  | nil => rfl
  | cons hfirst _ ih =>
      rw [List.foldl_cons, List.foldl_cons, hfirst.1, attach_ref index tables _ hfirst.2, ih]

/-- The tables are the same one by one when nothing is hidden in them. -/
theorem map_tablesOf_of_pruned {before after : List Json}
    (hschemas : List.Forall₂ (Pruned schemaLayout) before after)
    (hnothing : ∀ node ∈ declared "tables" before, ¬HidesInTable node.2) :
    (tablesOf after).map Schema.Table.ofCatalog = (tablesOf before).map Schema.Table.ofCatalog := by
  have htables := declared_of_pruned "tables" rfl rfl hschemas
  rw [tablesOf_eq, tablesOf_eq, List.map_map, List.map_map]
  generalize declared "tables" before = first at htables hnothing
  generalize declared "tables" after = second at htables
  induction htables with
  | nil => rfl
  | @cons first second before after hfirst _ ih =>
      have hsame := (nullsHide_table first.1).same hfirst.2 (hnothing first List.mem_cons_self)
      rw [List.map_cons, List.map_cons, Function.comp_apply, Function.comp_apply, hfirst.1,
        ih fun node hnode => hnothing node (List.mem_cons_of_mem _ hnode)]
      exact congrArg (· :: _) hsame

/-- And they are not when something is hidden in one of them and all is deleted. -/
theorem map_tablesOf_withoutNulls {schemas : List Json} {node : Option String × Json}
    (hnode : node ∈ declared "tables" schemas) (hhides : HidesInTable node.2) :
    (tablesOf (schemas.map (withoutNulls schemaLayout))).map Schema.Table.ofCatalog ≠
      (tablesOf schemas).map Schema.Table.ofCatalog := by
  rw [tablesOf_eq, tablesOf_eq, schemaLayout, declared_withoutNulls rfl rfl, List.map_map,
    List.map_map, List.map_map]
  exact fun hsame => (nullsHide_table node.1).changed hhides (List.map_inj_left.mp hsame node hnode)

/-- The nodes of all enumerations that schemas declare. -/
def enumerationNodes (schemas : List Json) : List Json := schemas.flatMap (list · "enums")

/-- The enumerations as they are linked, each under its name. -/
def shownEnumerations (nodes : List Json) : List (String × Schema.Enumeration) :=
  nodes.foldl (fun enums node => Keyed.put (enumerationName node) (shownEnumeration node) enums) []

/-- Of the enumerations of its name, this one is declared last, and hides the others. -/
def IsShown (nodes : List Json) (node : Json) : Prop :=
  ∃ before after, nodes = before ++ node :: after ∧
    ∀ later ∈ after, enumerationName later ≠ enumerationName node

/-- The enumerations of a catalog are those of the nodes it was read from. -/
theorem enums_ofCatalog (catalog : Catalog) {schemas : List Json}
    (henums : catalog.enums = enumerationsOf schemas) :
    (Schema.ofCatalog catalog).enums = shownEnumerations (enumerationNodes schemas) := by
  have hnodes : enumerationNodes schemas = (declared "enums" schemas).map Prod.snd := by
    rw [declared, List.map_flatMap]
    simp only [List.map_map, Function.comp_def, List.map_id']
    rfl
  rw [shownEnumerations, hnodes, List.foldl_map, Schema.ofCatalog, henums, enumerationsOf_eq,
    List.foldl_map]
  rfl

/-- The enumerations are the same when nothing is hidden in those that show. -/
theorem shownEnumerations_of_pruned {before after : List Json}
    (hnodes : List.Forall₂ (Pruned enumerationLayout) before after)
    (hnothing : ∀ node, IsShown before node → ¬HidesInEnumeration node) :
    shownEnumerations after = shownEnumerations before := by
  have hlength := hnodes.length_eq
  have hfirst : (before.zip after).map Prod.fst = before :=
    List.map_fst_zip (Nat.le_of_eq hlength)
  have hsecond : (before.zip after).map Prod.snd = after :=
    List.map_snd_zip (Nat.le_of_eq hlength.symm)
  have hpairs : ∀ pair ∈ before.zip after, Pruned enumerationLayout pair.1 pair.2 :=
    fun _ hpair => (List.forall₂_iff_zip.mp hnodes).2 hpair
  generalize before.zip after = pairs at hfirst hsecond hpairs
  subst hfirst hsecond
  -- Both lists are put in order of the pairs, under the names that the pairs have before.
  have hnames : shownEnumerations (pairs.map Prod.snd) =
      pairs.foldl (fun enums pair =>
        Keyed.put (enumerationName pair.1) (shownEnumeration pair.2) enums) [] := by
    rw [shownEnumerations, List.foldl_map]
    refine List.foldl_ext _ _ _ fun enums pair hpair => ?_
    rw [enumerationName_of_pruned (hpairs pair hpair)]
  rw [hnames, shownEnumerations, List.foldl_map]
  refine (Keyed.foldl_put_eq_iff (fun pair : Json × Json => enumerationName pair.1)
    _ _ pairs).mpr ?_
  rintro front ⟨first, second⟩ back rfl hlater
  have hshown : IsShown ((front ++ (first, second) :: back).map Prod.fst) first := by
    refine ⟨front.map Prod.fst, back.map Prod.fst, by simp, ?_⟩
    exact List.forall_mem_map.mpr hlater
  exact nullsHide_enumeration.same (hpairs (first, second) (by simp)) (hnothing first hshown)

/-- And they are not when something is hidden in one that shows, and all is deleted. -/
theorem shownEnumerations_withoutNulls {nodes : List Json} {node : Json}
    (hshown : IsShown nodes node) (hhides : HidesInEnumeration node) :
    shownEnumerations (nodes.map (withoutNulls enumerationLayout)) ≠ shownEnumerations nodes := by
  intro hsame
  obtain ⟨before, after, hnodes, hlater⟩ := hshown
  have hname (node : Json) : enumerationName (withoutNulls enumerationLayout node) =
      enumerationName node :=
    enumerationName_of_pruned (Json.pruned_withoutNulls enumerationLayout node)
  rw [shownEnumerations, shownEnumerations, List.foldl_map] at hsame
  simp only [hname] at hsame
  have hagree := (Keyed.foldl_put_eq_iff enumerationName _ shownEnumeration nodes).mp hsame
  exact nullsHide_enumeration.changed hhides (hagree before node after hnodes hlater)

/-- Nothing is hidden by `null` in schemas: no column of an index of a table and no type of a
field, and no value of an enumeration that shows. -/
structure HidesNothing (schemas : List Json) : Prop where
  tables : ∀ schema ∈ schemas, ∀ table ∈ list schema "tables", ¬HidesInTable table
  enumerations : ∀ node, IsShown (enumerationNodes schemas) node → ¬HidesInEnumeration node

/-- Where there are no schemas, nothing is hidden. -/
theorem hidesNothing_nil : HidesNothing [] where
  tables _ hschema := absurd hschema List.not_mem_nil
  enumerations node hshown := by
    obtain ⟨before, after, hnone, -⟩ := hshown
    exact absurd hnone.symm (List.append_ne_nil_of_right_ne_nil before (List.cons_ne_nil node after))

/-- Schemas in which nothing is hidden are linked alike when keys with `null` are deleted. -/
theorem ofCatalog_of_pruned {before after : List Json}
    (hschemas : List.Forall₂ (Pruned schemaLayout) before after) (hnothing : HidesNothing before) :
    Schema.ofCatalog (catalogOf after) = Schema.ofCatalog (catalogOf before) := by
  have htables : (Schema.ofCatalog (catalogOf after)).tables =
      (Schema.ofCatalog (catalogOf before)).tables := by
    refine (Schema.tables_ofCatalog_eq_iff (foldl_attach_refsOf hschemas)).mpr ?_
    refine map_tablesOf_of_pruned hschemas fun node hnode => ?_
    obtain ⟨schema, hschema, hnode⟩ := List.mem_flatMap.mp hnode
    obtain ⟨table, htable, rfl⟩ := List.mem_map.mp hnode
    exact hnothing.tables schema hschema table htable
  have henums : (Schema.ofCatalog (catalogOf after)).enums =
      (Schema.ofCatalog (catalogOf before)).enums := by
    have hnodes : List.Forall₂ (Pruned enumerationLayout) (enumerationNodes before)
        (enumerationNodes after) :=
      List.rel_flatMap hschemas fun _ _ hschema => hschema.items "enums" rfl
    rw [enums_ofCatalog _ rfl, enums_ofCatalog _ rfl]
    exact shownEnumerations_of_pruned hnodes hnothing.enumerations
  calc Schema.ofCatalog (catalogOf after)
      = ⟨(Schema.ofCatalog (catalogOf after)).tables, (Schema.ofCatalog (catalogOf after)).enums⟩ :=
        rfl
    _ = Schema.ofCatalog (catalogOf before) := by rw [htables, henums]

/-- Schemas in which something is hidden are not linked alike when all such keys are deleted. -/
theorem hidesNothing_of_ofCatalog_eq {schemas : List Json}
    (hsame : Schema.ofCatalog (catalogOf (schemas.map (withoutNulls schemaLayout))) =
      Schema.ofCatalog (catalogOf schemas)) : HidesNothing schemas := by
  have hschemas := Json.forall₂_withoutNulls schemaLayout schemas
  constructor
  · intro schema hschema table htable hhides
    have htables := (Schema.tables_ofCatalog_eq_iff (foldl_attach_refsOf hschemas)).mp
      (congrArg Schema.tables hsame)
    have hnode : (text? schema "name", table) ∈ declared "tables" schemas :=
      List.mem_flatMap.mpr ⟨schema, hschema, List.mem_map.mpr ⟨table, htable, rfl⟩⟩
    exact map_tablesOf_withoutNulls hnode hhides htables
  · intro node hshown hhides
    have henums := congrArg Schema.enums hsame
    have hnodes : enumerationNodes (schemas.map (withoutNulls schemaLayout)) =
        (enumerationNodes schemas).map (withoutNulls enumerationLayout) := by
      rw [enumerationNodes, enumerationNodes, List.flatMap_map, List.map_flatMap]
      congr 1
      funext schema
      exact Json.items_withoutNulls schema rfl
    rw [enums_ofCatalog _ rfl, enums_ofCatalog _ rfl, hnodes] at henums
    exact shownEnumerations_withoutNulls hshown hhides henums

/-- In an export, keys that hold `null` mean the same as missing keys exactly when no `null` hides
something: then the same schema is linked whichever of these keys are deleted from the export, its
schemas, their tables, enumerations and refs, and the fields, types, indexes, columns of indexes,
values and endpoints in them, and an export is rejected for the same reason. -/
theorem nulls_are_missing_iff (database : Json) :
    (∀ after, Pruned layout database after →
        (ofExport after).map Schema.ofCatalog = (ofExport database).map Schema.ofCatalog) ↔
      HidesNothing (list database "schemas") := by
  constructor
  · intro hsame
    have hdeleted := hsame _ (Json.pruned_withoutNulls layout database)
    have hentries : (withoutNulls layout database).entries?.isNone = database.entries?.isNone := by
      cases database <;> rfl
    rw [ofExport_eq, ofExport_eq, hentries, layout,
      Json.items?_withoutNulls database rfl] at hdeleted
    rw [list]
    cases hschemas : (database.get? "schemas").bind Json.items? with
    | none => exact hidesNothing_nil
    | some schemas =>
        have hobject : database.entries?.isNone = false := by
          cases database with
          | object entries => rfl
          | _ => cases hschemas
        rw [hobject, hschemas] at hdeleted
        exact hidesNothing_of_ofCatalog_eq (Except.ok.inj hdeleted)
  · intro hnothing after hpruned
    have hentries : after.entries?.isNone = database.entries?.isNone := by
      cases hpruned <;> rfl
    have hschemas := hpruned.items? "schemas" rfl
    rw [ofExport_eq, ofExport_eq, hentries]
    rw [list] at hnothing
    generalize (database.get? "schemas").bind Json.items? = first at hschemas hnothing
    generalize (after.get? "schemas").bind Json.items? = second at hschemas
    split
    · rfl
    · cases hschemas with
      | none => rfl
      | some hschemas => exact congrArg Except.ok (ofCatalog_of_pruned hschemas hnothing)

end SchemaScaffold.Catalog.Export
