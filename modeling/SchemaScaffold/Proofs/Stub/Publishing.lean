import SchemaScaffold.Proofs.Disk.Finding
import SchemaScaffold.Proofs.Stub.Loading
import SchemaScaffold.Stub.Publish

/-!
# What publishing stubs does

Once the directories are made, publishing writes the packaged stubs that are due there and nothing
else. It gets to its end exactly when each of the writes that it asks for would succeed right after
the directories are made, since no stub is in the way of another.
-/

namespace SchemaScaffold.Stub

open Disk (IsName Location joinPath)

variable {disk made : Disk} {directory : String} {force : Bool}

/-- Whether publishing writes a stub, once the directories are made. -/
def isDue (made : Disk) (directory : String) (force : Bool) (kind : StubKind) : Bool :=
  !made.pathExists (stubPath directory kind) || force

/-- A stub is not due where it is there, unless it is to be written over. -/
theorem isDue_eq_false_iff {kind : StubKind} :
    isDue made directory force kind = false ↔
      made.pathExists (stubPath directory kind) = true ∧ force = false := by
  rw [isDue, Bool.or_eq_false_iff, Bool.not_eq_false']

/-- The stub of a kind can be written if it is due. -/
def Writable (made : Disk) (directory : String) (force : Bool) (kind : StubKind) : Prop :=
  isDue made directory force kind = true →
    ∃ after, made.write (stubPath directory kind) (.text kind.packaged) = (after, none)

/-- The operations that publishing asks for succeed: making the directories, and then writing each
stub that is due. -/
structure Granted (disk : Disk) (directory : String) (force : Bool) : Prop where
  made : (disk.createDirectories directory).2 = none
  writable : ∀ kind, Writable (disk.createDirectories directory).1 directory force kind

/-- The stubs of some kinds were published after the directories were made: those that are due are
there as they are packaged, no directory was in the way of them, and nothing else has changed. -/
structure Filled (made : Disk) (directory : String) (force : Bool) (kinds : List StubKind)
    (done : Published) : Prop where
  fault : done.fault = none
  setting : done.disk.setting = made.setting
  breaksOff : done.disk.breaksOff = made.breaksOff
  free : ∀ kind ∈ kinds, isDue made directory force kind = true →
    made.node? (stubPlace made directory kind) ≠ some .directory
  stub : ∀ kind ∈ kinds, isDue made directory force kind = true →
    done.disk.node? (stubPlace made directory kind) = some (.file (.text kind.packaged))
  other : ∀ place, (∀ kind ∈ kinds, isDue made directory force kind = true →
    place ≠ stubPlace made directory kind) → done.disk.node? place = made.node? place
  written : done.written = (kinds.filter (isDue made directory force)).map (stubPath directory)

variable {kinds coming : List StubKind} {kind : StubKind} {done : Published}

/-- Publishing that has stopped does nothing more. -/
theorem foldl_add_of_fault (hfault : done.fault ≠ none) (coming : List StubKind) :
    coming.foldl (Published.add directory force) done = done := by
  induction coming with
  | nil => rfl
  | cons kind rest ih =>
      have hstop : done.add directory force kind = done :=
        if_pos (Option.isSome_iff_ne_none.mpr hfault)
      rw [List.foldl_cons, hstop, ih]

/-- A stub that is not due is kept. -/
theorem add_of_not_due (hfault : done.fault = none)
    (hdue : isDue done.disk directory force kind = false) :
    done.add directory force kind =
      { done with events := done.events ++ [.kept (stubPath directory kind)] } := by
  obtain ⟨hexists, rfl⟩ := isDue_eq_false_iff.mp hdue
  rw [stubPath] at hexists
  simp only [Published.add, hfault, hexists]
  rfl

/-- A stub that is due is written, or publishing stops. -/
theorem add_of_due (hfault : done.fault = none)
    (hdue : isDue done.disk directory force kind = true) :
    done.add directory force kind =
      match done.disk.write (stubPath directory kind) (.text kind.packaged) with
      | (after, none) =>
        { done with
          written := done.written ++ [stubPath directory kind]
          events := done.events ++ [.published (stubPath directory kind)]
          disk := after }
      | (after, some fault) => { done with disk := after, fault := some fault } := by
  have hfree : (done.disk.pathExists (joinPath directory kind.fileName) && !force) = false := by
    rw [← Bool.not_eq_true', Bool.not_and, Bool.not_not]
    exact hdue
  simp only [Published.add, hfault, hfree]
  rfl

/-- Where every stub is there already, publishing keeps them all and does nothing else. -/
theorem foldl_add_of_exists (hfault : done.fault = none)
    (hexists : ∀ kind ∈ coming, done.disk.pathExists (stubPath directory kind) = true) :
    coming.foldl (Published.add directory false) done =
      { done with events := done.events ++ coming.map fun kind => .kept (stubPath directory kind) }
      := by
  induction coming generalizing done with
  | nil => rw [List.foldl_nil, List.map_nil, List.append_nil]
  | cons kind rest ih =>
      obtain ⟨hhead, hrest⟩ := List.forall_mem_cons.mp hexists
      rw [List.foldl_cons, add_of_not_due hfault (isDue_eq_false_iff.mpr ⟨hhead, rfl⟩)]
      have hothers := @ih
        { done with events := done.events ++ [.kept (stubPath directory kind)] } hfault hrest
      rw [hothers, List.append_assoc]
      rfl

namespace Filled

/-- All directories are kept. -/
theorem keeps (hfilled : Filled made directory force kinds done) : made.Keeps done.disk where
  setting := hfilled.setting
  directories place hplace := by
    rw [hfilled.other place, hplace]
    rintro kind hkind hdue rfl
    exact hfilled.free kind hkind hdue hplace

/-- The path of the directory leads there if it did. -/
theorem leads_iff (hfilled : Filled made directory force kinds done) :
    done.disk.Leads directory ↔ made.Leads directory := by
  refine ⟨fun hleads => ?_, hfilled.keeps.leads⟩
  have hback : done.disk.Keeps made := by
    refine ⟨hfilled.setting.symm, fun place hplace => ?_⟩
    rw [← hfilled.other place, hplace]
    rintro kind hkind hdue rfl
    rw [hfilled.stub kind hkind hdue] at hplace
    cases hplace
  exact hback.leads hleads

/-- The stub of a kind whose turn is still to come is as it was. -/
theorem node?_of_not_mem (hfilled : Filled made directory force kinds done)
    (hkind : kind ∉ kinds) :
    done.disk.node? (stubPlace made directory kind) =
      made.node? (stubPlace made directory kind) := by
  apply hfilled.other
  intro other hother _ hsame
  obtain rfl := stubPlace_injective made directory hsame
  exact hkind hother

/-- A stub whose turn is still to come is due if it was due. -/
theorem isDue_of_not_mem (hfilled : Filled made directory force kinds done)
    (hkind : kind ∉ kinds) :
    isDue done.disk directory force kind = isDue made directory force kind := by
  have hexists : done.disk.pathExists (stubPath directory kind) =
      made.pathExists (stubPath directory kind) := by
    rw [Bool.eq_iff_iff, pathExists_stubPath_iff, pathExists_stubPath_iff, hfilled.leads_iff,
      stubPlace_congr hfilled.setting, hfilled.node?_of_not_mem hkind]
  rw [isDue, isDue, hexists]

/-- A stub whose turn is still to come can be written if it could be, and then only its place
changes. -/
theorem write_eq_none_iff (hfilled : Filled made directory force kinds done)
    (hkind : kind ∉ kinds) {content : Content} {after : Disk} :
    done.disk.write (stubPath directory kind) content = (after, none) ↔
      (∃ made', made.write (stubPath directory kind) content = (made', none)) ∧
        after = done.disk.putNode (stubPlace made directory kind) (.file content) := by
  have hrefuses : done.disk.refuses = made.refuses := congrArg Prod.snd hfilled.setting
  have hnode := hfilled.node?_of_not_mem hkind
  simp only [stubPath, Disk.write_joinPath_eq_none_iff (isName_fileName kind), hfilled.leads_iff,
    hfilled.keeps.placeOf, hrefuses, hfilled.breaksOff]
  simp only [stubPlace] at hnode
  rw [hnode]
  simp only [stubPlace, exists_and_left, exists_eq, and_true, and_assoc]

/-- A stub whose turn comes can be written if publishing does not stop at it. -/
theorem writable_of_add (hfilled : Filled made directory force kinds done) (hkind : kind ∉ kinds)
    (hfault : (done.add directory force kind).fault = none) :
    Writable made directory force kind := by
  intro hdue
  rw [add_of_due hfilled.fault ((hfilled.isDue_of_not_mem hkind).trans hdue)] at hfault
  cases hwrite : done.disk.write (stubPath directory kind) (.text kind.packaged) with
  | mk after fault? =>
      rw [hwrite] at hfault
      cases fault? with
      | some fault => cases hfault
      | none => exact ((hfilled.write_eq_none_iff hkind).mp hwrite).1

/-- One more stub is published. -/
theorem add (hfilled : Filled made directory force kinds done) (hkind : kind ∉ kinds)
    (hwritable : Writable made directory force kind) :
    Filled made directory force (kinds ++ [kind]) (done.add directory force kind) := by
  have hsame := hfilled.isDue_of_not_mem hkind
  cases hdue : isDue made directory force kind with
  | false =>
      rw [add_of_not_due hfilled.fault (hsame.trans hdue)]
      have hbefore : ∀ other ∈ kinds ++ [kind], isDue made directory force other = true →
          other ∈ kinds := by
        intro other hother hotherDue
        rcases List.mem_append.mp hother with hbefore | hlast
        · exact hbefore
        · rw [List.mem_singleton.mp hlast, hdue] at hotherDue
          cases hotherDue
      refine
        { hfilled with
          free := fun other hother hotherDue =>
            hfilled.free other (hbefore other hother hotherDue) hotherDue
          stub := fun other hother hotherDue =>
            hfilled.stub other (hbefore other hother hotherDue) hotherDue
          other := fun place hplace =>
            hfilled.other place fun other hother => hplace other (List.mem_append_left _ hother)
          written := ?_ }
      rw [List.filter_append, List.filter_cons_of_neg (by simp [hdue]), List.filter_nil,
        List.append_nil]
      exact hfilled.written
  | true =>
      obtain ⟨made', hwrite⟩ := hwritable hdue
      have hput := (hfilled.write_eq_none_iff hkind).mpr ⟨⟨made', hwrite⟩, rfl⟩
      rw [add_of_due hfilled.fault (hsame.trans hdue), hput]
      constructor
      case fault => exact hfilled.fault
      case setting => exact hfilled.setting
      case breaksOff => exact hfilled.breaksOff
      case free =>
        intro other hother hotherDue
        rcases List.mem_append.mp hother with hbefore | hlast
        · exact hfilled.free other hbefore hotherDue
        · rw [List.mem_singleton.mp hlast]
          exact ((Disk.write_joinPath_eq_none_iff (isName_fileName kind)).mp hwrite).2.2.2.1
      case stub =>
        intro other hother hotherDue
        by_cases hlast : other = kind
        · rw [hlast]
          exact Disk.node?_putNode_self _ (by simp [stubPlace]) _
        · have hbefore : other ∈ kinds := by simpa [hlast] using hother
          rw [Disk.node?_putNode_of_ne _ ((stubPlace_injective made directory).ne hlast)]
          exact hfilled.stub other hbefore hotherDue
      case other =>
        intro place hplace
        rw [Disk.node?_putNode_of_ne _ (hplace kind (by simp) hdue)]
        exact hfilled.other place fun other hother => hplace other (List.mem_append_left _ hother)
      case written =>
        rw [List.filter_append, List.filter_cons_of_pos hdue, List.filter_nil, List.map_append,
          ← hfilled.written]
        rfl

/-- All stubs that are to come are published, if they can be written. -/
theorem foldl_add (hfilled : Filled made directory force kinds done)
    (hnodup : (kinds ++ coming).Nodup)
    (hwritable : ∀ kind ∈ coming, Writable made directory force kind) :
    Filled made directory force (kinds ++ coming)
      (coming.foldl (Published.add directory force) done) := by
  induction coming generalizing kinds done with
  | nil => rwa [List.append_nil]
  | cons kind rest ih =>
      obtain ⟨hhead, hrest⟩ := List.forall_mem_cons.mp hwritable
      have hkind : kind ∉ kinds := fun hmem =>
        (List.nodup_append.mp hnodup).2.2 kind hmem kind List.mem_cons_self rfl
      rw [List.append_cons] at hnodup ⊢
      exact ih (hfilled.add hkind hhead) hnodup hrest

/-- All stubs that are to come can be written, if publishing does not stop at one. -/
theorem writable_of_foldl_add (hfilled : Filled made directory force kinds done)
    (hnodup : (kinds ++ coming).Nodup)
    (hfault : (coming.foldl (Published.add directory force) done).fault = none) :
    ∀ kind ∈ coming, Writable made directory force kind := by
  induction coming generalizing kinds done with
  | nil => nofun
  | cons kind rest ih =>
      have hkind : kind ∉ kinds := fun hmem =>
        (List.nodup_append.mp hnodup).2.2 kind hmem kind List.mem_cons_self rfl
      have hgoesOn : (done.add directory force kind).fault = none := by
        refine Decidable.byContradiction fun hstops => ?_
        rw [List.foldl_cons, foldl_add_of_fault hstops] at hfault
        exact hstops hfault
      have hwritable := hfilled.writable_of_add hkind hgoesOn
      rw [List.append_cons] at hnodup
      exact List.forall_mem_cons.mpr ⟨hwritable, ih (hfilled.add hkind hwritable) hnodup hfault⟩

end Filled

/-- There are no kinds but these. -/
theorem mem_all (kind : StubKind) : kind ∈ StubKind.all := by
  cases kind <;> decide

/-- Where the directories could be made, nothing has been published at first. -/
theorem filled_nil (made : Disk) (directory : String) (force : Bool) :
    Filled made directory force [] { disk := made } :=
  ⟨rfl, rfl, rfl, nofun, nofun, fun _ _ => rfl, rfl⟩

/-- Where the directories can be made, the kinds are published one after another. -/
theorem publish_eq_foldl (hmade : (disk.createDirectories directory).2 = none) :
    publish directory force disk =
      StubKind.all.foldl (Published.add directory force)
        { disk := (disk.createDirectories directory).1 } := by
  have heq : disk.createDirectories directory =
      ((disk.createDirectories directory).1, none) := Prod.ext rfl hmade
  rw [publish, heq]

/-- Publishing fills the directory, when the operations that it asks for succeed. -/
theorem filled_publish (hgranted : Granted disk directory force) :
    Filled (disk.createDirectories directory).1 directory force StubKind.all
      (publish directory force disk) := by
  rw [publish_eq_foldl hgranted.made]
  exact (filled_nil _ directory force).foldl_add (by decide) fun kind _ => hgranted.writable kind

/-- Publishing gets to its end exactly when the operations that it asks for succeed. -/
theorem granted_iff :
    Granted disk directory force ↔ (publish directory force disk).fault = none := by
  refine ⟨fun hgranted => (filled_publish hgranted).fault, fun hfault => ?_⟩
  have hmade : (disk.createDirectories directory).2 = none := by
    unfold publish at hfault
    split at hfault
    case h_1 => cases hfault
    case h_2 made heq => rw [heq]
  rw [publish_eq_foldl hmade] at hfault
  have hwritable := (filled_nil _ directory force).writable_of_foldl_add (by decide) hfault
  exact ⟨hmade, fun kind => hwritable kind (mem_all kind)⟩

end SchemaScaffold.Stub
