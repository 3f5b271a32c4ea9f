import SchemaScaffold.Proofs.Disk.Place
import SchemaScaffold.Proofs.Text.Decoding

/-!
# What operations on a disk do

Each operation is described by what can be seen after it: which places hold what, which paths lead
somewhere, and that the disk is still a tree. Making directories only adds directories, where the
path goes through, and adds none where the path leads already. Writing through a path changes one
place besides. Both are also told for the case that they fail half way, since a run goes on with the
disk that they leave: a file whose writing breaks off is there all the same, and what it held before
is lost.
-/

namespace SchemaScaffold.Disk

open Json (bind_eq_ok)

variable {disk after : Disk} {directory name : String}

/-- The path of a file goes along the path of its directory, up to a slash at its end, and then by
the name of the file. -/
theorem joinPath_parts (disk : Disk) (directory : String) (hname : IsName name) :
    ∃ lead, pathParts (joinPath directory name) = lead ++ [name] ∧
      disk.startOf (joinPath directory name) = disk.startOf directory ∧
      (pathParts directory = lead ∨ pathParts directory = lead ++ [""]) := by
  rcases joinPath_name directory hname with ⟨rfl, hjoin⟩ | ⟨front, hdirectory, hjoin⟩
  · rw [hjoin]
    refine ⟨[], pathParts_name hname, ?_, .inr rfl⟩
    rw [startOf, isAbsolute_name hname]
    rfl
  · rw [hjoin, pathParts_slash, pathParts_name hname]
    refine ⟨_, rfl, ?_⟩
    rcases hdirectory with ⟨rfl, hfront⟩ | rfl
    · rw [String.append_assoc]
      exact ⟨startOf_append disk hfront _, .inl rfl⟩
    · exact ⟨startOf_append disk (by simp) _, .inr (pathParts_trailing front)⟩

/-- A zero character in the path of a file comes from the path of its directory. -/
theorem nul_mem_joinPath (directory : String) (hname : IsName name) :
    '\x00' ∈ (joinPath directory name).toList ↔ '\x00' ∈ directory.toList := by
  rcases joinPath_name directory hname with ⟨rfl, hjoin⟩ | ⟨front, ⟨rfl, -⟩ | rfl, hjoin⟩ <;>
    simp [hjoin, hname.no_nul]

/-- A slash at the end of a path leads on where there is a directory. -/
theorem foldlM_step_trailing {lead : List String} {here there : Location} :
    (lead ++ [""]).foldlM disk.step here = .ok there ↔
      lead.foldlM disk.step here = .ok there ∧ disk.node? there = some .directory := by
  have hstay (middle : Location) : disk.step middle "" = .ok there ↔
      disk.node? middle = some .directory ∧ middle = there := by
    rcases hmiddle : disk.node? middle with _ | content | _ <;> simp [step, hmiddle]
  rw [foldlM_step_concat]
  constructor
  · rintro ⟨middle, hwalk, hstep⟩
    obtain ⟨hmiddle, rfl⟩ := (hstay middle).mp hstep
    exact ⟨hwalk, hmiddle⟩
  · rintro ⟨hwalk, hthere⟩
    exact ⟨there, hwalk, (hstay there).mpr ⟨hthere, rfl⟩⟩

/-- A path leads to a directory whether or not it ends in a slash. -/
theorem leads_iff_lead {lead : List String} {there : Location}
    (hlead : pathParts directory = lead ∨ pathParts directory = lead ++ [""]) :
    lead.foldlM disk.step (disk.startOf directory) = .ok there ∧
        disk.node? there = some .directory ↔
      disk.Leads directory ∧ there = disk.placeOf directory := by
  have hplace : disk.placeOf directory = lead.foldl enter (disk.startOf directory) := by
    rcases hlead with hlead | hlead
    · rw [placeOf, hlead]
    · rw [placeOf, hlead, List.foldl_append, List.foldl_cons, List.foldl_nil, enter_empty]
  have hleads : disk.Leads directory ↔
      lead.foldlM disk.step (disk.startOf directory) = .ok (disk.placeOf directory) ∧
        disk.node? (disk.placeOf directory) = some .directory := by
    rcases hlead with hlead | hlead
    · rw [Leads, hlead]
    · rw [Leads, hlead, foldlM_step_trailing, and_assoc, and_self]
  constructor
  · rintro ⟨hwalk, hthere⟩
    obtain rfl : there = disk.placeOf directory := hplace ▸ foldlM_step_place hwalk
    exact ⟨hleads.mpr ⟨hwalk, hthere⟩, rfl⟩
  · rintro ⟨hled, rfl⟩
    exact hleads.mp hled

/-- A file can be gone to exactly where its name fits into a directory that the path leads to. -/
theorem resolve_joinPath_eq_ok_iff (hname : IsName name) {place : Location} :
    disk.resolve (joinPath directory name) = .ok place ↔
      '\x00' ∉ directory.toList ∧ name.utf8ByteSize ≤ greatestNameSize ∧ disk.Leads directory ∧
        place = disk.placeOf directory ++ [name] := by
  obtain ⟨lead, hparts, hstart, hlead⟩ := joinPath_parts disk directory hname
  have hne : joinPath directory name ≠ "" := by
    intro hempty
    rw [hempty, show pathParts "" = [] ++ [""] from rfl] at hparts
    exact hname.ne_empty (List.append_singleton_inj.mp hparts).2.symm
  rw [resolve, if_neg hne, hparts, hstart]
  by_cases hnul : '\x00' ∈ directory.toList
  · simp [hnul, (nul_mem_joinPath directory hname).mpr hnul]
  · have hjoin := mt (nul_mem_joinPath directory hname).mp hnul
    rw [if_neg (by simpa using hjoin), foldlM_step_concat]
    simp only [step_name_eq_ok_iff hname]
    constructor
    · rintro ⟨middle, hwalk, hmiddle, hfits, rfl⟩
      obtain ⟨hleads, rfl⟩ := (leads_iff_lead hlead).mp ⟨hwalk, hmiddle⟩
      exact ⟨hnul, hfits, hleads, rfl⟩
    · rintro ⟨-, hfits, hleads, rfl⟩
      obtain ⟨hwalk, hplace⟩ := (leads_iff_lead hlead).mpr ⟨hleads, rfl⟩
      exact ⟨_, hwalk, hplace, hfits, rfl⟩

/-- Whether there is something at the path of a file. -/
theorem pathExists_joinPath_iff (hname : IsName name) :
    disk.pathExists (joinPath directory name) = true ↔
      '\x00' ∉ directory.toList ∧ name.utf8ByteSize ≤ greatestNameSize ∧ disk.Leads directory ∧
        (disk.node? (disk.placeOf directory ++ [name])).isSome := by
  unfold pathExists find?
  split
  case h_1 place hplace =>
    obtain ⟨hnul, hfits, hleads, rfl⟩ := (resolve_joinPath_eq_ok_iff hname).mp hplace
    simp [hnul, hfits, hleads]
  case h_2 fault hfault =>
    refine ⟨fun h => (Bool.false_ne_true h).elim, ?_⟩
    rintro ⟨hnul, hfits, hleads, -⟩
    rw [(resolve_joinPath_eq_ok_iff hname).mpr ⟨hnul, hfits, hleads, rfl⟩] at hfault
    cases hfault

/-- What goes on unless the system refuses. -/
theorem eq_ok_unless_refused {α : Type} {refused : Bool} {value result : α}
    (h : (do
      if refused then throw Fault.refused
      return value : Except Fault α) = .ok result) : refused = false ∧ value = result := by
  cases refused with
  | true => cases h
  | false => exact ⟨rfl, Except.ok.inj h⟩

/-- The names in the directory at a place, in order. -/
def namesIn (disk : Disk) (place : Location) : List String :=
  (disk.entries.filterMap fun (other, _) =>
    if other.dropLast = place then other.getLast? else none).mergeSort (fun a b => decide (a ≤ b))

/-- The names in a directory are those of what stands in it. -/
theorem mem_namesIn_iff {place : Location} :
    name ∈ disk.namesIn place ↔ (disk.node? (place ++ [name])).isSome := by
  have hlookup : (disk.node? (place ++ [name])).isSome ↔
      ∃ entry ∈ disk.entries, entry.1 = place ++ [name] := by
    rw [node?, if_neg (by simp), List.lookup_isSome_iff]
    exact exists_congr fun entry => and_congr_right fun _ => beq_iff_eq.trans eq_comm
  rw [hlookup, namesIn, List.mem_mergeSort, List.mem_filterMap]
  refine exists_congr fun entry => and_congr_right fun _ => ?_
  by_cases hplace : entry.1.dropLast = place
  · simp only [if_pos hplace, List.getLast?_eq_some_iff]
    constructor
    · rintro ⟨lead, hlead⟩
      rw [hlead, List.dropLast_concat] at hplace
      rw [hlead, hplace]
    · intro hentry
      exact ⟨place, hentry⟩
  · simp only [if_neg hplace, reduceCtorEq, false_iff]
    intro hentry
    rw [hentry, List.dropLast_concat] at hplace
    exact hplace rfl

/-- A path can be gone when it has no zero character and each step along it can be taken. -/
theorem resolve_eq_ok_iff {path : String} {place : Location} :
    disk.resolve path = .ok place ↔ path ≠ "" ∧ '\x00' ∉ path.toList ∧
      (pathParts path).foldlM disk.step (disk.startOf path) = .ok place := by
  unfold resolve
  by_cases hempty : path = ""
  · simp [hempty]
  · by_cases hnul : '\x00' ∈ path.toList <;> simp [hempty, hnul]

/-- Where all directories are kept, a path leads where it led. -/
theorem Keeps.resolve (hkeeps : disk.Keeps after) {path : String} {place : Location}
    (hresolve : disk.resolve path = .ok place) : after.resolve path = .ok place := by
  have hstart : after.workingDirectory = disk.workingDirectory := congrArg Prod.fst hkeeps.setting
  obtain ⟨hempty, hnul, hwalk⟩ := resolve_eq_ok_iff.mp hresolve
  refine resolve_eq_ok_iff.mpr ⟨hempty, hnul, ?_⟩
  rw [startOf, hstart]
  exact foldlM_step_keeps hkeeps.directories hwalk

/-- What is found by a path is at the place that it leads to. -/
theorem find?_eq_some_iff {path : String} {node : Node} :
    disk.find? path = some node ↔
      ∃ place, disk.resolve path = .ok place ∧ disk.node? place = some node := by
  cases hresolve : disk.resolve path <;> simp [find?, hresolve]

/-- If there is a directory at the end of a path, then the path leads to it. Only a path that goes
up again from a directory that is not there may fail to. -/
def Reaches (disk : Disk) (path : String) : Prop :=
  disk.node? (disk.placeOf path) = some .directory → disk.Leads path

instance (disk : Disk) (path : String) : Decidable (disk.Reaches path) :=
  inferInstanceAs (Decidable (_ → _))

/-- If there is a directory at the end of a path, then it can be listed. Files can be written by the
empty path, but it cannot be listed. -/
structure Listable (disk : Disk) (path : String) : Prop where
  ne_empty : path ≠ ""
  allowed : disk.refuses .list (disk.placeOf path) = false
  reaches : disk.Reaches path

instance (disk : Disk) (path : String) : Decidable (disk.Listable path) :=
  decidable_of_iff (path ≠ "" ∧ disk.refuses .list (disk.placeOf path) = false ∧ disk.Reaches path)
    ⟨fun ⟨h₁, h₂, h₃⟩ => ⟨h₁, h₂, h₃⟩, fun h => ⟨h.ne_empty, h.allowed, h.reaches⟩⟩

/-- A directory is listed when its path leads there and the system does not refuse. -/
theorem list_eq_ok_iff {path : String} {names : List String} :
    disk.list path = .ok names ↔
      path ≠ "" ∧ '\x00' ∉ path.toList ∧ disk.Leads path ∧
        disk.refuses .list (disk.placeOf path) = false ∧
        disk.namesIn (disk.placeOf path) = names := by
  constructor
  · intro hlist
    obtain ⟨place, hresolve, hrest⟩ := bind_eq_ok hlist
    obtain ⟨hempty, hnul, hwalk⟩ := resolve_eq_ok_iff.mp hresolve
    obtain rfl : place = disk.placeOf path := foldlM_step_place hwalk
    split at hrest
    case h_1 | h_2 => cases hrest
    case h_3 hplace =>
      obtain ⟨hallowed, hnames⟩ := eq_ok_unless_refused hrest
      exact ⟨hempty, hnul, ⟨hwalk, hplace⟩, hallowed, hnames⟩
  · rintro ⟨hempty, hnul, ⟨hwalk, hplace⟩, hallowed, rfl⟩
    have hresolve := resolve_eq_ok_iff.mpr ⟨hempty, hnul, hwalk⟩
    simp only [list, hresolve, bind, Except.bind, hplace, hallowed]
    rfl

/-- Whether a directory can be listed. -/
theorem exists_list_iff {path : String} :
    (∃ names, disk.list path = .ok names) ↔
      path ≠ "" ∧ '\x00' ∉ path.toList ∧ disk.Leads path ∧
        disk.refuses .list (disk.placeOf path) = false := by
  simp [list_eq_ok_iff]

/-- The system refuses the same under the same setting. -/
theorem refuses_congr (hsetting : after.setting = disk.setting) (access : Access) (path : String) :
    after.refuses access (after.placeOf path) = disk.refuses access (disk.placeOf path) := by
  have hrefuses : after.refuses = disk.refuses := congrArg Prod.snd hsetting
  rw [placeOf_congr hsetting, hrefuses]

/-- Where all directories are kept, one that can be listed can still be listed. -/
theorem Keeps.exists_list (hkeeps : disk.Keeps after) {path : String}
    (hlist : ∃ names, disk.list path = .ok names) : ∃ names, after.list path = .ok names := by
  obtain ⟨hempty, hnul, hleads, hallowed⟩ := exists_list_iff.mp hlist
  exact exists_list_iff.mpr
    ⟨hempty, hnul, hkeeps.leads hleads, (refuses_congr hkeeps.setting .list path).trans hallowed⟩

/-- What can be listed whenever it is there is listed once its path leads there. -/
theorem Listable.exists_list {path : String} (hlistable : disk.Listable path)
    (hsetting : after.setting = disk.setting) (hnul : '\x00' ∉ path.toList)
    (hleads : after.Leads path) : ∃ names, after.list path = .ok names :=
  exists_list_iff.mpr ⟨hlistable.ne_empty, hnul, hleads,
    (refuses_congr hsetting .list path).trans hlistable.allowed⟩

/-! ## What may have changed -/

/-- Only files at some places may have changed. Every other file, every directory and the setting
are kept, and the disk is a tree. Directories may have come up anywhere. -/
structure Touches (disk : Disk) (touched : Location → Prop) (after : Disk) : Prop
    extends disk.Keeps after where
  wellFormed : after.WellFormed
  fileAt? : ∀ place, ¬touched place → after.fileAt? place = disk.fileAt? place

namespace Touches

variable {touched others : Location → Prop} {last : Disk}

/-- Nothing at all may have changed. -/
theorem refl (hwell : disk.WellFormed) : disk.Touches touched disk where
  toKeeps := .refl disk
  wellFormed := hwell
  fileAt? _ _ := rfl

/-- Changes add up. -/
theorem trans (hfirst : disk.Touches touched after) (hsecond : after.Touches touched last) :
    disk.Touches touched last where
  toKeeps := hfirst.toKeeps.trans hsecond.toKeeps
  wellFormed := hsecond.wellFormed
  fileAt? place hplace := (hsecond.fileAt? place hplace).trans (hfirst.fileAt? place hplace)

/-- More places may have changed. -/
theorem mono (hchange : disk.Touches touched after)
    (hmore : ∀ place, touched place → others place) : disk.Touches others after :=
  { hchange with fileAt? := fun place hplace => hchange.fileAt? place fun h => hplace (hmore _ h) }

/-- What was at an untouched place is still there. -/
theorem node? (hchange : disk.Touches touched after) {place : Location} (hplace : ¬touched place)
    {node : Node} (hnode : disk.node? place = some node) : after.node? place = some node := by
  cases node with
  | directory => exact hchange.directories place hnode
  | file content =>
      rw [← fileAt?_eq_some_iff] at hnode ⊢
      rw [hchange.fileAt? place hplace, hnode]

/-- What a path finds is found by it again, unless its place was touched. -/
theorem find? (hchange : disk.Touches touched after) {path : String} {node : Node}
    (hpath : ∀ place, disk.resolve path = .ok place → ¬touched place)
    (hfind : disk.find? path = some node) : after.find? path = some node := by
  obtain ⟨place, hresolve, hnode⟩ := find?_eq_some_iff.mp hfind
  exact find?_eq_some_iff.mpr
    ⟨place, hchange.resolve hresolve, hchange.node? (hpath place hresolve) hnode⟩

end Touches

/-- Putting a file where no directory is touches one place. -/
theorem touches_putNode (hwell : disk.WellFormed) {parent : Location} (hname : IsName name)
    (hfits : name.utf8ByteSize ≤ greatestNameSize) (hparent : disk.node? parent = some .directory)
    (hfree : disk.node? (parent ++ [name]) ≠ some .directory) (node : Node) :
    disk.Touches (· = parent ++ [name]) (disk.putNode (parent ++ [name]) node) where
  wellFormed := hwell.putNode hname hfits hparent hfree node
  setting := rfl
  directories place hplace := by
    rwa [node?_putNode_of_ne _ fun h => hfree (by rwa [← h])]
  fileAt? place hplace := by
    unfold fileAt?
    rw [node?_putNode_of_ne _ hplace]

/-- Putting a directory where nothing is touches no file. -/
theorem touches_putNode_directory {touched : Location → Prop} (hwell : disk.WellFormed)
    {parent : Location} (hname : IsName name) (hfits : name.utf8ByteSize ≤ greatestNameSize)
    (hparent : disk.node? parent = some .directory) (hnone : disk.node? (parent ++ [name]) = none) :
    disk.Touches touched (disk.putNode (parent ++ [name]) .directory) := by
  have hput := touches_putNode hwell hname hfits hparent (by simp [hnone]) .directory
  refine { hput with fileAt? := fun place _ => ?_ }
  by_cases hsame : place = parent ++ [name]
  · rw [hsame, fileAt?, fileAt?, node?_putNode_self _ (by simp), hnone]
  · rw [fileAt?, fileAt?, node?_putNode_of_ne _ hsame]

/-- Files at some places may be gone. Nothing has come up and nothing else has changed. -/
structure Shrinks (disk : Disk) (touched : Location → Prop) (after : Disk) : Prop
    extends disk.Touches touched after where
  node? : ∀ place, after.node? place = none ∨ after.node? place = disk.node? place

namespace Shrinks

variable {touched : Location → Prop} {last : Disk}

/-- Nothing is gone. -/
theorem refl (hwell : disk.WellFormed) : disk.Shrinks touched disk where
  toTouches := .refl hwell
  node? _ := .inr rfl

/-- More places may be touched. -/
theorem mono {others : Location → Prop} (hshrinks : disk.Shrinks touched after)
    (hmore : ∀ place, touched place → others place) : disk.Shrinks others after :=
  { hshrinks with toTouches := hshrinks.toTouches.mono hmore }

/-- Losses add up. -/
theorem trans (hfirst : disk.Shrinks touched after) (hsecond : after.Shrinks touched last) :
    disk.Shrinks touched last where
  toTouches := hfirst.toTouches.trans hsecond.toTouches
  node? place := by
    rcases hsecond.node? place with hnone | hsame
    · exact .inl hnone
    · rw [hsame]
      exact hfirst.node? place

/-- What is there was there before. -/
theorem node?_of_node? (hshrinks : disk.Shrinks touched after) {place : Location} {node : Node}
    (hnode : after.node? place = some node) : disk.node? place = some node := by
  rcases hshrinks.node? place with hnone | hsame
  · rw [hnone] at hnode
    cases hnode
  · rwa [← hsame]

/-- What is gone stays gone. -/
theorem node?_eq_none (hshrinks : disk.Shrinks touched after) {place : Location}
    (hnone : disk.node? place = none) : after.node? place = none := by
  rcases hshrinks.node? place with hgone | hsame
  · exact hgone
  · rw [hsame, hnone]

/-- Where no file was there is none. -/
theorem fileAt?_eq_none (hshrinks : disk.Shrinks touched after) {place : Location}
    (hnone : disk.fileAt? place = none) : after.fileAt? place = none := by
  rcases hshrinks.node? place with hgone | hsame
  · exact Disk.fileAt?_eq_none hgone
  · rw [fileAt?, hsame]
    exact hnone

end Shrinks

/-- Clearing a file makes a disk shrink by it. -/
theorem shrinks_dropNode (hwell : disk.WellFormed) {place : Location}
    (hplace : disk.node? place ≠ some .directory) :
    disk.Shrinks (· = place) (disk.dropNode place) where
  wellFormed := hwell.dropNode hplace
  setting := rfl
  directories other hother := by
    rwa [node?_dropNode_of_ne _ fun h => hplace (by rwa [← h])]
  fileAt? other hother := by
    unfold fileAt?
    rw [node?_dropNode_of_ne _ hother]
  node? other := by
    by_cases hsame : other = place
    · left
      rw [hsame]
      exact node?_dropNode_self _ fun hroot => hplace (by rw [hroot, node?_root])
    · right
      exact node?_dropNode_of_ne _ hsame

/-- A file that was removed is gone, and nothing else is. -/
theorem remove_joinPath (hwell : disk.WellFormed) (hname : IsName name)
    (hremove : disk.remove (joinPath directory name) = .ok after) :
    disk.Shrinks (· = disk.placeOf directory ++ [name]) after ∧
      after.node? (disk.placeOf directory ++ [name]) = none := by
  obtain ⟨place, hresolve, hrest⟩ := bind_eq_ok hremove
  obtain ⟨-, -, -, rfl⟩ := (resolve_joinPath_eq_ok_iff hname).mp hresolve
  split at hrest
  case h_1 | h_2 => cases hrest
  case h_3 content hnode =>
    obtain ⟨-, rfl⟩ := eq_ok_unless_refused hrest
    exact ⟨shrinks_dropNode hwell (by simp [hnode]), node?_dropNode_self _ (by simp)⟩

/-! ## Making directories -/

/-- The places that a path goes through, whatever is there. -/
def Passes (disk : Disk) (path : String) (place : Location) : Prop :=
  ∃ lead, lead <+: pathParts path ∧ place = lead.foldl enter (disk.startOf path)

/-- A path goes through the same places under the same setting. -/
theorem Passes.congr (hsetting : after.setting = disk.setting) {path : String} {place : Location}
    (hpasses : after.Passes path place) : disk.Passes path place := by
  have hstart : after.workingDirectory = disk.workingDirectory := congrArg Prod.fst hsetting
  unfold Passes startOf at hpasses ⊢
  rwa [hstart] at hpasses

/-- Directories came up only at places that a path goes through. -/
def MadeAlong (disk : Disk) (path : String) (after : Disk) : Prop :=
  ∀ place, after.node? place = some .directory →
    disk.node? place = some .directory ∨ disk.Passes path place

/-- Above a directory there is a directory. -/
theorem WellFormed.node?_dropLast (hwell : disk.WellFormed) {here : Location}
    (hhere : disk.node? here = some .directory) : disk.node? here.dropLast = some .directory := by
  rcases List.eq_nil_or_concat here with rfl | ⟨parent, last, rfl⟩
  · exact hhere
  · rw [List.concat_eq_append] at hhere ⊢
    rw [List.dropLast_concat]
    exact (hwell parent last _ hhere).2.2

/-- What can be gone to and is not there yet is new in a directory. -/
theorem WellFormed.step_new (hwell : disk.WellFormed) {here next : Location} {part : String}
    (hslash : '/' ∉ part.toList) (hnul : '\x00' ∉ part.toList)
    (hstep : disk.step here part = .ok next) (hnone : disk.node? next = none) :
    IsName part ∧ part.utf8ByteSize ≤ greatestNameSize ∧ disk.node? here = some .directory ∧
      next = here ++ [part] := by
  obtain ⟨hhere, hnext⟩ := step_eq_ok hstep
  have hstay : ¬(part = "" ∨ part = ".") := by
    intro h
    rw [enter, if_pos h] at hnext
    rw [hnext, hhere] at hnone
    cases hnone
  have hup : part ≠ ".." := by
    intro h
    rw [enter, if_neg hstay, if_pos h] at hnext
    rw [hnext, hwell.node?_dropLast hhere] at hnone
    cases hnone
  have hname : IsName part := ⟨fun h => hstay (.inl h), fun h => hstay (.inr h), hup, hslash, hnul⟩
  obtain ⟨-, hfits, hplace⟩ := (step_name_eq_ok_iff hname).mp hstep
  exact ⟨hname, hfits, hhere, hplace⟩

/-- Making directories along parts touches no file, however far it gets. -/
theorem touches_createAlong {touched : Location → Prop} (hwell : disk.WellFormed) {here : Location}
    {parts : List String}
    (hparts : ∀ part ∈ parts, '/' ∉ part.toList ∧ '\x00' ∉ part.toList) :
    disk.Touches touched (disk.createAlong here parts).1 := by
  induction parts generalizing disk here with
  | nil => exact .refl hwell
  | cons part rest ih =>
      obtain ⟨hpart, hrest⟩ := List.forall_mem_cons.mp hparts
      unfold createAlong
      split
      case h_1 => exact .refl hwell
      case h_2 next hstep =>
        split
        case h_1 => exact ih hwell hrest
        case h_2 => exact .refl hwell
        case h_3 hnone =>
          split
          case isTrue => exact .refl hwell
          case isFalse =>
            obtain ⟨hname, hfits, hhere, rfl⟩ := hwell.step_new hpart.1 hpart.2 hstep hnone
            have hput : disk.Touches touched _ :=
              touches_putNode_directory hwell hname hfits hhere hnone
            exact hput.trans (ih hput.wellFormed hrest)

/-- Directories that are made along parts are made where the parts lead. -/
theorem createAlong_made {here place : Location} {parts : List String}
    (hplace : (disk.createAlong here parts).1.node? place = some .directory) :
    disk.node? place = some .directory ∨
      ∃ lead, lead <+: parts ∧ place = lead.foldl enter here := by
  induction parts generalizing disk here with
  | nil => exact .inl hplace
  | cons part rest ih =>
      unfold createAlong at hplace
      split at hplace
      case h_1 => exact .inl hplace
      case h_2 next hstep =>
        obtain ⟨-, rfl⟩ := step_eq_ok hstep
        have further {lead : List String} (hlead : lead <+: rest) : part :: lead <+: part :: rest :=
          List.cons_prefix_cons.mpr ⟨rfl, hlead⟩
        split at hplace
        case h_1 =>
          rcases ih hplace with hbefore | ⟨lead, hlead, rfl⟩
          · exact .inl hbefore
          · exact .inr ⟨part :: lead, further hlead, rfl⟩
        case h_2 => exact .inl hplace
        case h_3 =>
          split at hplace
          case isTrue => exact .inl hplace
          case isFalse =>
            by_cases hsame : place = enter here part
            · exact .inr ⟨[part], further List.nil_prefix, hsame⟩
            · rcases ih hplace with hput | ⟨lead, hlead, rfl⟩
              · rw [node?_putNode_of_ne _ hsame] at hput
                exact .inl hput
              · exact .inr ⟨part :: lead, further hlead, rfl⟩

/-- Where all directories along parts are there, none is made. -/
theorem createAlong_of_walk {here there : Location} {parts : List String}
    (hwalk : parts.foldlM disk.step here = .ok there)
    (hthere : disk.node? there = some .directory) :
    disk.createAlong here parts = (disk, none) := by
  induction parts generalizing here with
  | nil => rfl
  | cons part rest ih =>
      rw [List.foldlM_cons] at hwalk
      obtain ⟨next, hstep, hrest⟩ := bind_eq_ok hwalk
      have hnext : disk.node? next = some .directory := by
        cases rest with
        | nil =>
            obtain rfl := Except.ok.inj hrest
            exact hthere
        | cons second others =>
            rw [List.foldlM_cons] at hrest
            obtain ⟨_, hsecond, -⟩ := bind_eq_ok hrest
            exact (step_eq_ok hsecond).1
      simp only [createAlong, hstep, hnext]
      exact ih hrest

/-- Making the directories along a path touches no file. -/
theorem touches_createDirectories {touched : Location → Prop} (hwell : disk.WellFormed)
    (path : String) : disk.Touches touched (disk.createDirectories path).1 := by
  unfold createDirectories
  split
  case isTrue => exact .refl hwell
  case isFalse =>
    split
    case isTrue => exact .refl hwell
    case isFalse hnul =>
      apply touches_createAlong hwell
      intro part hpart
      obtain ⟨piece, hpiece, rfl⟩ := List.mem_map.mp hpart
      rw [String.toList_ofList]
      constructor
      · intro hslash
        simpa using (Text.of_mem_pieces hpiece hslash).2
      · intro h
        exact hnul (by simpa using (Text.of_mem_pieces hpiece h).1)

/-- Making the directories along a path makes them where it goes through. -/
theorem madeAlong_createDirectories (disk : Disk) (path : String) :
    disk.MadeAlong path (disk.createDirectories path).1 := by
  intro place hplace
  unfold createDirectories at hplace
  split at hplace
  case isTrue => exact .inl hplace
  case isFalse =>
    split at hplace
    case isTrue => exact .inl hplace
    case isFalse => exact createAlong_made hplace

/-- Where a path leads to a directory, none is made. -/
theorem createDirectories_of_leads {path : String} (hleads : disk.Leads path) :
    (disk.createDirectories path).1 = disk := by
  unfold createDirectories
  split
  case isTrue => rfl
  case isFalse =>
    split
    case isTrue => rfl
    case isFalse => rw [createAlong_of_walk hleads.1 hleads.2]

/-- Where the path of a directory leads there, nothing is made on the way to a file in it. -/
theorem createDirectories_directoryOf (hname : IsName name) (hleads : disk.Leads directory) :
    (disk.createDirectories (directoryOf (joinPath directory name))).1 = disk := by
  rcases joinPath_name directory hname with ⟨rfl, hjoin⟩ | ⟨front, hdirectory, hjoin⟩
  · rw [hjoin, directoryOf_name hname]
    rfl
  · rw [hjoin, directoryOf_slash front hname]
    apply createDirectories_of_leads
    rcases hdirectory with ⟨rfl, hfront⟩ | rfl
    · rwa [if_neg hfront]
    · split
      case isTrue hempty => rwa [hempty] at hleads
      case isFalse hfront =>
        rw [leads_iff, pathParts_trailing, startOf_append disk hfront] at hleads
        obtain ⟨there, hwalk, hthere⟩ := hleads
        exact leads_iff.mpr ⟨there, foldlM_step_trailing.mp hwalk⟩

/-- The way to a file in a directory goes through places that the path of the directory goes
through. -/
theorem passes_of_directoryOf (hname : IsName name) {place : Location}
    (hpasses : disk.Passes (directoryOf (joinPath directory name)) place) :
    disk.Passes directory place := by
  rcases joinPath_name directory hname with ⟨rfl, hjoin⟩ | ⟨front, hdirectory, hjoin⟩
  · rwa [hjoin, directoryOf_name hname] at hpasses
  · rw [hjoin, directoryOf_slash front hname] at hpasses
    rcases hdirectory with ⟨rfl, hfront⟩ | rfl
    · rwa [if_neg hfront] at hpasses
    · by_cases hfront : front = ""
      · rw [if_pos hfront] at hpasses
        rwa [hfront, String.empty_append]
      · rw [if_neg hfront] at hpasses
        obtain ⟨lead, hlead, rfl⟩ := hpasses
        rw [Passes, pathParts_trailing, startOf_append disk hfront]
        exact ⟨lead, hlead.trans (List.prefix_append _ _), rfl⟩

/-- The directories on the way to a file in a directory are made where the path of the directory goes
through. -/
theorem madeAlong_createDirectories_directoryOf (disk : Disk) (directory : String)
    (hname : IsName name) :
    disk.MadeAlong directory
      (disk.createDirectories (directoryOf (joinPath directory name))).1 := by
  intro place hplace
  exact (madeAlong_createDirectories disk _ place hplace).imp_right (passes_of_directoryOf hname)

/-! ## Writing files -/

/-- What a file holds when writing a content into it broke off: its first bytes, and not all. -/
structure IsStump (part whole : Content) : Prop where
  start : part.bytes <+: whole.bytes
  short : part.bytes.length < whole.bytes.length

/-- The bytes of a content are those that it was made of. -/
theorem bytes_ofBytes (bytes : List UInt8) : (Content.ofBytes bytes).bytes = bytes := by
  unfold Content.ofBytes
  split
  case h_1 value hvalue => exact (Text.Utf8.text?_eq_some_iff.mp hvalue).symm
  case h_2 => rfl

/-- A file is filled with the whole content, or the writing breaks off. -/
theorem exists_fill (disk : Disk) (place : Location) (content : Content) :
    ∃ written, (disk.fill place content).1 = disk.putNode place (.file written) ∧
      ((disk.fill place content).2 = none ∧ written = content ∨
        (disk.fill place content).2 = some .brokenOff ∧ IsStump written content) := by
  unfold fill
  split
  case h_1 count hcount =>
    have hshort : count < content.bytes.length := by
      simpa using (Option.filter_eq_some_iff.mp hcount).2
    refine ⟨_, rfl, .inr ⟨rfl, ?_⟩⟩
    constructor
    · rw [bytes_ofBytes]
      exact List.take_prefix _ _
    · rw [bytes_ofBytes, List.length_take]
      omega
  case h_2 => exact ⟨content, rfl, .inl ⟨rfl, rfl⟩⟩

/-- A file can be opened exactly where its name fits into a directory that the path leads to, unless
a directory stands there or the system refuses. -/
theorem openedAt_joinPath_eq_ok_iff (hname : IsName name) {place : Location} :
    disk.openedAt (joinPath directory name) = .ok place ↔
      '\x00' ∉ directory.toList ∧ name.utf8ByteSize ≤ greatestNameSize ∧ disk.Leads directory ∧
        disk.node? (disk.placeOf directory ++ [name]) ≠ some .directory ∧
        disk.refuses (if (disk.node? (disk.placeOf directory ++ [name])).isSome then .write
          else .create) (disk.placeOf directory ++ [name]) = false ∧
        place = disk.placeOf directory ++ [name] := by
  constructor
  · intro hopened
    obtain ⟨target, hresolve, hrest⟩ := bind_eq_ok hopened
    obtain ⟨hnul, hfits, hleads, rfl⟩ := (resolve_joinPath_eq_ok_iff hname).mp hresolve
    simp only [List.dropLast_concat, hleads.2] at hrest
    split at hrest
    case h_1 => cases hrest
    case h_2 content hnode =>
      obtain ⟨hallowed, rfl⟩ := eq_ok_unless_refused hrest
      exact ⟨hnul, hfits, hleads, by simp [hnode], by simpa [hnode] using hallowed, rfl⟩
    case h_3 hnone =>
      obtain ⟨hallowed, rfl⟩ := eq_ok_unless_refused hrest
      exact ⟨hnul, hfits, hleads, by simp [hnone], by simpa [hnone] using hallowed, rfl⟩
  · rintro ⟨hnul, hfits, hleads, hfree, hallowed, rfl⟩
    have hresolve := (resolve_joinPath_eq_ok_iff hname).mpr ⟨hnul, hfits, hleads, rfl⟩
    rcases hnode : disk.node? (disk.placeOf directory ++ [name]) with _ | content | _
    · have hcreate : disk.refuses .create (disk.placeOf directory ++ [name]) = false := by
        simpa [hnode] using hallowed
      simp only [openedAt, hresolve, bind, Except.bind, List.dropLast_concat, hleads.2, hnode,
        hcreate]
      rfl
    · have hover : disk.refuses .write (disk.placeOf directory ++ [name]) = false := by
        simpa [hnode] using hallowed
      simp only [openedAt, hresolve, bind, Except.bind, List.dropLast_concat, hleads.2, hnode,
        hover]
      rfl
    · exact absurd hnode hfree

/-- No file is opened by a path with a zero character. -/
theorem nul_not_mem_of_openedAt {path : String} {place : Location}
    (hopened : disk.openedAt path = .ok place) : '\x00' ∉ path.toList := by
  obtain ⟨target, hresolve, -⟩ := bind_eq_ok hopened
  exact (resolve_eq_ok_iff.mp hresolve).2.1

/-- Nothing breaks off while a path is gone. -/
theorem foldlM_step_ne_brokenOff (parts : List String) (here : Location) :
    parts.foldlM disk.step here ≠ .error .brokenOff := by
  induction parts generalizing here with
  | nil => nofun
  | cons part rest ih =>
      rw [List.foldlM_cons]
      cases hstep : disk.step here part with
      | ok next => exact ih next
      | error fault =>
          rintro ⟨⟩
          unfold step at hstep
          repeat' split at hstep
          all_goals cases hstep

/-- Nothing breaks off while directories are made. -/
theorem createAlong_ne_brokenOff (disk : Disk) (here : Location) (parts : List String) :
    (disk.createAlong here parts).2 ≠ some .brokenOff := by
  induction parts generalizing disk here with
  | nil => nofun
  | cons part rest ih =>
      unfold createAlong
      split
      case h_1 fault hstep =>
        rintro ⟨⟩
        exact foldlM_step_ne_brokenOff [part] here (by rw [List.foldlM_cons, hstep]; rfl)
      case h_2 =>
        split
        case h_1 => exact ih disk _
        case h_2 => nofun
        case h_3 =>
          split
          case isTrue => nofun
          case isFalse => exact ih _ _

/-- Nothing breaks off before a file is open. -/
theorem openedAt_ne_brokenOff (disk : Disk) (path : String) :
    disk.openedAt path ≠ .error .brokenOff := by
  have hresolve : disk.resolve path ≠ .error .brokenOff := by
    unfold resolve
    split
    case isTrue => nofun
    case isFalse =>
      split
      case isTrue => nofun
      case isFalse => exact foldlM_step_ne_brokenOff _ _
  have hallowed (refused : Bool) (place : Location) : (do
      if refused then throw Fault.refused
      return place : Except Fault Location) ≠ .error .brokenOff := by
    cases refused <;> nofun
  intro hopened
  unfold openedAt at hopened
  cases hplace : disk.resolve path with
  | error fault =>
      rw [hplace] at hopened
      obtain rfl := Except.error.inj hopened
      exact hresolve hplace
  | ok place =>
      rw [hplace, show ∀ next : Location → Except Fault Location, Except.ok place >>= next =
        next place from fun _ => rfl] at hopened
      split at hopened
      case h_1 | h_2 => cases hopened
      case h_3 =>
        split at hopened
        case h_1 => cases hopened
        case h_2 | h_3 => exact hallowed _ place hopened

/-- Writing through a path makes the directories on the way. Then the file is opened and holds the
whole content or, when the writing breaks off, a part of it; or it cannot even be opened. -/
theorem writeThrough_cases {path : String} {content : Content} {fault? : Option Fault}
    (hwrite : disk.writeThrough path content = (after, fault?)) :
    let made := (disk.createDirectories (directoryOf path)).1
    (∃ fault, fault? = some fault ∧ fault ≠ .brokenOff ∧ after = made) ∨
      ∃ place written, made.openedAt path = .ok place ∧
        after = made.putNode place (.file written) ∧
        (fault? = none ∧ written = content ∨
          fault? = some .brokenOff ∧ IsStump written content) := by
  intro made
  unfold writeThrough at hwrite
  split at hwrite
  case h_1 final fault hmade =>
    obtain ⟨rfl, rfl⟩ := Prod.mk.inj hwrite
    refine .inl ⟨fault, rfl, ?_, (congrArg Prod.fst hmade).symm⟩
    rintro rfl
    unfold createDirectories at hmade
    split at hmade
    case isTrue => cases hmade
    case isFalse =>
      split at hmade
      case isTrue => cases hmade
      case isFalse => exact createAlong_ne_brokenOff _ _ _ (congrArg Prod.snd hmade)
  case h_2 final hmade =>
    obtain rfl : made = final := congrArg Prod.fst hmade
    unfold write at hwrite
    split at hwrite
    case h_1 fault hfault =>
      obtain ⟨rfl, rfl⟩ := Prod.mk.inj hwrite
      exact .inl ⟨fault, rfl, fun h => openedAt_ne_brokenOff made path (h ▸ hfault), rfl⟩
    case h_2 place hopened =>
      obtain ⟨written, hput, hhow⟩ := exists_fill made place content
      rw [hwrite] at hput hhow
      exact .inr ⟨place, written, hopened, hput, hhow⟩

/-- A file was written in a directory. Nothing else was touched. Directories were made only where the
path of the directory goes through, and none if it led there before. -/
structure Wrote (disk : Disk) (directory name : String) (content : Content) (after : Disk) : Prop
    extends disk.Touches (· = disk.placeOf directory ++ [name]) after where
  written : after.fileAt? (disk.placeOf directory ++ [name]) = some content
  no_nul : '\x00' ∉ directory.toList
  fits : name.utf8ByteSize ≤ greatestNameSize
  led : after.Leads directory
  made : disk.MadeAlong directory after
  quiet : disk.Leads directory →
    ∀ place, after.node? place = some .directory → disk.node? place = some .directory

/-- A file that is opened in a directory, when the directories on the way to it were made, and then
holds something. -/
theorem wrote_of_openedAt (hwell : disk.WellFormed) (hname : IsName name) {place : Location}
    (hopened : (disk.createDirectories (directoryOf (joinPath directory name))).1.openedAt
      (joinPath directory name) = .ok place) (content : Content) :
    disk.Wrote directory name content
      ((disk.createDirectories (directoryOf (joinPath directory name))).1.putNode place
        (.file content)) := by
  obtain ⟨made, hmade⟩ :
      ∃ made, (disk.createDirectories (directoryOf (joinPath directory name))).1 = made := ⟨_, rfl⟩
  have hmaking : disk.Touches (· = disk.placeOf directory ++ [name]) made :=
    hmade ▸ touches_createDirectories hwell _
  have hmadeAlong : disk.MadeAlong directory made :=
    hmade ▸ madeAlong_createDirectories_directoryOf disk directory hname
  rw [hmade] at hopened ⊢
  obtain ⟨hnul, hfits, hleads, hfree, -, rfl⟩ := (openedAt_joinPath_eq_ok_iff hname).mp hopened
  rw [hmaking.placeOf] at hfree ⊢
  have hput := touches_putNode hmaking.wellFormed hname hfits
    (hmaking.placeOf directory ▸ hleads.2) hfree (.file content)
  have hdirectory {other : Location} (hother : (made.putNode (disk.placeOf directory ++ [name])
      (.file content)).node? other = some .directory) : made.node? other = some .directory := by
    by_cases hsame : other = disk.placeOf directory ++ [name]
    · rw [hsame, node?_putNode_self _ (by simp)] at hother
      cases hother
    · rwa [node?_putNode_of_ne _ hsame] at hother
  refine
    { hmaking.trans hput with
      written := fileAt?_eq_some_iff.mpr (node?_putNode_self _ (by simp) _)
      no_nul := hnul
      fits := hfits
      led := hput.leads hleads
      made := fun other hother => hmadeAlong other (hdirectory hother)
      quiet := fun hled other hother => ?_ }
  rw [← createDirectories_directoryOf hname hled, hmade]
  exact hdirectory hother

/-- Writing a file with the directories that lead to it. -/
theorem wrote_of_writeThrough (hwell : disk.WellFormed) (hname : IsName name) {content : Content}
    (hwrite : disk.writeThrough (joinPath directory name) content = (after, none)) :
    disk.Wrote directory name content after := by
  rcases writeThrough_cases hwrite with
    ⟨fault, hfault, -⟩ | ⟨place, written, hopened, hafter, ⟨-, rfl⟩ | ⟨hfault, -⟩⟩
  · cases hfault
  · exact hafter ▸ wrote_of_openedAt hwell hname hopened _
  · cases hfault

/-- A file that was written, whole or in part, was not written by a path with a zero character. -/
theorem nul_not_mem_of_writeThrough {path : String} {content : Content} {fault? : Option Fault}
    (hwrite : disk.writeThrough path content = (after, fault?))
    (hfault : ∀ fault ∈ fault?, fault = .brokenOff) : '\x00' ∉ path.toList := by
  rcases writeThrough_cases hwrite with ⟨fault, rfl, hne, -⟩ | ⟨place, written, hopened, -⟩
  · exact absurd (hfault fault rfl) hne
  · exact nul_not_mem_of_openedAt hopened

/-- The files after one was written. -/
theorem Wrote.fileAt?_eq {content : Content} (hwrote : disk.Wrote directory name content after)
    (place : Location) :
    after.fileAt? place =
      if place = disk.placeOf directory ++ [name] then some content else disk.fileAt? place := by
  split
  case isTrue hsame => rw [hsame, hwrote.written]
  case isFalse hother => exact hwrote.fileAt? place hother

/-- A file that was written is there. -/
theorem Wrote.isSome {content : Content} (hwrote : disk.Wrote directory name content after) :
    (after.node? (after.placeOf directory ++ [name])).isSome := by
  rw [hwrote.placeOf, fileAt?_eq_some_iff.mp hwrote.written]
  rfl

/-- The path of a file that was written leads to it. -/
theorem Wrote.resolve (hname : IsName name) {content : Content}
    (hwrote : disk.Wrote directory name content after) :
    after.resolve (joinPath directory name) = .ok (disk.placeOf directory ++ [name]) :=
  (resolve_joinPath_eq_ok_iff hname).mpr
    ⟨hwrote.no_nul, hwrote.fits, hwrote.led, by rw [hwrote.placeOf]⟩

/-- A file that was written is found by its path. -/
theorem Wrote.find? (hname : IsName name) {content : Content}
    (hwrote : disk.Wrote directory name content after) :
    after.find? (joinPath directory name) = some (.file content) :=
  find?_eq_some_iff.mpr ⟨_, hwrote.resolve hname, fileAt?_eq_some_iff.mp hwrote.written⟩

/-- Where a file was written, its path leads to something. -/
theorem Wrote.pathExists (hname : IsName name) {content : Content}
    (hwrote : disk.Wrote directory name content after) :
    after.pathExists (joinPath directory name) = true := by
  rw [Disk.pathExists, hwrote.find? hname]
  rfl

/-- When a file cannot be opened, no file is touched. -/
theorem touches_of_writeThrough_failed {touched : Location → Prop} (hwell : disk.WellFormed)
    {path : String} {content : Content} {fault : Fault}
    (hwrite : disk.writeThrough path content = (after, some fault)) (hfault : fault ≠ .brokenOff) :
    disk.Touches touched after := by
  rcases writeThrough_cases hwrite with
    ⟨other, -, -, hafter⟩ | ⟨place, written, -, -, ⟨hnone, -⟩ | ⟨hbroken, -⟩⟩
  · exact hafter ▸ touches_createDirectories hwell _
  · cases hnone
  · exact absurd (Option.some.inj hbroken) hfault

/-- What is left of a file that could not be written. If it could not be opened, directories on the
way to it may have been made. If the writing broke off, the file is there in part. -/
inductive Abandoned (disk : Disk) (directory name : String) (content : Content) :
    Fault → Disk → Prop
  | unopened {fault : Fault} {after : Disk} (hfault : fault ≠ .brokenOff)
      (htouches : disk.Touches (fun _ => False) after) (hmade : disk.MadeAlong directory after) :
      Abandoned disk directory name content fault after
  | stump {part : Content} {after : Disk} (hpart : IsStump part content)
      (hwrote : disk.Wrote directory name part after) :
      Abandoned disk directory name content .brokenOff after

/-- Writing a file fails in one of these two ways. -/
theorem abandoned_of_writeThrough (hwell : disk.WellFormed) (hname : IsName name)
    {content : Content} {fault : Fault}
    (hwrite : disk.writeThrough (joinPath directory name) content = (after, some fault)) :
    disk.Abandoned directory name content fault after := by
  rcases writeThrough_cases hwrite with
    ⟨other, hother, hne, hafter⟩ | ⟨place, written, hopened, hafter, ⟨hnone, -⟩ | ⟨hbroken, hpart⟩⟩
  · obtain rfl := Option.some.inj hother
    rw [hafter]
    exact .unopened hne (touches_createDirectories hwell _)
      (madeAlong_createDirectories_directoryOf disk directory hname)
  · cases hnone
  · obtain rfl := Option.some.inj hbroken
    exact .stump hpart (hafter ▸ wrote_of_openedAt hwell hname hopened written)

namespace Abandoned

variable {content : Content} {fault : Fault}

/-- A disk stays a tree when a file cannot be written. -/
theorem wellFormed (habandoned : disk.Abandoned directory name content fault after) :
    after.WellFormed := by
  cases habandoned with
  | unopened _ htouches _ => exact htouches.wellFormed
  | stump _ hwrote => exact hwrote.wellFormed

end Abandoned

end SchemaScaffold.Disk
