import SchemaScaffold.Disk.Basic
import SchemaScaffold.Proofs.Json.Record
import SchemaScaffold.Proofs.Text.Pieces

/-!
# Places on a disk, and the paths that lead to them

A place holds a file, a directory or nothing. Paths are read part by part, and only a part that is
read in a directory leads on; but where a path leads once all directories along it are there can
be told from its text alone. The two readings agree wherever the path can be gone. A file in a
directory is written as the path of the directory with a name behind it, and what is said here of
such paths is all that later modules need to know of slashes.
-/

namespace SchemaScaffold.Disk

open Json (bind_eq_ok)

variable {disk after : Disk}

/-- The root is always there. -/
@[simp]
theorem node?_root (disk : Disk) : disk.node? [] = some .directory := if_pos rfl

/-- What was put at a place is there. -/
theorem node?_putNode_self (disk : Disk) {place : Location} (hplace : place ≠ []) (node : Node) :
    (disk.putNode place node).node? place = some node := by
  rw [node?, if_neg hplace]
  exact Keyed.lookup_put_self place node disk.entries

/-- Putting something at a place leaves every other place alone. -/
theorem node?_putNode_of_ne (disk : Disk) {place other : Location} (hne : other ≠ place)
    (node : Node) : (disk.putNode place node).node? other = disk.node? other := by
  unfold node?
  split
  · rfl
  · exact Keyed.lookup_put_of_ne hne node disk.entries

/-- A place that was cleared is empty. -/
theorem node?_dropNode_self (disk : Disk) {place : Location} (hplace : place ≠ []) :
    (disk.dropNode place).node? place = none := by
  rw [node?, if_neg hplace, List.lookup_eq_none_iff]
  intro entry hentry
  have hkept : entry.1 ≠ place := by simpa using (List.mem_filter.mp hentry).2
  simpa using hkept.symm

/-- Clearing a place leaves every other place alone. -/
theorem node?_dropNode_of_ne (disk : Disk) {place other : Location} (hne : other ≠ place) :
    (disk.dropNode place).node? other = disk.node? other := by
  unfold node? dropNode
  split
  · rfl
  · induction disk.entries with
    | nil => rfl
    | cons entry rest ih =>
        obtain ⟨key, node⟩ := entry
        by_cases hkey : key = place
        · have hother : (other == key) = false := by simpa [hkey] using hne
          rw [List.filter_cons_of_neg (by simp [hkey]), List.lookup_cons, hother]
          exact ih
        · rw [List.filter_cons_of_pos (by simpa using hkey), List.lookup_cons, List.lookup_cons, ih]

/-- The content of the file at a place, if there is a file. -/
def fileAt? (disk : Disk) (place : Location) : Option Content :=
  match disk.node? place with
  | some (.file content) => some content
  | _ => none

/-- A file at a place is what the place holds. -/
theorem fileAt?_eq_some_iff {place : Location} {content : Content} :
    disk.fileAt? place = some content ↔ disk.node? place = some (.file content) := by
  rcases hnode : disk.node? place with _ | other | _ <;> simp [fileAt?, hnode]

/-- Where nothing is there is no file. -/
theorem fileAt?_eq_none {place : Location} (hnone : disk.node? place = none) :
    disk.fileAt? place = none := by
  rw [fileAt?, hnone]

/-- Disks that agree on their files and on their directories agree on all places. -/
theorem node?_eq_of_views {first second : Disk} {place : Location}
    (hfile : first.fileAt? place = second.fileAt? place)
    (hdirectory : first.node? place = some .directory ↔ second.node? place = some .directory) :
    first.node? place = second.node? place := by
  rcases hfirst : first.node? place with _ | content | _
  · rcases hsecond : second.node? place with _ | content | _
    · rfl
    · have hnone := fileAt?_eq_some_iff.mpr hsecond
      rw [← hfile, fileAt?_eq_some_iff, hfirst] at hnone
      cases hnone
    · rw [hdirectory.mpr hsecond] at hfirst
      cases hfirst
  · exact (fileAt?_eq_some_iff.mp (hfile ▸ fileAt?_eq_some_iff.mpr hfirst)).symm
  · exact (hdirectory.mp hfirst).symm

/-- What the operations on files never touch: where relative paths start, and the accesses that
the system refuses. -/
def setting (disk : Disk) : Location × (Access → Location → Bool) :=
  (disk.workingDirectory, disk.refuses)

/-- The same places hold the same things, and paths and refusals mean the same. The order in which
a disk keeps its entries cannot be seen from outside. -/
structure Agrees (first second : Disk) : Prop where
  setting : first.setting = second.setting
  node? : ∀ place, first.node? place = second.node? place

/-- A name that something in a directory can have: one part of a path, and none of the parts that
stay or go up. -/
structure IsName (name : String) : Prop where
  ne_empty : name ≠ ""
  ne_here : name ≠ "."
  ne_up : name ≠ ".."
  no_slash : '/' ∉ name.toList
  no_nul : '\x00' ∉ name.toList

instance (name : String) : Decidable (IsName name) :=
  decidable_of_iff
    (name ≠ "" ∧ name ≠ "." ∧ name ≠ ".." ∧ '/' ∉ name.toList ∧ '\x00' ∉ name.toList)
    ⟨fun ⟨h₁, h₂, h₃, h₄, h₅⟩ => ⟨h₁, h₂, h₃, h₄, h₅⟩,
      fun h => ⟨h.ne_empty, h.ne_here, h.ne_up, h.no_slash, h.no_nul⟩⟩

/-- A disk is a tree: what is there has a name that fits and stands in a directory. -/
def WellFormed (disk : Disk) : Prop :=
  ∀ directory name node, disk.node? (directory ++ [name]) = some node →
    IsName name ∧ name.utf8ByteSize ≤ greatestNameSize ∧ disk.node? directory = some .directory

/-- A disk is well-formed if every entry has a name that fits and stands in a directory. -/
theorem wellFormed_of_entries (hentries : ∀ entry ∈ disk.entries, ∀ name ∈ entry.1.getLast?,
    IsName name ∧ name.utf8ByteSize ≤ greatestNameSize ∧
      disk.node? entry.1.dropLast = some .directory) : disk.WellFormed := by
  intro directory name node hnode
  rw [node?, if_neg (by simp)] at hnode
  obtain ⟨front, rest, hsplit, -⟩ := List.lookup_eq_some_iff.mp hnode
  have hentry := hentries (directory ++ [name], node) (by simp [hsplit]) name (by simp)
  rwa [List.dropLast_concat] at hentry

/-- Putting something new, or a file for a file, into a directory keeps a disk well-formed. -/
theorem WellFormed.putNode (hwell : disk.WellFormed) {directory : Location} {name : String}
    (hname : IsName name) (hsize : name.utf8ByteSize ≤ greatestNameSize)
    (hdirectory : disk.node? directory = some .directory)
    (hfree : disk.node? (directory ++ [name]) ≠ some .directory) (node : Node) :
    (disk.putNode (directory ++ [name]) node).WellFormed := by
  have hkept {place : Location} (hplace : disk.node? place = some .directory) :
      (disk.putNode (directory ++ [name]) node).node? place = some .directory := by
    rwa [node?_putNode_of_ne _ fun h => hfree (by rwa [← h])]
  intro parent other inner hinner
  by_cases hsame : parent ++ [other] = directory ++ [name]
  · obtain ⟨rfl, rfl⟩ := List.append_singleton_inj.mp hsame
    exact ⟨hname, hsize, hkept hdirectory⟩
  · rw [node?_putNode_of_ne _ hsame] at hinner
    obtain ⟨hother, hfits, hparent⟩ := hwell parent other inner hinner
    exact ⟨hother, hfits, hkept hparent⟩

/-- Clearing a file keeps a disk well-formed. -/
theorem WellFormed.dropNode (hwell : disk.WellFormed) {place : Location}
    (hplace : disk.node? place ≠ some .directory) : (disk.dropNode place).WellFormed := by
  intro parent other inner hinner
  have hne : place ≠ [] := by
    rintro rfl
    exact hplace (node?_root disk)
  by_cases hsame : parent ++ [other] = place
  · rw [hsame, node?_dropNode_self _ hne] at hinner
    cases hinner
  · rw [node?_dropNode_of_ne _ hsame] at hinner
    obtain ⟨hother, hfits, hparent⟩ := hwell parent other inner hinner
    exact ⟨hother, hfits, by rwa [node?_dropNode_of_ne _ fun h => hplace (by rwa [← h])]⟩

/-- Where a part of a path leads from a directory. -/
def enter (here : Location) (part : String) : Location :=
  if part = "" ∨ part = "." then here
  else if part = ".." then here.dropLast
  else here ++ [part]

/-- An empty part, as behind a slash at the end of a path, stays where it is. -/
@[simp]
theorem enter_empty (here : Location) : enter here "" = here := if_pos (.inl rfl)

/-- Where a path leads once all directories along it are there. -/
def placeOf (disk : Disk) (path : String) : Location :=
  (pathParts path).foldl enter (disk.startOf path)

/-- The path can be gone, and it leads to a directory. -/
def Leads (disk : Disk) (path : String) : Prop :=
  (pathParts path).foldlM disk.step (disk.startOf path) = .ok (disk.placeOf path) ∧
    disk.node? (disk.placeOf path) = some .directory

/-- Paths lead to the same places under the same setting. -/
theorem placeOf_congr (hsetting : after.setting = disk.setting) (path : String) :
    after.placeOf path = disk.placeOf path := by
  have hstart : after.workingDirectory = disk.workingDirectory := congrArg Prod.fst hsetting
  rw [placeOf, placeOf, startOf, startOf, hstart]

/-- A step that can be taken is taken in a directory and leads where its part says. -/
theorem step_eq_ok {here next : Location} {part : String} (hstep : disk.step here part = .ok next) :
    disk.node? here = some .directory ∧ next = enter here part := by
  unfold step at hstep
  split at hstep
  case h_1 | h_2 => cases hstep
  case h_3 hhere =>
    refine ⟨hhere, ?_⟩
    unfold enter
    split at hstep
    case isTrue hstay =>
      rw [if_pos hstay]
      exact (Except.ok.inj hstep).symm
    case isFalse hmove =>
      rw [if_neg hmove]
      split at hstep
      case isTrue hup =>
        rw [if_pos hup]
        exact (Except.ok.inj hstep).symm
      case isFalse hname =>
        rw [if_neg hname]
        split at hstep
        case isTrue => cases hstep
        case isFalse => exact (Except.ok.inj hstep).symm

/-- A step depends only on whether it starts in a directory. -/
theorem step_congr {here : Location} (hdisk : disk.node? here = some .directory)
    (hafter : after.node? here = some .directory) (part : String) :
    after.step here part = disk.step here part := by
  simp only [step, hdisk, hafter]

/-- Going on by a name takes a directory and a name that is not too long. -/
theorem step_name_eq_ok_iff {name : String} (hname : IsName name) {here next : Location} :
    disk.step here name = .ok next ↔
      disk.node? here = some .directory ∧ name.utf8ByteSize ≤ greatestNameSize ∧
        next = here ++ [name] := by
  have hmove : ¬(name = "" ∨ name = ".") := not_or.mpr ⟨hname.ne_empty, hname.ne_here⟩
  unfold step
  split
  case h_1 hhere | h_2 hhere => simp [hhere]
  case h_3 hhere =>
    rw [if_neg hmove, if_neg hname.ne_up]
    split
    case isTrue hlong => simp [Nat.not_le_of_lt hlong]
    case isFalse hfits => simp [hhere, Nat.le_of_not_lt hfits, eq_comm]

/-- Steps that can be taken one after another lead where their parts say. -/
theorem foldlM_step_place {parts : List String} {here there : Location}
    (hwalk : parts.foldlM disk.step here = .ok there) : there = parts.foldl enter here := by
  induction parts generalizing here with
  | nil => exact (Except.ok.inj hwalk).symm
  | cons part rest ih =>
      rw [List.foldlM_cons] at hwalk
      obtain ⟨next, hstep, hrest⟩ := bind_eq_ok hwalk
      rw [List.foldl_cons, ← (step_eq_ok hstep).2]
      exact ih hrest

/-- Where all directories stay, steps can still be taken. -/
theorem foldlM_step_keeps
    (hkeeps : ∀ place, disk.node? place = some .directory → after.node? place = some .directory)
    {parts : List String} {here there : Location}
    (hwalk : parts.foldlM disk.step here = .ok there) :
    parts.foldlM after.step here = .ok there := by
  induction parts generalizing here with
  | nil => exact hwalk
  | cons part rest ih =>
      rw [List.foldlM_cons] at hwalk ⊢
      obtain ⟨next, hstep, hrest⟩ := bind_eq_ok hwalk
      have hhere := (step_eq_ok hstep).1
      rw [step_congr hhere (hkeeps here hhere), hstep]
      exact ih hrest

/-- Steps through one more part. -/
theorem foldlM_step_concat {parts : List String} {part : String} {here there : Location} :
    (parts ++ [part]).foldlM disk.step here = .ok there ↔
      ∃ middle, parts.foldlM disk.step here = .ok middle ∧ disk.step middle part = .ok there := by
  rw [List.foldlM_append]
  constructor
  · intro hwalk
    obtain ⟨middle, hmiddle, hlast⟩ := bind_eq_ok hwalk
    rw [List.foldlM_cons] at hlast
    obtain ⟨next, hstep, hnil⟩ := bind_eq_ok hlast
    cases hnil
    exact ⟨middle, hmiddle, hstep⟩
  · rintro ⟨middle, hmiddle, hstep⟩
    rw [hmiddle]
    show [part].foldlM disk.step middle = .ok there
    rw [List.foldlM_cons, hstep]
    rfl

/-- A path leads to a directory when the steps along it do. -/
theorem leads_iff {path : String} :
    disk.Leads path ↔ ∃ there, (pathParts path).foldlM disk.step (disk.startOf path) = .ok there ∧
      disk.node? there = some .directory := by
  constructor
  · intro hleads
    exact ⟨_, hleads⟩
  · rintro ⟨there, hwalk, hthere⟩
    obtain rfl := foldlM_step_place hwalk
    exact ⟨hwalk, hthere⟩

instance (disk : Disk) (path : String) : Decidable (disk.Leads path) :=
  match hwalk : (pathParts path).foldlM disk.step (disk.startOf path) with
  | .ok there => decidable_of_iff (disk.node? there = some .directory)
      ⟨fun hthere => leads_iff.mpr ⟨there, hwalk, hthere⟩, fun hleads => by
        obtain ⟨other, hother, hplace⟩ := leads_iff.mp hleads
        obtain rfl := Except.ok.inj (hwalk.symm.trans hother)
        exact hplace⟩
  | .error _ => isFalse fun hleads => by
      obtain ⟨other, hother, -⟩ := leads_iff.mp hleads
      cases hwalk.symm.trans hother

/-- The setting and all directories of a disk are kept. -/
structure Keeps (disk after : Disk) : Prop where
  setting : after.setting = disk.setting
  directories : ∀ place, disk.node? place = some .directory → after.node? place = some .directory

namespace Keeps

/-- A disk keeps what it has. -/
theorem refl (disk : Disk) : disk.Keeps disk where
  setting := rfl
  directories _ hplace := hplace

/-- What is kept twice is kept. -/
theorem trans {last : Disk} (hfirst : disk.Keeps after) (hsecond : after.Keeps last) :
    disk.Keeps last where
  setting := hsecond.setting.trans hfirst.setting
  directories place hplace := hsecond.directories place (hfirst.directories place hplace)

/-- Paths lead to the same places. -/
theorem placeOf (hkeeps : disk.Keeps after) (path : String) :
    after.placeOf path = disk.placeOf path :=
  placeOf_congr hkeeps.setting path

/-- A path that leads to a directory goes on leading there. -/
theorem leads (hkeeps : disk.Keeps after) {path : String} (hleads : disk.Leads path) :
    after.Leads path := by
  have hstart : after.workingDirectory = disk.workingDirectory := congrArg Prod.fst hkeeps.setting
  rw [Leads, hkeeps.placeOf, startOf, hstart]
  exact ⟨foldlM_step_keeps hkeeps.directories hleads.1, hkeeps.directories _ hleads.2⟩

end Keeps

/-- The parts of a path with a slash in it. -/
theorem pathParts_slash (front rest : String) :
    pathParts (front ++ "/" ++ rest) = pathParts front ++ pathParts rest := by
  have hcut : Text.pieces (· = '/') (front.toList ++ '/' :: rest.toList) =
      Text.pieces (· = '/') front.toList ++ Text.pieces (· = '/') rest.toList :=
    Text.pieces_append_cons (by decide) front.toList rest.toList
  simp [pathParts, String.toList_append, hcut]

/-- A slash at the end of a path is followed by an empty part. -/
theorem pathParts_trailing (front : String) :
    pathParts (front ++ "/") = pathParts front ++ [""] := by
  have hslash := pathParts_slash front ""
  rwa [String.append_empty] at hslash

/-- A path starts where its beginning starts. -/
theorem startOf_append (disk : Disk) {front : String} (hfront : front ≠ "") (rest : String) :
    disk.startOf (front ++ rest) = disk.startOf front := by
  have hchars : front.toList ≠ [] := fun h => hfront (String.toList_injective h)
  obtain ⟨first, others, hsplit⟩ := List.exists_cons_of_ne_nil hchars
  simp [startOf, isAbsolute, hsplit]

/-- A name is one part. -/
theorem pathParts_name {name : String} (hname : IsName name) : pathParts name = [name] := by
  have hpiece : Text.pieces (· = '/') name.toList = [name.toList] :=
    Text.pieces_of_uncut fun c hc => by
      have hne : c ≠ '/' := fun h => hname.no_slash (h ▸ hc)
      simpa using hne
  simp [pathParts, hpiece]

/-- A name is not absolute. -/
theorem isAbsolute_name {name : String} (hname : IsName name) : isAbsolute name = false := by
  have hhead : name.toList.head? ≠ some '/' := fun h => hname.no_slash (List.mem_of_head? h)
  simpa [isAbsolute] using hhead

/-- The path of a file is its name alone, or what leads to the directory, a slash and the name. -/
theorem joinPath_name (directory : String) {name : String} (hname : IsName name) :
    directory = "" ∧ joinPath directory name = name ∨
      ∃ front, (directory = front ∧ front ≠ "" ∨ directory = front ++ "/") ∧
        joinPath directory name = front ++ "/" ++ name := by
  unfold joinPath
  rw [if_neg (by simp [isAbsolute_name hname])]
  by_cases hempty : directory = ""
  · left
    simp [hempty]
  · right
    by_cases hslash : directory.toList.getLast? = some '/'
    · rw [if_pos (.inr hslash)]
      obtain ⟨lead, hlead⟩ := List.getLast?_eq_some_iff.mp hslash
      have hdirectory : directory = String.ofList lead ++ "/" := by
        apply String.toList_injective
        rw [String.toList_append, String.toList_ofList]
        exact hlead
      exact ⟨_, .inr hdirectory, by rw [← hdirectory]⟩
    · rw [if_neg (not_or.mpr ⟨hempty, hslash⟩)]
      exact ⟨directory, .inl ⟨rfl, hempty⟩, rfl⟩

/-- A path below another one ends as it is written. -/
theorem exists_joinPath_eq (base path : String) : ∃ lead, joinPath base path = lead ++ path := by
  unfold joinPath
  split
  · exact ⟨"", (String.empty_append).symm⟩
  · split
    · exact ⟨base, rfl⟩
    · exact ⟨base ++ "/", rfl⟩

/-- A path below another one goes on as it is written. -/
theorem joinPath_append {front : String} (hfront : front ≠ "") (base rest : String) :
    joinPath base (front ++ rest) = joinPath base front ++ rest := by
  have hchars : front.toList ≠ [] := fun h => hfront (String.toList_injective h)
  obtain ⟨first, others, hsplit⟩ := List.exists_cons_of_ne_nil hchars
  have habsolute : isAbsolute (front ++ rest) = isAbsolute front := by
    simp [isAbsolute, hsplit]
  simp only [joinPath, habsolute]
  split
  · rfl
  · split <;> simp [String.append_assoc]

/-- Behind a slash a path that is not absolute goes on. -/
theorem joinPath_slash {path : String} (hpath : isAbsolute path = false) (front : String) :
    joinPath (front ++ "/") path = front ++ "/" ++ path := by
  have hlast : (front ++ "/").toList.getLast? = some '/' := by simp
  rw [joinPath, if_neg (by simp [hpath]), if_pos (.inr hlast)]

/-- The last run of characters without a slash, where a name ends a path. -/
theorem takeWhile_name {name : String} (hname : IsName name) (lead : List Char) :
    (name.toList.reverse ++ lead).takeWhile (· ≠ '/') =
      name.toList.reverse ++ lead.takeWhile (· ≠ '/') := by
  apply List.takeWhile_append_of_pos
  intro c hc
  have hne : c ≠ '/' := fun h => hname.no_slash (h ▸ List.mem_reverse.mp hc)
  simpa using hne

/-- The directory that the path of a file leads through. -/
theorem directoryOf_slash (front : String) {name : String} (hname : IsName name) :
    directoryOf (front ++ "/" ++ name) = if front = "" then "/" else front := by
  have hchars : (front ++ "/" ++ name).toList = front.toList ++ ['/'] ++ name.toList := by simp
  have hrun := takeWhile_name hname ('/' :: front.toList.reverse)
  rw [List.takeWhile_cons_of_neg (by simp), List.append_nil] at hrun
  have hlead : (front.toList ++ ['/'] ++ name.toList).take
      ((front.toList ++ ['/'] ++ name.toList).length - name.toList.length) =
      front.toList ++ ['/'] := by
    rw [List.length_append, Nat.add_sub_cancel, List.take_left]
  simp only [directoryOf, hchars, List.reverse_append, List.reverse_singleton,
    List.singleton_append, hrun, List.length_reverse, hlead]
  by_cases hfront : front = ""
  · simp [hfront]
  · have hne : front.toList ≠ [] := fun h => hfront (String.toList_injective h)
    rw [if_neg (by simpa using hne), if_neg hfront, List.dropLast_concat, String.ofList_toList]

/-- The path of a name alone leads through no directory. -/
theorem directoryOf_name {name : String} (hname : IsName name) : directoryOf name = "" := by
  have hrun := takeWhile_name hname []
  rw [List.append_nil, List.takeWhile_nil, List.append_nil] at hrun
  simp only [directoryOf, hrun, List.length_reverse, Nat.sub_self, List.take_zero]
  rfl

end SchemaScaffold.Disk
