import SchemaScaffold.Proofs.Disk.Operation

/-!
# What the path of a file finds

A file in a directory is found by its path exactly where the path of the directory leads there.
Whether it does can change without any file being touched: where a path goes up again from a
directory that is not there, making that directory brings into sight what was at its end all along.
A path that never goes up leads to whatever is at its end.
-/

namespace SchemaScaffold.Disk

open Json (bind_eq_ok)

variable {disk after : Disk} {directory name : String}

/-- Going along parts that do not go up never gets nearer to the root. -/
theorem length_le_length_foldl_enter {parts : List String} (hup : ".." ∉ parts)
    (here : Location) : here.length ≤ (parts.foldl enter here).length := by
  induction parts generalizing here with
  | nil => exact Nat.le_refl _
  | cons part rest ih =>
      obtain ⟨hpart, hrest⟩ := not_or.mp (mt List.mem_cons.mpr hup)
      refine Nat.le_trans ?_ (ih hrest (enter here part))
      unfold enter
      split
      · exact Nat.le_refl _
      · rw [if_neg (Ne.symm hpart), List.length_append]
        exact Nat.le_add_right _ _

/-- Where parts that do not go up end in a directory, they start in one. -/
theorem WellFormed.node?_of_foldl_enter (hwell : disk.WellFormed) {parts : List String}
    (hup : ".." ∉ parts) {here : Location}
    (hend : disk.node? (parts.foldl enter here) = some .directory) :
    disk.node? here = some .directory := by
  induction parts generalizing here with
  | nil => exact hend
  | cons part rest ih =>
      obtain ⟨hpart, hrest⟩ := not_or.mp (mt List.mem_cons.mpr hup)
      have hnext := ih hrest hend
      unfold enter at hnext
      split at hnext
      case isTrue => exact hnext
      case isFalse =>
        rw [if_neg (Ne.symm hpart)] at hnext
        exact (hwell here part _ hnext).2.2

/-- Where parts that do not go up end in a directory, the steps along them can be taken. -/
theorem WellFormed.foldlM_step_of_not_up (hwell : disk.WellFormed) {parts : List String}
    (hup : ".." ∉ parts) {here : Location}
    (hend : disk.node? (parts.foldl enter here) = some .directory) :
    parts.foldlM disk.step here = .ok (parts.foldl enter here) := by
  induction parts generalizing here with
  | nil => rfl
  | cons part rest ih =>
      obtain ⟨hpart, hrest⟩ := not_or.mp (mt List.mem_cons.mpr hup)
      have hhere := hwell.node?_of_foldl_enter hup hend
      have hnext := hwell.node?_of_foldl_enter hrest hend
      have hstep : disk.step here part = .ok (enter here part) := by
        unfold enter at hnext ⊢
        simp only [step, hhere, if_neg (Ne.symm hpart)] at hnext ⊢
        split at hnext
        case isTrue hstay => rw [if_pos hstay, if_pos hstay]
        case isFalse hmove =>
          have hfits := (hwell here part _ hnext).2.1
          rw [if_neg hmove, if_neg hmove, if_neg (Nat.not_lt_of_le hfits)]
      rw [List.foldlM_cons, hstep]
      exact ih hrest hend

/-- A path that never goes up leads to a directory whenever one is at its end. -/
theorem WellFormed.reaches_of_not_up (hwell : disk.WellFormed) {path : String}
    (hup : ".." ∉ pathParts path) : disk.Reaches path :=
  fun hend => ⟨hwell.foldlM_step_of_not_up hup hend, hend⟩

/-- A path that never goes up does not go through a place in the directory at its end. -/
theorem not_passes_of_not_up (disk : Disk) {path : String} (hup : ".." ∉ pathParts path)
    (name : String) : ¬disk.Passes path (disk.placeOf path ++ [name]) := by
  rintro ⟨lead, ⟨rest, hsplit⟩, hplace⟩
  have hrest : ".." ∉ rest := fun h => hup (hsplit ▸ List.mem_append_right _ h)
  have hend : disk.placeOf path = rest.foldl enter (disk.placeOf path ++ [name]) := by
    rw [hplace, ← List.foldl_append, hsplit]
    rfl
  have hlength := length_le_length_foldl_enter hrest (disk.placeOf path ++ [name])
  rw [← hend, List.length_append, List.length_singleton] at hlength
  omega

/-- A path that leads to a directory goes through directories only. -/
theorem Leads.node?_of_passes {path : String} (hleads : disk.Leads path) {place : Location}
    (hpasses : disk.Passes path place) : disk.node? place = some .directory := by
  obtain ⟨hwalk, hend⟩ := hleads
  obtain ⟨lead, ⟨rest, hsplit⟩, rfl⟩ := hpasses
  rw [← hsplit, List.foldlM_append] at hwalk
  obtain ⟨middle, hlead, hrest⟩ := bind_eq_ok hwalk
  obtain rfl := foldlM_step_place hlead
  cases rest with
  | nil =>
      rwa [Except.ok.inj hrest]
  | cons part parts =>
      rw [List.foldlM_cons] at hrest
      obtain ⟨_, hstep, -⟩ := bind_eq_ok hrest
      exact (step_eq_ok hstep).1

/-- Making directories along a path that leads to one does nothing, and succeeds. -/
theorem createDirectories_eq_of_leads {path : String} (hnul : '\x00' ∉ path.toList)
    (hleads : disk.Leads path) : disk.createDirectories path = (disk, none) := by
  unfold createDirectories
  split
  case isTrue => rfl
  case isFalse =>
    rw [if_neg (by simpa using hnul)]
    exact createAlong_of_walk hleads.1 hleads.2

/-- A file is filled with the whole content unless the writing breaks off before its end. -/
theorem fill_eq_none_iff {place : Location} {content : Content} :
    disk.fill place content = (after, none) ↔
      (∀ count ∈ disk.breaksOff place content.bytes, content.bytes.length ≤ count) ∧
        after = disk.putNode place (.file content) := by
  unfold fill
  split
  case h_1 count hcount =>
    obtain ⟨hbreaks, hshort⟩ := Option.filter_eq_some_iff.mp hcount
    refine iff_of_false (by simp) fun ⟨hwhole, _⟩ => ?_
    exact absurd (hwhole count hbreaks) (by simpa using hshort)
  case h_2 hnone =>
    have hwhole : ∀ count ∈ disk.breaksOff place content.bytes, content.bytes.length ≤ count := by
      intro count hcount
      simpa using Option.filter_eq_none_iff.mp hnone count hcount
    exact ⟨fun hfilled => ⟨hwhole, (Prod.mk.inj hfilled).1.symm⟩, fun ⟨_, hafter⟩ => by rw [hafter]⟩

/-- A file can be written exactly where its name fits into a directory that the path leads to,
unless a directory stands there, the system refuses, or the writing breaks off. -/
theorem write_joinPath_eq_none_iff (hname : IsName name) {content : Content} :
    disk.write (joinPath directory name) content = (after, none) ↔
      '\x00' ∉ directory.toList ∧ name.utf8ByteSize ≤ greatestNameSize ∧ disk.Leads directory ∧
        disk.node? (disk.placeOf directory ++ [name]) ≠ some .directory ∧
        disk.refuses (if (disk.node? (disk.placeOf directory ++ [name])).isSome then .write
          else .create) (disk.placeOf directory ++ [name]) = false ∧
        (∀ count ∈ disk.breaksOff (disk.placeOf directory ++ [name]) content.bytes,
          content.bytes.length ≤ count) ∧
        after = disk.putNode (disk.placeOf directory ++ [name]) (.file content) := by
  have hopened := @openedAt_joinPath_eq_ok_iff disk directory name hname
  unfold write
  split
  case h_1 fault hfault =>
    refine iff_of_false (by simp) ?_
    rintro ⟨hnul, hfits, hleads, hfree, hallowed, -⟩
    rw [hopened.mpr ⟨hnul, hfits, hleads, hfree, hallowed, rfl⟩] at hfault
    cases hfault
  case h_2 place hplace =>
    obtain ⟨hnul, hfits, hleads, hfree, hallowed, rfl⟩ := hopened.mp hplace
    rw [fill_eq_none_iff]
    simp only [hnul, hfits, hleads, hfree, hallowed, not_false_eq_true, ne_eq, true_and]

end SchemaScaffold.Disk
