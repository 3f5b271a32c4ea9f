import SchemaScaffold.Proofs.Stub.Publishing

/-!
# Publishing stubs changes no stub

A project uses the stubs in its directory, and the packaged ones where it has none. Publishing
writes the packaged ones exactly where it has none, so nothing is used afterwards that was not used
before. There is one exception, and it is not a matter of what is written: the directory is made
first, and a path that goes up again from a directory that was not there leads somewhere only then.
What stands at its end comes into sight, stubs that nobody used before included. With force, the
packaged stubs are what is used, as far as the files can be read.
-/

namespace SchemaScaffold.Stub

open Disk (Location)

variable {disk : Disk} {directory : String} {force : Bool} {kind : StubKind} {place : Location}

/-- Making directories changes no file, no directory that is there, and no setting. -/
theorem touches_made (hwell : disk.WellFormed) (directory : String) :
    disk.Touches (fun _ => False) (disk.createDirectories directory).1 :=
  Disk.touches_createDirectories hwell directory

/-- Where publishing succeeds, the path of the directory leads there once it is made. -/
theorem Granted.leads (hgranted : Granted disk directory force) :
    '\x00' ∉ directory.toList ∧ (disk.createDirectories directory).1.Leads directory := by
  by_cases hdue : isDue (disk.createDirectories directory).1 directory force .model = true
  · obtain ⟨after, hwrite⟩ := hgranted.writable .model hdue
    obtain ⟨hnul, -, hleads, -⟩ :=
      (Disk.write_joinPath_eq_none_iff (isName_fileName .model)).mp hwrite
    exact ⟨hnul, hleads⟩
  · obtain ⟨hexists, -⟩ := isDue_eq_false_iff.mp (Bool.eq_false_iff.mpr hdue)
    obtain ⟨hnul, hleads, -⟩ := pathExists_stubPath_iff.mp hexists
    exact ⟨hnul, hleads⟩

/-- Once the directories are made, there is something where something was, and where the path goes
through. -/
theorem Granted.isSome_made_iff (hgranted : Granted disk directory force)
    (hwell : disk.WellFormed) :
    ((disk.createDirectories directory).1.node? place).isSome ↔
      (disk.node? place).isSome ∨ disk.Passes directory place := by
  have htouches := touches_made hwell directory
  constructor
  · intro hsome
    obtain ⟨node, hnode⟩ := Option.isSome_iff_exists.mp hsome
    cases node with
    | directory =>
        rcases Disk.madeAlong_createDirectories disk directory place hnode with hbefore | hpasses
        · exact .inl (by rw [hbefore]; rfl)
        · exact .inr hpasses
    | file content =>
        rw [← Disk.fileAt?_eq_some_iff, htouches.fileAt? place id,
          Disk.fileAt?_eq_some_iff] at hnode
        exact .inl (by rw [hnode]; rfl)
  · rintro (hsome | hpasses)
    · obtain ⟨node, hnode⟩ := Option.isSome_iff_exists.mp hsome
      rw [htouches.node? id hnode]
      rfl
    · rw [hgranted.leads.2.node?_of_passes (hpasses.congr htouches.setting.symm)]
      rfl

/-- Whatever is at the place of a stub, or comes to be there when the directory is made, is in sight
before: the path of the directory leads there already. -/
def InSight (disk : Disk) (directory : String) : Prop :=
  ∀ kind, (disk.node? (stubPlace disk directory kind)).isSome ∨
    disk.Passes directory (stubPlace disk directory kind) → disk.Leads directory

/-- Everything is in sight where making the directory brings no stub into it. -/
theorem Granted.inSight_iff (hgranted : Granted disk directory force)
    (hwell : disk.WellFormed) :
    InSight disk directory ↔ ∀ kind,
      (disk.createDirectories directory).1.pathExists (stubPath directory kind) =
        disk.pathExists (stubPath directory kind) := by
  obtain ⟨hnul, hmade⟩ := hgranted.leads
  have hexists (kind : StubKind) :
      (disk.createDirectories directory).1.pathExists (stubPath directory kind) = true ↔
        (disk.node? (stubPlace disk directory kind)).isSome ∨
          disk.Passes directory (stubPlace disk directory kind) := by
    rw [pathExists_stubPath_iff, stubPlace_congr (touches_made hwell directory).setting,
      hgranted.isSome_made_iff hwell]
    simp only [hnul, hmade, not_false_eq_true, true_and]
  constructor
  · intro hsight kind
    by_cases hleads : disk.Leads directory
    · rw [Disk.createDirectories_of_leads hleads]
    · rw [Bool.eq_iff_iff, hexists]
      constructor
      · intro hsome
        exact absurd (hsight kind hsome) hleads
      · intro hbefore
        exact absurd (pathExists_stubPath_iff.mp hbefore).2.1 hleads
  · intro hsame kind hsome
    have hbefore := (hexists kind).mpr hsome
    rw [hsame kind] at hbefore
    exact (pathExists_stubPath_iff.mp hbefore).2.1

/-- Where everything is in sight, the path of the directory leads to the file of a stub. -/
theorem InSight.leads_of_file (hsight : InSight disk directory)
    (hfile : (disk.fileAt? (stubPlace disk directory kind)).isSome) : disk.Leads directory := by
  obtain ⟨content, hcontent⟩ := Option.isSome_iff_exists.mp hfile
  exact hsight kind (.inl (by rw [Disk.fileAt?_eq_some_iff.mp hcontent]; rfl))

/-- A path that never goes up has everything in sight. -/
theorem inSight_of_not_up (hwell : disk.WellFormed) (hup : ".." ∉ Disk.pathParts directory) :
    InSight disk directory := by
  rintro kind (hsome | hpasses)
  · obtain ⟨node, hnode⟩ := Option.isSome_iff_exists.mp hsome
    exact hwell.reaches_of_not_up hup (hwell _ _ _ hnode).2.2
  · exact absurd hpasses (Disk.not_passes_of_not_up disk hup kind.fileName)

/-- A stub that was due is loaded as it is packaged, if its file can be read. -/
theorem Granted.directorySource_of_due (hgranted : Granted disk directory force)
    (hwell : disk.WellFormed) (orPackaged : Bool)
    (hdue : isDue (disk.createDirectories directory).1 directory force kind = true) :
    directorySource directory orPackaged (publish directory force disk).disk kind =
      if disk.refuses .read (stubPlace disk directory kind) then
        .error (.unreadable (stubPath directory kind) .refused)
      else .ok (some kind.packaged) := by
  have hfilled := filled_publish hgranted
  have hsetting := hfilled.setting.trans (touches_made hwell directory).setting
  have hrefuses : (publish directory force disk).disk.refuses = disk.refuses :=
    congrArg Prod.snd hsetting
  have hstub := hfilled.stub kind (mem_all kind) hdue
  rw [← stubPlace_congr hfilled.setting] at hstub
  rw [directorySource_of_text hgranted.leads.1 (hfilled.leads_iff.mpr hgranted.leads.2) hstub,
    stubPlace_congr hsetting, hrefuses]

/-- A stub that is not due is as it was once the directories were made. -/
theorem Granted.node?_of_not_due (hgranted : Granted disk directory force)
    (hdue : isDue (disk.createDirectories directory).1 directory force kind = false) :
    (publish directory force disk).disk.node?
        (stubPlace (disk.createDirectories directory).1 directory kind) =
      (disk.createDirectories directory).1.node?
        (stubPlace (disk.createDirectories directory).1 directory kind) := by
  apply (filled_publish hgranted).other
  intro other _ hother hsame
  rw [stubPlace_injective _ _ hsame, hother] at hdue
  cases hdue

/-- After publishing, every stub is there. -/
theorem Granted.pathExists_publish (hgranted : Granted disk directory force) (kind : StubKind) :
    (publish directory force disk).disk.pathExists (stubPath directory kind) = true := by
  have hfilled := filled_publish hgranted
  rw [pathExists_stubPath_iff, hfilled.leads_iff, stubPlace_congr hfilled.setting]
  refine ⟨hgranted.leads.1, hgranted.leads.2, ?_⟩
  cases hdue : isDue (disk.createDirectories directory).1 directory force kind with
  | true =>
      rw [hfilled.stub kind (mem_all kind) hdue]
      rfl
  | false =>
      rw [hgranted.node?_of_not_due hdue]
      exact (pathExists_stubPath_iff.mp (isDue_eq_false_iff.mp hdue).1).2.2

/-- Publishing once more without force keeps every stub and changes nothing. -/
theorem Granted.publish_publish (hgranted : Granted disk directory force) :
    publish directory false (publish directory force disk).disk =
      { events := StubKind.all.map fun kind => .kept (stubPath directory kind)
        disk := (publish directory force disk).disk } := by
  have hleads := (filled_publish hgranted).leads_iff.mpr hgranted.leads.2
  have hmade := Disk.createDirectories_eq_of_leads hgranted.leads.1 hleads
  rw [publish_eq_foldl (congrArg Prod.snd hmade), hmade]
  exact foldl_add_of_exists rfl fun kind _ => hgranted.pathExists_publish kind

/-- Without force, a stub is due only where nothing is. -/
theorem Granted.node?_eq_none_of_due (hgranted : Granted disk directory false)
    (hwell : disk.WellFormed)
    (hdue : isDue (disk.createDirectories directory).1 directory false kind = true) :
    disk.node? (stubPlace (disk.createDirectories directory).1 directory kind) = none := by
  rw [Option.eq_none_iff_forall_ne_some]
  intro node hnode
  have hmade := (touches_made hwell directory).node? id hnode
  have hexists := pathExists_stubPath_iff.mpr
    ⟨hgranted.leads.1, hgranted.leads.2, Option.isSome_iff_exists.mpr ⟨node, hmade⟩⟩
  rw [isDue, hexists] at hdue
  cases hdue

/-- Without force, whatever was there is kept. -/
theorem Granted.node?_publish (hgranted : Granted disk directory false)
    (hwell : disk.WellFormed) {node : Disk.Node} (hnode : disk.node? place = some node) :
    (publish directory false disk).disk.node? place = some node := by
  rw [(filled_publish hgranted).other place, (touches_made hwell directory).node? id hnode]
  rintro kind - hdue rfl
  rw [hgranted.node?_eq_none_of_due hwell hdue] at hnode
  cases hnode

/-- Exactly the stubs that were not there are written if and only if everything was in sight. -/
theorem Granted.written_iff (hgranted : Granted disk directory false) (hwell : disk.WellFormed) :
    InSight disk directory ↔
      (publish directory false disk).written =
        (StubKind.all.filter fun kind => !disk.pathExists (stubPath directory kind)).map
          (stubPath directory) := by
  rw [hgranted.inSight_iff hwell, (filled_publish hgranted).written,
    List.map_inj_right fun _ _ hsame => stubPath_injective directory hsame]
  constructor
  · intro hsame
    refine List.filter_congr fun kind _ => ?_
    rw [isDue, hsame kind, Bool.or_false]
  · intro hsame kind
    have hmem : kind ∈ StubKind.all.filter
          (isDue (disk.createDirectories directory).1 directory false) ↔
        kind ∈ StubKind.all.filter fun kind => !disk.pathExists (stubPath directory kind) := by
      rw [hsame]
    simp only [List.mem_filter, mem_all, true_and, isDue, Bool.or_false] at hmem
    exact Bool.not_inj (Bool.eq_iff_iff.mpr hmem)

/-- Unless there was a file out of sight and provided that new files can be read, the same stub is
loaded as before. -/
theorem Granted.directorySource_unforced (hgranted : Granted disk directory false)
    (hwell : disk.WellFormed)
    (hsight : (disk.fileAt? (stubPlace disk directory kind)).isSome → disk.Leads directory)
    (hread : disk.node? (stubPlace disk directory kind) = none →
      disk.refuses .read (stubPlace disk directory kind) = false) :
    directorySource directory true (publish directory false disk).disk kind =
      directorySource directory true disk kind := by
  have hfilled := filled_publish hgranted
  have htouches := touches_made hwell directory
  have hplace := stubPlace_congr htouches.setting directory
  by_cases hfile : (disk.fileAt? (stubPlace disk directory kind)).isSome
  case pos =>
    have hmade := Disk.createDirectories_of_leads (hsight hfile)
    obtain ⟨content, hcontent⟩ := Option.isSome_iff_exists.mp hfile
    have hexists : disk.pathExists (stubPath directory kind) = true :=
      pathExists_stubPath_iff.mpr ⟨hgranted.leads.1, hsight hfile,
        Option.isSome_iff_exists.mpr ⟨_, Disk.fileAt?_eq_some_iff.mp hcontent⟩⟩
    have hkept := hgranted.node?_of_not_due
      (isDue_eq_false_iff.mpr ⟨hmade.symm ▸ hexists, rfl⟩)
    have hleads := hfilled.leads_iff
    rw [hmade] at hkept hleads
    exact directorySource_congr (hfilled.setting.trans htouches.setting) hleads hkept
  case neg =>
    have hnone := Option.not_isSome_iff_eq_none.mp hfile
    rw [directorySource_of_no_file fun _ => hnone]
    cases hdue : isDue (disk.createDirectories directory).1 directory false kind with
    | false =>
        apply directorySource_of_no_file
        intro _
        rw [stubPlace_congr hfilled.setting, Disk.fileAt?, hgranted.node?_of_not_due hdue,
          ← Disk.fileAt?, hplace, htouches.fileAt? _ id, hnone]
    | true =>
        have hfree := hgranted.node?_eq_none_of_due hwell hdue
        rw [hplace] at hfree
        rw [hgranted.directorySource_of_due hwell true hdue, hread hfree]
        rfl

/-- With force, every stub is due. -/
theorem isDue_force (made : Disk) (directory : String) (kind : StubKind) :
    isDue made directory true kind = true :=
  Bool.or_true _

/-- With force, every stub is written. -/
theorem Granted.written_force (hgranted : Granted disk directory true) :
    (publish directory true disk).written = StubKind.all.map (stubPath directory) := by
  rw [(filled_publish hgranted).written,
    List.filter_eq_self.mpr fun kind _ => isDue_force _ directory kind]

/-- Publishing succeeds exactly when the operations that it asks for do. Without force it keeps
whatever was there, and publishing again changes nothing. It writes the stubs that were not there,
and only those, exactly if everything was in sight. A stub is loaded as before unless its file was
out of sight, provided that new files can be read. With force it writes all stubs, and the packaged
ones are loaded, with and without them to fall back on, provided that the files can be read. A path
that never goes up has everything in sight. -/
theorem publish_changes_no_stub_in_sight (disk : Disk) (directory : String)
    (hwell : disk.WellFormed) :
    (∀ force, Granted disk directory force ↔ (publish directory force disk).fault = none) ∧
    (Granted disk directory false →
      let done := publish directory false disk
      (∀ place node, disk.node? place = some node → done.disk.node? place = some node) ∧
      publish directory false done.disk =
        { events := StubKind.all.map fun kind => .kept (stubPath directory kind)
          disk := done.disk } ∧
      (InSight disk directory ↔
        done.written =
          (StubKind.all.filter fun kind => !disk.pathExists (stubPath directory kind)).map
            (stubPath directory)) ∧
      (∀ kind,
        ((disk.fileAt? (stubPlace disk directory kind)).isSome → disk.Leads directory) →
        (disk.node? (stubPlace disk directory kind) = none →
          disk.refuses .read (stubPlace disk directory kind) = false) →
        directorySource directory true done.disk kind =
          directorySource directory true disk kind)) ∧
    (Granted disk directory true →
      let done := publish directory true disk
      done.written = StubKind.all.map (stubPath directory) ∧
      ∀ orPackaged kind, directorySource directory orPackaged done.disk kind =
        if disk.refuses .read (stubPlace disk directory kind) then
          .error (.unreadable (stubPath directory kind) .refused)
        else .ok (some kind.packaged)) ∧
    (".." ∉ Disk.pathParts directory → InSight disk directory) := by
  refine ⟨fun _ => granted_iff, fun hgranted => ?unforced, fun hgranted => ?forced,
    inSight_of_not_up hwell⟩
  case unforced =>
    exact ⟨fun place node => hgranted.node?_publish hwell, hgranted.publish_publish,
      hgranted.written_iff hwell,
      fun kind => hgranted.directorySource_unforced hwell⟩
  case forced =>
    exact ⟨hgranted.written_force, fun orPackaged kind =>
      hgranted.directorySource_of_due hwell orPackaged (isDue_force _ directory kind)⟩

/-- A stub that a project made its own. -/
def ownStub : String := "class \x7b\x7b modelName \x7d\x7d"

/-- A project with a stub of its own for models. -/
def stubbedDisk : Disk where
  entries := [(["stubs"], .directory), (["stubs", "model.stub"], .file (.text ownStub))]

/-- Publishing beside that stub brings the other one, and no stub is loaded that was not before.
With force, both are the packaged ones. -/
theorem publish_beside_ownStub :
    let done := publish "/stubs" false stubbedDisk
    done.written = ["/stubs/migration.stub"] ∧
      (∀ kind, directorySource "/stubs" true done.disk kind =
        directorySource "/stubs" true stubbedDisk kind) ∧
      ∀ orPackaged kind,
        directorySource "/stubs" orPackaged (publish "/stubs" true stubbedDisk).disk kind =
          .ok (some kind.packaged) := by
  obtain ⟨hgranted, hunforced, hforced, hsight⟩ :=
    publish_changes_no_stub_in_sight stubbedDisk "/stubs" (Disk.wellFormed_of_entries (by decide))
  obtain ⟨-, -, hwritten, hloaded⟩ := hunforced ((hgranted false).mpr rfl)
  have hseen : InSight stubbedDisk "/stubs" := hsight (by decide)
  exact ⟨hwritten.mp hseen, fun kind => hloaded kind hseen.leads_of_file fun _ => rfl,
    (hforced ((hgranted true).mpr rfl)).2⟩

/-- Where that stub is out of sight, publishing brings it into sight: it is loaded in place of the
packaged one, and it is not written although nothing was at its path. And where nothing can be read,
stubs that were written over are not loaded. -/
theorem publish_brings_ownStub_into_sight :
    let hidden := "/new/../stubs"
    let done := publish hidden false stubbedDisk
    let closed : Disk := { stubbedDisk with refuses := fun access _ => access = .read }
    stubbedDisk.WellFormed ∧ done.fault = none ∧
      directorySource hidden true stubbedDisk .model = .ok (some StubKind.model.packaged) ∧
      directorySource hidden true done.disk .model = .ok (some ownStub) ∧
      ownStub ≠ StubKind.model.packaged ∧
      stubbedDisk.pathExists (stubPath hidden .model) = false ∧
      stubPath hidden .model ∉ done.written ∧
      (publish "/stubs" true closed).fault = none ∧
      directorySource "/stubs" true (publish "/stubs" true closed).disk .model =
        .error (.unreadable "/stubs/model.stub" .refused) :=
  ⟨Disk.wellFormed_of_entries (by decide), rfl, rfl, rfl, by decide +kernel, rfl,
    by decide +kernel, rfl, rfl⟩

end SchemaScaffold.Stub
