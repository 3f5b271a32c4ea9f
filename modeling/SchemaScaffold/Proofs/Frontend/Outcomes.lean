import SchemaScaffold.Frontend
import SchemaScaffold.Proofs.Process.Following
import SchemaScaffold.Proofs.Text.Decoding

/-!
# What comes of running an external parser

Whatever the parser, its pipes and the clock do, and in whatever order, a run has one of three
outcomes, and each of them says what has happened. A text is all that was printed by a parser that
ended well. A reason is all that was told by a parser that ended otherwise. That time has run out
is never said before the deadline, and a parser that was not seen to end by then has been killed and
reaped. When the outcome is there, the parser has ended.
-/

namespace SchemaScaffold.Frontend

open Process (Scene)

/-- A text for some bytes: they are its encoding, or they are the encoding of no text and it is
empty. -/
inductive IsTextOf (bytes : List UInt8) : String → Prop
  | whole {text : String} (hbytes : bytes = Text.Utf8.encode text) : IsTextOf bytes text
  | broken (hbroken : ∀ text, bytes ≠ Text.Utf8.encode text) : IsTextOf bytes ""

/-- The text that is made of bytes is one for them. -/
theorem isTextOf_textOrNothing (bytes : List UInt8) : IsTextOf bytes (textOrNothing bytes) := by
  unfold textOrNothing
  cases htext : Text.Utf8.text? bytes with
  | some text => exact .whole (Text.Utf8.text?_eq_some_iff.mp htext)
  | none =>
      refine .broken fun text hbytes => ?_
      rw [Text.Utf8.text?_eq_some_iff.mpr hbytes] at htext
      cases htext

/-- The reason that a text gives, without blanks around it. An empty one is replaced. -/
inductive IsReasonIn (text : String) : String → Prop
  | told (htold : Text.trim text ≠ "") : IsReasonIn text (Text.trim text)
  | silent (hsilent : Text.trim text = "") : IsReasonIn text "parse failed"

/-- A failed parser is given the reason that stands in its text. -/
theorem isReasonIn_failureReason (stderr : List UInt8) :
    IsReasonIn (textOrNothing stderr) (failureReason stderr) := by
  unfold failureReason
  dsimp only
  split
  case isTrue hsilent => exact .silent hsilent
  case isFalse htold => exact .told htold

/-- What has happened when a run of the parser has an outcome. -/
inductive Justified (settings : ParserSettings) (scene : Scene) : Except Error String → Prop
  /-- The parser was seen to end well, and its text is all that was written to the first pipe. -/
  | printed {text : String} (hseen : scene.watcher.seen = some (.exited 0))
      (hended : scene.world.ended = some (.exited 0)) (hleft : scene.watcher.measures = [])
      (hstdout : scene.world.stdout.IsRead) (hstderr : scene.world.stderr.IsRead)
      (htext : IsTextOf scene.world.stdout.content text) : Justified settings scene (.ok text)
  /-- The parser was seen to end otherwise, and the reason is in all that was written to the second
  pipe. -/
  | failed {status : Process.Status} {text reason : String} (hstatus : status ≠ .exited 0)
      (hseen : scene.watcher.seen = some status) (hended : scene.world.ended = some status)
      (hleft : scene.watcher.measures = [])
      (hstdout : scene.world.stdout.IsRead) (hstderr : scene.world.stderr.IsRead)
      (htext : IsTextOf scene.world.stderr.content text) (hreason : IsReasonIn text reason) :
      Justified settings scene (.error (.failed reason))
  /-- The deadline has come. The parser was seen to end and let alone, or it was killed and
  reaped. -/
  | outOfTime (hlate : settings.timeout ≤ scene.world.now) (hended : scene.world.ended.isSome)
      (hmeasures : scene.watcher.measures =
        if scene.watcher.seen.isSome then [] else [.kill, .reap]) :
      Justified settings scene (.error (.outOfTime (settings.timeout / 1000)))

variable {settings : ParserSettings}

/-- What was found once a parser was seen to end is all that it wrote. -/
theorem justified_ended {scene : Scene} {status : Process.Status} {stdout stderr : List UInt8}
    (hseen : scene.watcher.seen = some status) (hended : scene.world.ended = some status)
    (hleft : scene.watcher.measures = [])
    (hstdout : scene.world.stdout.IsRead ∧ stdout = scene.world.stdout.content)
    (hstderr : scene.world.stderr.IsRead ∧ stderr = scene.world.stderr.content) :
    Justified settings scene (textOf settings (.ended status stdout stderr)) := by
  obtain ⟨hout, rfl⟩ := hstdout
  obtain ⟨herr, rfl⟩ := hstderr
  rw [textOf]
  split
  case isTrue hsuccess =>
    obtain rfl := eq_of_beq hsuccess
    exact .printed hseen hended hleft hout herr (isTextOf_textOrNothing _)
  case isFalse hfailure =>
    have hstatus : status ≠ .exited 0 := fun hsame => hfailure (beq_iff_eq.mpr hsame)
    exact .failed hstatus hseen hended hleft hout herr (isTextOf_textOrNothing _)
      (isReasonIn_failureReason _)

/-- In every scene that can come about the finding is justified by what has happened. -/
theorem justified_of_reached {scene : Scene} {finding : Process.Finding}
    (hreached : Scene.Reached settings.timeout scene)
    (hdone : scene.watcher.stage = .done finding) :
    Justified settings scene (textOf settings finding) := by
  obtain ⟨world, watcher⟩ := scene
  obtain ⟨hstdout, hstderr, hknows⟩ := hreached.sound
  cases hknows with
  | stopped hlate hended =>
      cases hdone
      exact .outOfTime hlate (Option.isSome_of_eq_some hended) rfl
  | cut hended hlate =>
      cases hdone
      exact .outOfTime hlate (Option.isSome_of_eq_some hended) rfl
  | ended hended hout herr =>
      cases hdone
      exact justified_ended rfl hended rfl (hstdout _ hout) (hstderr _ herr)
  | _ => cases hdone

/-- What is made of watching a course is justified along the course, whenever the watcher looks. -/
theorem exists_justified_watch (settings : ParserSettings) (looks : Process.Looks)
    (course : Process.Course) :
    ∃ scene, Scene.Reached settings.timeout scene ∧ scene.Follows course ∧
      scene.watcher.measures = (Process.watch looks course settings.timeout).2 ∧
      Justified settings scene
        (textOf settings (Process.watch looks course settings.timeout).1) := by
  obtain ⟨scene, hreached, hfollows, hdone, hmeasures⟩ :=
    Process.exists_reached_watch looks course settings.timeout
  exact ⟨scene, hreached, hfollows, hmeasures, justified_of_reached hreached hdone⟩

/-- Whatever the parser, the readers of its pipes, the clock and the watcher do, one after another
in any order: what is made of the finding is a text only after the parser was seen to end well and
both pipes were read to their ends, and then it is all that was printed; a reason only after it was
seen to end otherwise and both pipes were read to their ends; and that time has run out only from
the deadline on, with a parser that was not seen to end killed and reaped. What is found by watching
any course, at any moments, and done to the parser meanwhile is justified by one of these orders
along the course, and so is what running a parser that was started comes to. -/
theorem outcomes_never_mix (settings : ParserSettings) :
    (∀ scene finding, Scene.Reached settings.timeout scene →
      scene.watcher.stage = .done finding → Justified settings scene (textOf settings finding)) ∧
    (∀ (looks : Process.Looks) (course : Process.Course),
      ∃ scene, Scene.Reached settings.timeout scene ∧ scene.Follows course ∧
        scene.watcher.measures = (Process.watch looks course settings.timeout).2 ∧
        Justified settings scene
          (textOf settings (Process.watch looks course settings.timeout).1)) ∧
    ∀ (host : Host) (source : String) (disk left : Disk) (program : Program) (args : List String)
      (course : Process.Course), commandOf host disk settings = .ok (program, args) →
      program args (Text.Utf8.encode source) disk (lastLook settings.timeout) =
        .ok (course, left) →
      ∃ scene, Scene.Reached settings.timeout scene ∧ scene.Follows course ∧
        Justified settings scene (printedBy host settings source disk).1 := by
  refine ⟨fun scene finding => justified_of_reached, exists_justified_watch settings, ?_⟩
  intro host source disk left program args course hcommand hstarted
  obtain ⟨scene, hreached, hfollows, -, hjustified⟩ :=
    exists_justified_watch settings .regular course
  have hprinted : (printedBy host settings source disk).1 =
      textOf settings (Process.watch .regular course settings.timeout).1 := by
    simp only [printedBy, hcommand, hstarted]
  rw [hprinted]
  exact ⟨scene, hreached, hfollows, hjustified⟩

/-- A parser that gave a reason and failed between two looks. The second look came only behind the
deadline of 30 milliseconds, but in time for both pipes. -/
def lateScene : Scene where
  world :=
    { now := 40
      ended := some (.exited 3)
      stdout := { isOpen := false, handed := some [] }
      stderr :=
        { taken := Text.Utf8.encode "no table\n", isOpen := false
          handed := some (Text.Utf8.encode "no table\n") } }
  watcher :=
    { stage := .done (.ended (.exited 3) [] (Text.Utf8.encode "no table\n"))
      seen := some (.exited 3) }

/-- The late scene comes about: the parser ends between the first look at it and the look at the
clock. -/
theorem reached_lateScene : Scene.Reached 30 lateScene := by
  have hlooked : Scene.Reached 30 { watcher := { stage := .timing } } :=
    Scene.Reached.act .refl (.seeRunning rfl rfl)
  have hended : Scene.Reached 30
      { world := { ended := some (.exited 3) }, watcher := { stage := .timing } } :=
    hlooked.worldSteps (.single (.finish _ rfl))
  have hresting : Scene.Reached 30 { world := { ended := some (.exited 3) } } :=
    hended.act (.rest rfl (by decide))
  have hlate : Scene.Reached 30 { lateScene with watcher := {} } :=
    hresting.worldSteps (Process.World.steps_of_parts (Nat.zero_le 40) (.inr rfl)
      (Process.Pipe.steps_whole []) (Process.Pipe.steps_whole _))
  have hfound := ((hlate.act (.seeEnd rfl rfl)).act (.takeStdout rfl rfl)).act (.takeStderr rfl rfl)
  exact hfound

/-- A parser that prints an empty list and ends within five milliseconds. -/
def promptCourse : Process.Course where
  ends := some (5, .exited 0)
  stdout := { bytes := Text.Utf8.encode "[]", closes := some 5 }
  stderr := { bytes := [], closes := some 5 }

/-- A reason that is given behind the deadline, and a text that is printed before it. -/
theorem late_reason_and_prompt_text :
    Scene.Reached 30 lateScene ∧
      Justified { timeout := 30 } lateScene (.error (.failed "no table")) ∧
      ∃ scene, Scene.Reached 30 scene ∧ scene.Follows promptCourse ∧
        Justified { timeout := 30 } scene (.ok "[]") := by
  obtain ⟨hanyOrder, -, hany⟩ := outcomes_never_mix { timeout := 30 }
  have hlate := hanyOrder lateScene _ reached_lateScene rfl
  have hprompt := hany (fun _ => some fun _ _ disk _ => .ok (promptCourse, disk)) "Table t" {} {}
    _ _ promptCourse rfl rfl
  have hreason : failureReason (Text.Utf8.encode "no table\n") = "no table" := by decide +kernel
  have hlook : Process.lookOut .regular promptCourse 30 0 = (20, some (.exited 0)) := by
    simp [Process.lookOut, promptCourse, Process.Course.statusAt, Process.Looks.regular,
      Process.lookInterval]
  have htext : textOrNothing (Text.Utf8.encode "[]") = "[]" := by decide +kernel
  have hprinted : (printedBy (fun _ => some fun _ _ disk _ => .ok (promptCourse, disk))
      { timeout := 30 } "Table t" {}).1 = .ok "[]" := by
    rw [← htext]
    exact congrArg (textOf _ ·.1) (Process.watch_of_seen hlook)
  refine ⟨reached_lateScene, ?_, ?_⟩
  · rw [← hreason]
    exact hlate
  · rw [← hprinted]
    exact hprompt

end SchemaScaffold.Frontend
