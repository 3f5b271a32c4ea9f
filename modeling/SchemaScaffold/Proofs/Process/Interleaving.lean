import Mathlib.Logic.Relation
import SchemaScaffold.Process.Watch

/-!
# A watched process, one step after another

Watching is told here by what each party does by itself. The process ends at some moment. It and
whatever it left behind write into the two pipes and close them. Each pipe has a reader that takes
out what is there, piece by piece, and hands all of it over at the end of the pipe. The watcher
looks at the process and at the clock in turn, kills and reaps the process when its time has run
out, and otherwise waits for what the two readers hand over. Steps of all parties follow each other
in any order, and any time may pass between them: between a look at the process and the look at the
clock behind it, or between the end of the process and that of its pipes.

`Scene.Reached.sound` says what the watcher knows at each stage, in every such order. That the
watcher comes to an end is not claimed here.
-/

namespace SchemaScaffold.Process

/-- A pipe with the reader at its end. -/
structure Pipe where
  /-- What the reader has taken out so far. -/
  taken : List UInt8 := []
  /-- What was written and is not taken out yet. -/
  held : List UInt8 := []
  /-- Whether anyone can still write. -/
  isOpen : Bool := true
  /-- What the reader has handed over, once it has come to the end of the pipe. -/
  handed : Option (List UInt8) := none
  deriving DecidableEq, Repr

namespace Pipe

/-- All that was ever written to the pipe. -/
def content (pipe : Pipe) : List UInt8 := pipe.taken ++ pipe.held

/-- Nobody can write any more, and nothing is left to be taken out. -/
def IsRead (pipe : Pipe) : Prop := pipe.isOpen = false ∧ pipe.held = []

/-- What can happen to a pipe. -/
inductive Step : Pipe → Pipe → Prop
  /-- Someone writes. -/
  | write {pipe : Pipe} (bytes : List UInt8) (hopen : pipe.isOpen = true) :
      Step pipe { pipe with held := pipe.held ++ bytes }
  /-- The last one who could write is gone. -/
  | close {pipe : Pipe} : Step pipe { pipe with isOpen := false }
  /-- The reader takes out some of what is there. -/
  | take {pipe : Pipe} {bytes rest : List UInt8} (hheld : pipe.held = bytes ++ rest) :
      Step pipe { pipe with taken := pipe.taken ++ bytes, held := rest }
  /-- The reader finds the end of the pipe and hands over what it has taken. -/
  | handOver {pipe : Pipe} (hread : pipe.IsRead) (hfirst : pipe.handed = none) :
      Step pipe { pipe with handed := some pipe.taken }

/-- What was handed over is all that was ever written, and nothing more can come. -/
def Sound (pipe : Pipe) : Prop := ∀ bytes ∈ pipe.handed, pipe.IsRead ∧ bytes = pipe.content

/-- The reader hands over the whole content of a pipe or nothing. -/
theorem Step.sound {before after : Pipe} (hstep : Step before after) (hsound : before.Sound) :
    after.Sound := by
  intro bytes hbytes
  cases hstep with
  | write more hopen =>
      obtain ⟨⟨hclosed, -⟩, -⟩ := hsound bytes hbytes
      rw [hopen] at hclosed
      cases hclosed
  | close =>
      obtain ⟨⟨-, hheld⟩, hcontent⟩ := hsound bytes hbytes
      exact ⟨⟨rfl, hheld⟩, hcontent⟩
  | @take taken rest hheld =>
      obtain ⟨⟨hclosed, hempty⟩, hcontent⟩ := hsound bytes hbytes
      obtain ⟨-, hrest⟩ := List.append_eq_nil_iff.mp (hheld.symm.trans hempty)
      refine ⟨⟨hclosed, hrest⟩, ?_⟩
      rw [hcontent, content, content, hheld, List.append_assoc]
  | handOver hread hfirst =>
      obtain rfl := Option.some.inj hbytes
      refine ⟨hread, ?_⟩
      rw [content, hread.2, List.append_nil]

/-- What was handed over stays the same. -/
theorem Step.handed_eq {before after : Pipe} (hstep : Step before after) {bytes : List UInt8}
    (hbytes : before.handed = some bytes) : after.handed = some bytes := by
  cases hstep with
  | handOver hread hfirst =>
      rw [hfirst] at hbytes
      cases hbytes
  | _ => exact hbytes

end Pipe

/-- The clock, the process and its two pipes. -/
structure World where
  /-- The moment, counted from when the deadline was set. -/
  now : Nat := 0
  /-- How the process has ended, once it has. -/
  ended : Option Status := none
  stdout : Pipe := {}
  stderr : Pipe := {}
  deriving DecidableEq, Repr

namespace World

/-- What can happen without the watcher. -/
inductive Step : World → World → Prop
  /-- Time passes. -/
  | pass {world : World} {moment : Nat} (hlater : world.now ≤ moment) :
      Step world { world with now := moment }
  /-- The process ends. -/
  | finish {world : World} (status : Status) (hgoing : world.ended = none) :
      Step world { world with ended := some status }
  | stdout {world : World} {pipe : Pipe} (hstep : world.stdout.Step pipe) :
      Step world { world with stdout := pipe }
  | stderr {world : World} {pipe : Pipe} (hstep : world.stderr.Step pipe) :
      Step world { world with stderr := pipe }

/-- What one world has seen and a later one has not forgotten. -/
structure Keeps (before after : World) : Prop where
  now : before.now ≤ after.now
  ended : ∀ status, before.ended = some status → after.ended = some status
  stdout : ∀ bytes, before.stdout.handed = some bytes → after.stdout.handed = some bytes
  stderr : ∀ bytes, before.stderr.handed = some bytes → after.stderr.handed = some bytes

/-- Time does not run back, no process ends twice, and nothing is handed over twice. -/
theorem Step.keeps {before after : World} (hstep : Step before after) : before.Keeps after := by
  cases hstep with
  | pass hlater => exact ⟨hlater, fun _ h => h, fun _ h => h, fun _ h => h⟩
  | finish status hgoing =>
      refine ⟨Nat.le_refl _, fun other hended => ?_, fun _ h => h, fun _ h => h⟩
      rw [hgoing] at hended
      cases hended
  | stdout hpipe => exact ⟨Nat.le_refl _, fun _ h => h, fun _ h => hpipe.handed_eq h, fun _ h => h⟩
  | stderr hpipe => exact ⟨Nat.le_refl _, fun _ h => h, fun _ h => h, fun _ h => hpipe.handed_eq h⟩

end World

/-- Where the watcher stands, by what it does next. -/
inductive Stage
  /-- It looks whether the process has ended. -/
  | looking
  /-- It saw the process run and looks at the clock. -/
  | timing
  | killing
  | reaping
  /-- It saw how the process ended and waits for the first pipe. -/
  | awaitingStdout (status : Status)
  /-- It has what came out of the first pipe, or has given it up, and waits for the second one. -/
  | awaitingStderr (status : Status) (stdout : Option (List UInt8))
  | done (finding : Finding)
  deriving DecidableEq, Repr

/-- The watcher, with what it has seen of the process and done to it. -/
structure Watcher where
  stage : Stage := .looking
  seen : Option Status := none
  measures : List Measure := []
  deriving DecidableEq, Repr

/-- What is found once the second pipe was read. -/
def findingOf (status : Status) (stdout : Option (List UInt8)) (stderr : List UInt8) : Finding :=
  match stdout with
  | some stdout => .ended status stdout stderr
  | none => .outOfTime

namespace Watcher

/-- What the watcher can do in a world. Where it waits for a reader it takes what is handed over,
but from the deadline on it may also find that it has waited long enough, even if something is
handed over just then. -/
inductive Act (deadline : Nat) (world : World) : Watcher → Watcher → Prop
  | seeEnd {watcher : Watcher} {status : Status} (hstage : watcher.stage = .looking)
      (hended : world.ended = some status) :
      Act deadline world watcher
        { watcher with stage := .awaitingStdout status, seen := some status }
  | seeRunning {watcher : Watcher} (hstage : watcher.stage = .looking)
      (hgoing : world.ended = none) :
      Act deadline world watcher { watcher with stage := .timing }
  | rest {watcher : Watcher} (hstage : watcher.stage = .timing) (hearly : world.now < deadline) :
      Act deadline world watcher { watcher with stage := .looking }
  | giveUp {watcher : Watcher} (hstage : watcher.stage = .timing) (hlate : deadline ≤ world.now) :
      Act deadline world watcher { watcher with stage := .killing }
  | kill {watcher : Watcher} (hstage : watcher.stage = .killing) :
      Act deadline world watcher
        { watcher with stage := .reaping, measures := watcher.measures ++ [.kill] }
  /-- Reaping waits until the process has ended. -/
  | reap {watcher : Watcher} {status : Status} (hstage : watcher.stage = .reaping)
      (hended : world.ended = some status) :
      Act deadline world watcher
        { watcher with stage := .done .outOfTime, measures := watcher.measures ++ [.reap] }
  | takeStdout {watcher : Watcher} {status : Status} {bytes : List UInt8}
      (hstage : watcher.stage = .awaitingStdout status)
      (hhanded : world.stdout.handed = some bytes) :
      Act deadline world watcher { watcher with stage := .awaitingStderr status (some bytes) }
  | missStdout {watcher : Watcher} {status : Status}
      (hstage : watcher.stage = .awaitingStdout status) (hlate : deadline ≤ world.now) :
      Act deadline world watcher { watcher with stage := .awaitingStderr status none }
  | takeStderr {watcher : Watcher} {status : Status} {stdout : Option (List UInt8)}
      {bytes : List UInt8} (hstage : watcher.stage = .awaitingStderr status stdout)
      (hhanded : world.stderr.handed = some bytes) :
      Act deadline world watcher { watcher with stage := .done (findingOf status stdout bytes) }
  | missStderr {watcher : Watcher} {status : Status} {stdout : Option (List UInt8)}
      (hstage : watcher.stage = .awaitingStderr status stdout) (hlate : deadline ≤ world.now) :
      Act deadline world watcher { watcher with stage := .done .outOfTime }

/-- What a watcher at each stage knows of the world. -/
inductive Knows (deadline : Nat) (world : World) : Watcher → Prop
  | looking : Knows deadline world {}
  | timing : Knows deadline world { stage := .timing }
  | killing (hlate : deadline ≤ world.now) : Knows deadline world { stage := .killing }
  | reaping (hlate : deadline ≤ world.now) :
      Knows deadline world { stage := .reaping, measures := [.kill] }
  /-- Time ran out before the end was seen, and the process was stopped. -/
  | stopped {status : Status} (hlate : deadline ≤ world.now) (hended : world.ended = some status) :
      Knows deadline world { stage := .done .outOfTime, measures := [.kill, .reap] }
  | awaitingStdout {status : Status} (hended : world.ended = some status) :
      Knows deadline world { stage := .awaitingStdout status, seen := some status }
  | awaitingStderr {status : Status} {stdout : List UInt8} (hended : world.ended = some status)
      (hstdout : world.stdout.handed = some stdout) :
      Knows deadline world { stage := .awaitingStderr status (some stdout), seen := some status }
  /-- The first pipe has been given up; the second one does not matter any more. -/
  | resigned {status : Status} (hended : world.ended = some status) (hlate : deadline ≤ world.now) :
      Knows deadline world { stage := .awaitingStderr status none, seen := some status }
  | ended {status : Status} {stdout stderr : List UInt8} (hended : world.ended = some status)
      (hstdout : world.stdout.handed = some stdout) (hstderr : world.stderr.handed = some stderr) :
      Knows deadline world { stage := .done (.ended status stdout stderr), seen := some status }
  /-- The end was seen, but not the end of both pipes before time ran out. -/
  | cut {status : Status} (hended : world.ended = some status) (hlate : deadline ≤ world.now) :
      Knows deadline world { stage := .done .outOfTime, seen := some status }

variable {deadline : Nat} {world : World} {watcher : Watcher}

/-- What the watcher knows stays true whatever happens without it. -/
theorem Knows.keep (hknows : Knows deadline world watcher) {later : World}
    (hkeeps : world.Keeps later) : Knows deadline later watcher := by
  cases hknows with
  | looking => exact .looking
  | timing => exact .timing
  | killing hlate => exact .killing (Nat.le_trans hlate hkeeps.now)
  | reaping hlate => exact .reaping (Nat.le_trans hlate hkeeps.now)
  | stopped hlate hended => exact .stopped (Nat.le_trans hlate hkeeps.now) (hkeeps.ended _ hended)
  | awaitingStdout hended => exact .awaitingStdout (hkeeps.ended _ hended)
  | awaitingStderr hended hstdout =>
      exact .awaitingStderr (hkeeps.ended _ hended) (hkeeps.stdout _ hstdout)
  | resigned hended hlate => exact .resigned (hkeeps.ended _ hended) (Nat.le_trans hlate hkeeps.now)
  | ended hended hstdout hstderr =>
      exact .ended (hkeeps.ended _ hended) (hkeeps.stdout _ hstdout) (hkeeps.stderr _ hstderr)
  | cut hended hlate => exact .cut (hkeeps.ended _ hended) (Nat.le_trans hlate hkeeps.now)

/-- Each act of the watcher leads to a stage at which it knows what it has to. -/
theorem Knows.act (hknows : Knows deadline world watcher) {next : Watcher}
    (hact : Act deadline world watcher next) : Knows deadline world next := by
  cases hact with
  | seeEnd hstage hended =>
      cases hknows with
      | looking => exact .awaitingStdout hended
      | _ => cases hstage
  | seeRunning hstage hgoing =>
      cases hknows with
      | looking => exact .timing
      | _ => cases hstage
  | rest hstage hearly =>
      cases hknows with
      | timing => exact .looking
      | _ => cases hstage
  | giveUp hstage hlate =>
      cases hknows with
      | timing => exact .killing hlate
      | _ => cases hstage
  | kill hstage =>
      cases hknows with
      | killing hlate => exact .reaping hlate
      | _ => cases hstage
  | reap hstage hended =>
      cases hknows with
      | reaping hlate => exact .stopped hlate hended
      | _ => cases hstage
  | takeStdout hstage hhanded =>
      cases hknows with
      | awaitingStdout hended =>
          cases hstage
          exact .awaitingStderr hended hhanded
      | _ => cases hstage
  | missStdout hstage hlate =>
      cases hknows with
      | awaitingStdout hended =>
          cases hstage
          exact .resigned hended hlate
      | _ => cases hstage
  | takeStderr hstage hhanded =>
      cases hknows with
      | awaitingStderr hended hstdout =>
          cases hstage
          exact .ended hended hstdout hhanded
      | resigned hended hlate =>
          cases hstage
          exact .cut hended hlate
      | _ => cases hstage
  | missStderr hstage hlate =>
      cases hknows with
      | awaitingStderr hended hstdout => exact .cut hended hlate
      | resigned hended hearlier => exact .cut hended hlate
      | _ => cases hstage

end Watcher

/-- The world and the watcher in it. -/
structure Scene where
  world : World := {}
  watcher : Watcher := {}
  deriving DecidableEq, Repr

namespace Scene

/-- One party takes a step. -/
inductive Step (deadline : Nat) : Scene → Scene → Prop
  | world {scene : Scene} {world : World} (hstep : scene.world.Step world) :
      Step deadline scene { scene with world }
  | watcher {scene : Scene} {watcher : Watcher}
      (hact : scene.watcher.Act deadline scene.world watcher) :
      Step deadline scene { scene with watcher }

/-- The scene can come about, in some order of the steps of all parties, after the process was
started. -/
def Reached (deadline : Nat) (scene : Scene) : Prop :=
  Relation.ReflTransGen (Step deadline) {} scene

/-- The readers hand over nothing but whole pipes, and the watcher knows what its stage requires. -/
structure Sound (deadline : Nat) (scene : Scene) : Prop where
  stdout : scene.world.stdout.Sound
  stderr : scene.world.stderr.Sound
  knows : scene.watcher.Knows deadline scene.world

variable {deadline : Nat}

/-- A step of any party keeps a scene sound. -/
theorem Step.sound {before after : Scene} (hstep : Step deadline before after)
    (hsound : before.Sound deadline) : after.Sound deadline := by
  cases hstep with
  | world hworld =>
      have hknows := hsound.knows.keep hworld.keeps
      cases hworld with
      | pass hlater => exact ⟨hsound.stdout, hsound.stderr, hknows⟩
      | finish status hgoing => exact ⟨hsound.stdout, hsound.stderr, hknows⟩
      | stdout hpipe => exact ⟨hpipe.sound hsound.stdout, hsound.stderr, hknows⟩
      | stderr hpipe => exact ⟨hsound.stdout, hpipe.sound hsound.stderr, hknows⟩
  | watcher hact => exact ⟨hsound.stdout, hsound.stderr, hsound.knows.act hact⟩

/-- Every scene that can come about is sound. -/
theorem Reached.sound {scene : Scene} (hreached : Reached deadline scene) :
    scene.Sound deadline := by
  induction hreached with
  | refl => exact ⟨nofun, nofun, .looking⟩
  | tail _ hstep ih => exact hstep.sound ih

end Scene

end SchemaScaffold.Process
