import SchemaScaffold.Proofs.Process.Interleaving

/-!
# Watching a course is one of the orders

A course says when a process ends and when its pipes are closed, but not when its bytes come out of
them, nor what the watcher does in which order. The finding of `watch` comes about in one of the
orders in which the steps can follow each other: the world is at every look what the course says it
is at this moment. So whatever holds in all orders holds of `watch`, for every course, every
deadline and every choice of the moments at which the watcher looks.
-/

namespace SchemaScaffold.Process

open Relation (ReflTransGen)

variable {earlier later : Nat}

/-- What is seen of a process is how it ended, from this moment on. -/
theorem Course.statusAt_eq_some_iff {course : Course} {moment : Nat} {status : Status} :
    course.statusAt moment = some status ↔ ∃ last ≤ moment, course.ends = some (last, status) := by
  unfold Course.statusAt
  cases course.ends with
  | none => simp
  | some ending =>
      obtain ⟨last, found⟩ := ending
      simp only [Option.some.injEq, Prod.mk.injEq, Option.ite_none_right_eq_some]
      constructor
      · rintro ⟨hlast, rfl⟩
        exact ⟨last, hlast, rfl, rfl⟩
      · rintro ⟨_, hlast, rfl, rfl⟩
        exact ⟨hlast, rfl⟩

/-- What is seen of an output is all of it, from its end on. -/
theorem Output.completeBy_eq_some_iff {output : Output} {moment : Nat} {bytes : List UInt8} :
    output.completeBy moment = some bytes ↔
      bytes = output.bytes ∧ ∃ last ≤ moment, output.closes = some last := by
  unfold Output.completeBy
  cases output.closes with
  | none => simp
  | some last =>
      simp [eq_comm, and_comm]

/-- How a process ended is seen at every later moment, too. -/
theorem Course.statusAt_of_le {course : Course} (hle : earlier ≤ later) {status : Status}
    (hended : course.statusAt earlier = some status) : course.statusAt later = some status := by
  obtain ⟨last, hlast, hends⟩ := statusAt_eq_some_iff.mp hended
  exact statusAt_eq_some_iff.mpr ⟨last, Nat.le_trans hlast hle, hends⟩

/-- What has come out of a pipe up to its end is the same at every later moment. -/
theorem Output.completeBy_of_le {output : Output} (hle : earlier ≤ later) {bytes : List UInt8}
    (hcomplete : output.completeBy earlier = some bytes) :
    output.completeBy later = some bytes := by
  obtain ⟨hbytes, last, hlast, hcloses⟩ := completeBy_eq_some_iff.mp hcomplete
  exact completeBy_eq_some_iff.mpr ⟨hbytes, last, Nat.le_trans hlast hle, hcloses⟩

/-- The pipe of an output at a moment. Up to its end nothing need have come out of it. -/
def Output.pipeAt (output : Output) (moment : Nat) : Pipe :=
  match output.completeBy moment with
  | some bytes => { taken := bytes, isOpen := false, handed := some bytes }
  | none => {}

/-- The world at a moment of a course. -/
def Course.worldAt (course : Course) (moment : Nat) : World where
  now := moment
  ended := course.statusAt moment
  stdout := course.stdout.pipeAt moment
  stderr := course.stderr.pipeAt moment

/-- A whole output goes through a pipe. -/
theorem Pipe.steps_whole (bytes : List UInt8) :
    ReflTransGen Pipe.Step {} { taken := bytes, isOpen := false, handed := some bytes } := by
  have hwrite : Pipe.Step {} { held := bytes } := .write bytes rfl
  have hclose : Pipe.Step { held := bytes } { held := bytes, isOpen := false } := .close
  have htake : Pipe.Step { held := bytes, isOpen := false } { taken := bytes, isOpen := false } :=
    .take (List.append_nil bytes).symm
  have hhand : Pipe.Step { taken := bytes, isOpen := false }
      { taken := bytes, isOpen := false, handed := some bytes } := .handOver ⟨rfl, rfl⟩ rfl
  exact (((ReflTransGen.single hwrite).tail hclose).tail htake).tail hhand

/-- An empty pipe becomes the pipe of an output at any moment. -/
theorem Output.steps_pipeAt (output : Output) (moment : Nat) :
    ReflTransGen Pipe.Step {} (output.pipeAt moment) := by
  unfold Output.pipeAt
  split
  case h_1 bytes _ => exact Pipe.steps_whole bytes
  case h_2 => exact .refl

/-- The pipe of an output becomes what it is at a later moment. -/
theorem Output.steps_pipeAt_of_le (output : Output) (hle : earlier ≤ later) :
    ReflTransGen Pipe.Step (output.pipeAt earlier) (output.pipeAt later) := by
  cases hcomplete : output.completeBy earlier with
  | some bytes =>
      have hsame : output.pipeAt later = output.pipeAt earlier := by
        rw [pipeAt, pipeAt, hcomplete, output.completeBy_of_le hle hcomplete]
      rw [hsame]
  | none =>
      have hempty : output.pipeAt earlier = {} := by rw [pipeAt, hcomplete]
      rw [hempty]
      exact output.steps_pipeAt later

/-- Time passes, the process ends, and the pipes take their steps, one after the other. -/
theorem World.steps_of_parts {before after : World} (hnow : before.now ≤ after.now)
    (hended : before.ended = none ∨ before.ended = after.ended)
    (hstdout : ReflTransGen Pipe.Step before.stdout after.stdout)
    (hstderr : ReflTransGen Pipe.Step before.stderr after.stderr) :
    ReflTransGen World.Step before after := by
  have hpass : ReflTransGen World.Step before { before with now := after.now } :=
    .single (.pass hnow)
  have hfinish : ReflTransGen World.Step { before with now := after.now }
      { before with now := after.now, ended := after.ended } := by
    rcases hended with hgoing | hsame
    · cases hafter : after.ended with
      | none => rw [← hgoing]
      | some status => exact .single (.finish status hgoing)
    · rw [← hsame]
  have hout : ReflTransGen World.Step { before with now := after.now, ended := after.ended }
      { before with now := after.now, ended := after.ended, stdout := after.stdout } :=
    ReflTransGen.lift (fun pipe => ({ before with
        now := after.now, ended := after.ended, stdout := pipe } : World))
      (fun _ _ hstep => World.Step.stdout hstep) _ _ hstdout
  have herr : ReflTransGen World.Step
      { before with now := after.now, ended := after.ended, stdout := after.stdout } after :=
    ReflTransGen.lift (fun pipe => ({ after with stderr := pipe } : World))
      (fun _ _ hstep => World.Step.stderr hstep) _ _ hstderr
  exact ((hpass.trans hfinish).trans hout).trans herr

/-- The world at a moment of a course becomes the world at a later moment of it. -/
theorem Course.steps_worldAt_of_le (course : Course) (hle : earlier ≤ later) :
    ReflTransGen World.Step (course.worldAt earlier) (course.worldAt later) := by
  refine World.steps_of_parts hle ?_ (course.stdout.steps_pipeAt_of_le hle)
    (course.stderr.steps_pipeAt_of_le hle)
  cases hended : course.statusAt earlier with
  | none => exact .inl hended
  | some status => exact .inr (hended.trans (course.statusAt_of_le hle hended).symm)

/-- The world in which a process is started becomes the world at any moment of its course. -/
theorem Course.steps_worldAt (course : Course) (moment : Nat) :
    ReflTransGen World.Step {} (course.worldAt moment) :=
  World.steps_of_parts (Nat.zero_le moment) (.inl rfl) (course.stdout.steps_pipeAt moment)
    (course.stderr.steps_pipeAt moment)

variable {deadline : Nat}

/-- While the watcher does nothing the world takes its steps. -/
theorem Scene.Reached.worldSteps {world next : World} {watcher : Watcher}
    (hreached : Scene.Reached deadline ⟨world, watcher⟩)
    (hsteps : ReflTransGen World.Step world next) :
    Scene.Reached deadline ⟨next, watcher⟩ :=
  hreached.trans (ReflTransGen.lift (fun world => (⟨world, watcher⟩ : Scene))
    (fun _ _ hstep => Scene.Step.world hstep) _ _ hsteps)

/-- The watcher acts in a world that stays as it is. -/
theorem Scene.Reached.act {world : World} {watcher next : Watcher}
    (hreached : Scene.Reached deadline ⟨world, watcher⟩)
    (hact : watcher.Act deadline world next) : Scene.Reached deadline ⟨world, next⟩ :=
  hreached.tail (.watcher hact)

/-- Where looking out ends: the end of the process was seen, or the watcher is about to kill it. -/
theorem lookOut_reached (looks : Looks) (course : Course) (n : Nat)
    (hreached : Scene.Reached deadline ⟨course.worldAt (looks.moment n), {}⟩) :
    (∃ moment status, lookOut looks course deadline n = (moment, some status) ∧
      course.statusAt moment = some status ∧
      Scene.Reached deadline ⟨course.worldAt moment,
        { stage := .awaitingStdout status, seen := some status }⟩) ∨
    ∃ moment, lookOut looks course deadline n = (moment, none) ∧
      course.statusAt moment = none ∧ deadline ≤ moment ∧
      Scene.Reached deadline ⟨course.worldAt moment, { stage := .killing }⟩ := by
  fun_induction lookOut looks course deadline n with
  | case1 n status hended => exact .inl ⟨_, status, rfl, hended, hreached.act (.seeEnd rfl hended)⟩
  | case2 n hgoing hearly ih =>
      have htimed := hreached.act (.seeRunning rfl hgoing)
      have hrested := htimed.act (.rest rfl hearly)
      exact ih (hrested.worldSteps (course.steps_worldAt_of_le (Nat.le_of_lt (looks.moment_lt n))))
  | case3 n hgoing hlate =>
      have htimed := hreached.act (.seeRunning rfl hgoing)
      exact .inr ⟨_, rfl, hgoing, Nat.le_of_not_lt hlate,
        htimed.act (.giveUp rfl (Nat.le_of_not_lt hlate))⟩

/-- The scene belongs to a course: the watcher has seen what there is to be seen of the process, and
the pipes are those of the course. -/
structure Scene.Follows (course : Course) (scene : Scene) : Prop where
  seen : scene.watcher.seen = course.statusAt scene.world.now
  stdout : scene.world.stdout = course.stdout.pipeAt scene.world.now
  stderr : scene.world.stderr = course.stderr.pipeAt scene.world.now

/-- The reader of a complete output has handed it over. -/
theorem Output.handed_pipeAt {output : Output} {moment : Nat} {bytes : List UInt8}
    (hcomplete : output.completeBy moment = some bytes) :
    (output.pipeAt moment).handed = some bytes := by
  rw [pipeAt, hcomplete]

/-- What is found when the end was seen and the pipes are waited for up to a moment. -/
def Course.findingBy (course : Course) (limit : Nat) (status : Status) : Finding :=
  match course.stdout.completeBy limit, course.stderr.completeBy limit with
  | some stdout, some stderr => .ended status stdout stderr
  | _, _ => .outOfTime

/-- A process whose end was seen is left alone, and its pipes are waited for. -/
theorem watch_of_seen {looks : Looks} {course : Course} {moment : Nat} {status : Status}
    (hlook : lookOut looks course deadline 0 = (moment, some status)) :
    watch looks course deadline = (course.findingBy (max moment deadline) status, []) := by
  rw [watch, hlook]
  cases hstdout : course.stdout.completeBy (max moment deadline) with
  | none => simp only [Course.findingBy, hstdout]
  | some stdout =>
      cases hstderr : course.stderr.completeBy (max moment deadline) with
      | none => simp only [Course.findingBy, hstdout, hstderr]
      | some stderr => simp only [Course.findingBy, hstdout, hstderr]

/-- A process that was not seen to end is killed and reaped. -/
theorem watch_of_unseen {looks : Looks} {course : Course} {moment : Nat}
    (hlook : lookOut looks course deadline 0 = (moment, none)) :
    watch looks course deadline = (.outOfTime, [.kill, .reap]) := by
  rw [watch, hlook]

/-- Once the end was seen, the watcher takes the whole outputs up to a moment that is not before the
deadline, or finds that time has run out. -/
theorem reached_findingBy {course : Course} {moment limit : Nat} {status : Status}
    (hlimit : moment ≤ limit) (hlate : deadline ≤ limit)
    (hseen : Scene.Reached deadline ⟨course.worldAt moment,
      { stage := .awaitingStdout status, seen := some status }⟩) :
    Scene.Reached deadline ⟨course.worldAt limit,
      { stage := .done (course.findingBy limit status), seen := some status }⟩ := by
  have hwaited := hseen.worldSteps (course.steps_worldAt_of_le hlimit)
  cases hstdout : course.stdout.completeBy limit with
  | none =>
      rw [Course.findingBy, hstdout]
      exact (hwaited.act (.missStdout rfl hlate)).act (.missStderr rfl hlate)
  | some stdout =>
      have htaken := hwaited.act (.takeStdout rfl (course.stdout.handed_pipeAt hstdout))
      cases hstderr : course.stderr.completeBy limit with
      | none =>
          rw [Course.findingBy, hstdout, hstderr]
          exact htaken.act (.missStderr rfl hlate)
      | some stderr =>
          have hboth := htaken.act (.takeStderr rfl (course.stderr.handed_pipeAt hstderr))
          rw [Course.findingBy, hstdout, hstderr]
          exact hboth

/-- What `watch` finds and does comes about in one of the orders, along the course. -/
theorem exists_reached_watch (looks : Looks) (course : Course) (deadline : Nat) :
    ∃ scene, Scene.Reached deadline scene ∧ scene.Follows course ∧
      scene.watcher.stage = .done (watch looks course deadline).1 ∧
      scene.watcher.measures = (watch looks course deadline).2 := by
  have hstart : Scene.Reached deadline ⟨course.worldAt (looks.moment 0), {}⟩ :=
    Scene.Reached.worldSteps .refl (course.steps_worldAt (looks.moment 0))
  rcases lookOut_reached looks course 0 hstart with
    ⟨moment, status, hlook, hended, hseen⟩ | ⟨moment, hlook, hgoing, hlate, hkilling⟩
  · have hfound := reached_findingBy (Nat.le_max_left moment deadline)
      (Nat.le_max_right moment deadline) hseen
    have hstill := course.statusAt_of_le (Nat.le_max_left moment deadline) hended
    rw [watch_of_seen hlook]
    exact ⟨_, hfound, ⟨hstill.symm, rfl, rfl⟩, rfl, rfl⟩
  · -- A process that is killed ends, and then it is reaped.
    have hkilled := hkilling.act (.kill rfl)
    have hended := hkilled.worldSteps (.single (.finish (.killed 9) hgoing))
    have hreaped := hended.act (.reap rfl rfl)
    rw [watch_of_unseen hlook]
    exact ⟨_, hreaped, ⟨hgoing.symm, rfl, rfl⟩, rfl, rfl⟩

end SchemaScaffold.Process
