import SchemaScaffold.Process.Course

/-!
# Watching a process up to a deadline

The watcher looks at the process again and again. If it sees the end, it waits for the rest of
both pipes, but not past the deadline; what is there by then counts even if the deadline has
passed. If the process still runs when the watcher looks at or after the deadline, it is killed
and reaped. So the answer is either the end together with everything that was put out, or that
time has run out, and never a part of the output.
-/

namespace SchemaScaffold.Process

/-- The moments at which the watcher looks, each later than the one before. -/
structure Looks where
  moment : Nat → Nat
  moment_lt : ∀ n, moment n < moment (n + 1)

/-- Milliseconds between two looks. -/
def lookInterval : Nat := 20

/-- Looks at even distances, the first of them at once. -/
def Looks.regular : Looks where
  moment n := n * lookInterval
  moment_lt n := by simp only [lookInterval]; omega

/-- What the watcher does to the process. -/
inductive Measure
  | kill
  | reap
  deriving DecidableEq, Repr

/-- What the watcher found. -/
inductive Finding
  | ended (status : Status) (stdout stderr : List UInt8)
  | outOfTime
  deriving DecidableEq, Repr

/-- Look until the end is seen or the deadline has come: the moment of the last look, and the
status if the end was seen. -/
def lookOut (looks : Looks) (course : Course) (deadline n : Nat) : Nat × Option Status :=
  match course.statusAt (looks.moment n) with
  | some status => (looks.moment n, some status)
  | none =>
    if looks.moment n < deadline then lookOut looks course deadline (n + 1)
    else (looks.moment n, none)
termination_by deadline - looks.moment n
decreasing_by
  have := looks.moment_lt n
  omega

/-- Watch a process up to a deadline: what was found and what was done to the process. -/
def watch (looks : Looks) (course : Course) (deadline : Nat) : Finding × List Measure :=
  match lookOut looks course deadline 0 with
  | (_, none) => (.outOfTime, [.kill, .reap])
  | (moment, some status) =>
    let limit := max moment deadline
    match course.stdout.completeBy limit, course.stderr.completeBy limit with
    | some stdout, some stderr => (.ended status stdout stderr, [])
    | _, _ => (.outOfTime, [])

end SchemaScaffold.Process
