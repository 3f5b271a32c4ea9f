/-!
# What a process does, seen from outside

Seen from outside a process ends at some moment and in some way, and puts bytes into two pipes.
A pipe is open as long as anyone can still write to it, which may be longer than the process
itself lasts. Moments are counted in milliseconds from the start of the process.
-/

namespace SchemaScaffold.Process

/-- How a process ended. -/
inductive Status
  | exited (code : Nat)
  | killed (signal : Nat)
  deriving DecidableEq, Repr

/-- Only an exit with code zero is a success. -/
def Status.isSuccess (status : Status) : Bool := status == .exited 0

/-- All that comes out of a pipe, and the moment at which it is closed, if it ever is. -/
structure Output where
  bytes : List UInt8
  closes : Option Nat
  deriving DecidableEq, Repr

/-- The course that a process takes if nobody interferes. Without an end it goes on forever. -/
structure Course where
  ends : Option (Nat × Status)
  stdout : Output
  stderr : Output
  deriving DecidableEq, Repr

/-- How a process has ended, as far as can be seen at a moment. -/
def Course.statusAt (course : Course) (moment : Nat) : Option Status :=
  match course.ends with
  | some (last, status) => if last ≤ moment then some status else none
  | none => none

/-- What has come out of a pipe, if it is closed by a moment. -/
def Output.completeBy (output : Output) (moment : Nat) : Option (List UInt8) :=
  match output.closes with
  | some last => if last ≤ moment then some output.bytes else none
  | none => none

end SchemaScaffold.Process
