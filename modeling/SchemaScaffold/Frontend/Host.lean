import SchemaScaffold.Disk.Basic
import SchemaScaffold.Process.Course

/-!
# Hosts: programs that can be started

A host knows programs by name. A program is given arguments, an input, the disk and a horizon, and
takes a course; it may not start at all. So whatever starts programs can be studied for every
behaviour that they might have.
-/

namespace SchemaScaffold.Frontend

/-- A program: from its arguments, its input, the disk and the moment up to which it is followed,
to its course and the disk at its end or at that moment. -/
abbrev Program :=
  List String → List UInt8 → Disk → Nat → Except Disk.Fault (Process.Course × Disk)

/-- Programs by their names. -/
abbrev Host := String → Option Program

end SchemaScaffold.Frontend
