/-!
# Chained calls

Generated statements call methods one after another on what the call before returned.
-/

namespace SchemaScaffold.Php

/-- A call: the method and the text of its arguments. -/
structure Call where
  method : String
  arguments : String := ""
  deriving DecidableEq, Repr

/-- The text of a call. -/
def Call.text (call : Call) : String := call.method ++ "(" ++ call.arguments ++ ")"

/-- A statement that chains calls to a receiver. -/
def chain (receiver : String) (calls : List Call) : String :=
  receiver ++ String.join (calls.map fun call => "->" ++ call.text) ++ ";"

end SchemaScaffold.Php
