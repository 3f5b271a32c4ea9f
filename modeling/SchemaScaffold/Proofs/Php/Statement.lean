import SchemaScaffold.Php.Call
import SchemaScaffold.Proofs.Php.Token

/-!
# Statements read back from their text

A generated statement calls methods one after another on a variable. `Statement.ofText?` reads such
a text through its tokens, and `ofText?_chain` says that the text of a chain of calls is read as
exactly these calls, with every literal as the text it stands for. Whatever the texts in it are, a
statement is never read as two and no call is lost or made up.
-/

namespace SchemaScaffold.Php

/-- What stands between the parentheses of a call. -/
inductive Argument
  /-- A literal. -/
  | text (value : String)
  /-- An array of literals. -/
  | texts (values : List String)
  /-- A number or a constant. -/
  | bare (word : String)
  /-- A call of a static method with a literal. -/
  | static (scope method text : String)
  deriving DecidableEq, Repr

/-- A call of a method with its arguments. -/
structure MethodCall where
  method : String
  arguments : List Argument := []
  deriving DecidableEq, Repr

/-- A statement: the name of a variable and the calls that are chained to it. -/
structure Statement where
  receiver : String
  calls : List MethodCall
  deriving DecidableEq, Repr

/-- Read the literals of an array up to its closing bracket. The last one may have a comma. -/
def readTexts : List Token → Option (List String × List Token)
  | .closeBracket :: rest => some ([], rest)
  | .literal text :: .closeBracket :: rest => some ([text], rest)
  | .literal text :: .comma :: rest =>
    (readTexts rest).map fun (values, after) => (text :: values, after)
  | _ => none

/-- Read one argument. -/
def readArgument : List Token → Option (Argument × List Token)
  | .literal text :: rest => some (.text text, rest)
  | .openBracket :: rest => (readTexts rest).map fun (values, after) => (.texts values, after)
  | .bare scope :: .scope :: .bare method :: .openParen :: .literal text :: .closeParen :: rest =>
    some (.static scope method text, rest)
  | .bare word :: rest => some (.bare word, rest)
  | _ => none

/-- Reading the literals of an array consumes at least the closing bracket. -/
theorem length_lt_of_readTexts {found after : List Token} {values : List String}
    (hread : readTexts found = some (values, after)) : after.length < found.length := by
  induction found using readTexts.induct generalizing values after with
  | case1 rest | case2 text rest =>
      simp only [readTexts, Option.some.injEq, Prod.mk.injEq] at hread
      rw [← hread.2]
      simp only [List.length_cons]
      omega
  | case3 text rest ih =>
      simp only [readTexts, Option.map_eq_some_iff] at hread
      obtain ⟨⟨others, left⟩, hothers, heq⟩ := hread
      have hshorter := ih hothers
      cases heq
      simp only [List.length_cons]
      omega
  | case4 found hclose hlast hmore =>
      rw [readTexts] at hread
      · simp at hread
      · exact hclose
      · exact hlast
      · exact hmore

/-- Reading an argument consumes at least one token. -/
theorem length_lt_of_readArgument {found after : List Token} {argument : Argument}
    (hread : readArgument found = some (argument, after)) : after.length < found.length := by
  unfold readArgument at hread
  split at hread
  case h_2 rest =>
      obtain ⟨⟨values, left⟩, htexts, heq⟩ := Option.map_eq_some_iff.mp hread
      have hshorter := length_lt_of_readTexts htexts
      cases heq
      simp only [List.length_cons]
      omega
  case h_5 => simp at hread
  all_goals
    cases hread
    simp only [List.length_cons]
    omega

/-- Read arguments up to the closing parenthesis. -/
def readArguments (found : List Token) : Option (List Argument × List Token) :=
  match found with
  | .closeParen :: rest => some ([], rest)
  | found =>
    match _hread : readArgument found with
    | some (argument, .closeParen :: rest) => some ([argument], rest)
    | some (argument, .comma :: rest) =>
      (readArguments rest).map fun (others, after) => (argument :: others, after)
    | _ => none
termination_by found.length
decreasing_by
  have hshorter := length_lt_of_readArgument _hread
  simp only [List.length_cons] at hshorter
  omega

/-- Reading arguments consumes at least the closing parenthesis. -/
theorem length_lt_of_readArguments {found after : List Token} {arguments : List Argument}
    (hread : readArguments found = some (arguments, after)) : after.length < found.length := by
  induction hsize : found.length using Nat.strongRecOn generalizing found arguments after with
  | _ size ih =>
      unfold readArguments at hread
      split at hread
      case h_1 rest =>
          cases hread
          simp [← hsize]
      case h_2 found _ =>
          split at hread
          case h_1 argument rest hargument =>
              have hshorter := length_lt_of_readArgument hargument
              cases hread
              simp only [List.length_cons] at hshorter
              omega
          case h_2 argument rest hargument =>
              have hshorter := length_lt_of_readArgument hargument
              obtain ⟨⟨others, left⟩, hothers, heq⟩ := Option.map_eq_some_iff.mp hread
              simp only [List.length_cons] at hshorter
              have hinner := ih rest.length (by omega) hothers rfl
              cases heq
              omega
          case h_3 => simp at hread

/-- Read calls as long as there is an arrow before the next one. -/
def readCalls (found : List Token) : Option (List MethodCall × List Token) :=
  match found with
  | .arrow :: .bare method :: .openParen :: rest =>
    match _hread : readArguments rest with
    | some (arguments, left) =>
      (readCalls left).map fun (calls, after) => ({ method, arguments } :: calls, after)
    | none => none
  | found => some ([], found)
termination_by found.length
decreasing_by
  have hshorter := length_lt_of_readArguments _hread
  simp only [List.length_cons]
  omega

/-- Read exactly one statement: nothing may stand behind its semicolon. -/
def readStatement : List Token → Option Statement
  | .var receiver :: rest =>
    match readCalls rest with
    | some (calls, [.semicolon]) => some { receiver, calls }
    | _ => none
  | _ => none

/-- Read the text of a statement. -/
def Statement.ofText? (text : String) : Option Statement :=
  (tokens text.toList).bind readStatement

/-- The text of an argument. -/
def Argument.render : Argument → String
  | text value => literal value
  | texts values => listLiteral values
  | bare word => word
  | static scope method value => scope ++ "::" ++ method ++ "(" ++ literal value ++ ")"

/-- A call with the text of its arguments. -/
def MethodCall.toCall (call : MethodCall) : Call where
  method := call.method
  arguments := Text.joined ", " (call.arguments.map Argument.render)

/-- Something that can stand outside of literals as one word. -/
def IsBareWord (word : String) : Prop :=
  word ≠ "" ∧ ∀ c ∈ word.toList, isBareChar c = true

instance (word : String) : Decidable (IsBareWord word) :=
  decidable_of_iff (word ≠ "" ∧ word.toList.all isBareChar = true) <| by
    rw [IsBareWord, List.all_eq_true]

/-- The words of an argument are bare words; its literals may hold any text. -/
def Argument.WellFormed : Argument → Prop
  | text _ | texts _ => True
  | bare word => IsBareWord word
  | static scope method _ => IsBareWord scope ∧ IsBareWord method

/-- The words of a call are bare words. -/
def MethodCall.WellFormed (call : MethodCall) : Prop :=
  IsBareWord call.method ∧ ∀ argument ∈ call.arguments, argument.WellFormed

/-- Lists of tokens with a comma between them. -/
def separated : List (List Token) → List Token
  | [] => []
  | [found] => found
  | found :: rest => found ++ .comma :: separated rest

/-- The tokens of an argument. -/
def Argument.tokens : Argument → List Token
  | text value => [.literal value]
  | texts values => .openBracket :: separated (values.map fun value => [.literal value]) ++
      [.closeBracket]
  | bare word => [.bare word]
  | static scope method value =>
      [.bare scope, .scope, .bare method, .openParen, .literal value, .closeParen]

/-- The tokens of a call and the arrow before it. -/
def MethodCall.tokens (call : MethodCall) : List Token :=
  .arrow :: .bare call.method :: .openParen :: separated (call.arguments.map Argument.tokens) ++
    [.closeParen]

/-- The tokens of a statement, with the semicolon that ends it. -/
def Statement.tokens (statement : Statement) : List Token :=
  .var statement.receiver :: statement.calls.flatMap MethodCall.tokens ++ [.semicolon]

/-- The characters are read as exactly these tokens in front of a mark that ends every word. -/
def LexesBefore (chars : List Char) (found : List Token) : Prop :=
  ∀ (stop : Char) (more : List Char) (following : List Token), isBareChar stop = false →
    stop ≠ '>' → Lexes (stop :: more) following →
    Lexes (chars ++ stop :: more) (found ++ following)

namespace LexesBefore

/-- What is read the same before anything is read the same before a mark. -/
theorem ofLexes {chars : List Char} {found : List Token} (hlexes : Lexes chars found) :
    LexesBefore chars found :=
  fun _ _ _ _ _ hmore => hlexes.append hmore

/-- A bare word is one token. -/
theorem bare {word : String} (hword : IsBareWord word) :
    LexesBefore word.toList [.bare word] := by
  intro stop more following hstop harrow hmore
  have hne : word.toList ≠ [] := by simpa using hword.1
  simpa using Lexes.bare hword.2 hne hstop harrow hmore

/-- Texts with commas between them are read one by one. -/
theorem joined {α : Type} {render : α → String} {found : α → List Token} {items : List α}
    (hitems : ∀ item ∈ items, LexesBefore (render item).toList (found item)) :
    LexesBefore (Text.joined ", " (items.map render)).toList
      (separated (items.map found)) := by
  induction items with
  | nil => exact ofLexes Lexes.nil
  | cons item rest ih =>
      have hitem := hitems item (by simp)
      have hrest := ih fun other hother => hitems other (by simp [hother])
      cases rest with
      | nil => exact hitem
      | cons next rest =>
          intro stop more following hstop harrow hmore
          have htail := hrest stop more following hstop harrow hmore
          have hgap : Lexes [' '] [] := Lexes.gap (by decide)
          have hcomma : Lexes [','] [.comma] := Lexes.ofNext (by decide) fun _ => rfl
          have hwhole := hitem ',' _ _ (by decide) (by decide) (hcomma.append (hgap.append htail))
          simpa [Text.joined, separated] using hwhole

end LexesBefore

/-- An array of literals is read as its items between brackets. -/
theorem lexes_listLiteral (values : List String) :
    Lexes (listLiteral values).toList (Argument.tokens (.texts values)) := by
  have hopen : Lexes ['['] [.openBracket] := Lexes.ofNext (by decide) fun _ => rfl
  have hclose : Lexes [']'] [.closeBracket] := Lexes.ofNext (by decide) fun _ => rfl
  have hitems : LexesBefore (Text.joined ", " (values.map literal)).toList
      (separated (values.map fun value => [.literal value])) :=
    LexesBefore.joined fun value _ => .ofLexes (Lexes.literal value)
  have hwhole := hopen.append (hitems ']' [] _ (by decide) (by decide) hclose)
  simpa [listLiteral, Argument.tokens] using hwhole

/-- The text of an argument is read as its tokens. -/
theorem Argument.lexesBefore_render {argument : Argument} (hwell : argument.WellFormed) :
    LexesBefore argument.render.toList argument.tokens := by
  cases argument with
  | text value => exact .ofLexes (Lexes.literal value)
  | texts values => exact .ofLexes (lexes_listLiteral values)
  | bare word => exact .bare hwell
  | static scope method value =>
      have hopen : Lexes ['('] [.openParen] := Lexes.ofNext (by decide) fun _ => rfl
      have hclose : Lexes [')'] [.closeParen] := Lexes.ofNext (by decide) fun _ => rfl
      have hcolons : Lexes [':', ':'] [.scope] := Lexes.ofNext (by decide) fun _ => rfl
      have hcall := LexesBefore.bare hwell.2 '(' _ _ (by decide) (by decide)
        (hopen.append ((Lexes.literal value).append hclose))
      have hwhole := LexesBefore.bare hwell.1 ':' _ _ (by decide) (by decide)
        (hcolons.append hcall)
      exact .ofLexes (by simpa [Argument.render, Argument.tokens] using hwhole)

/-- The text of a call is read as its tokens. -/
theorem MethodCall.lexes_text {call : MethodCall} (hwell : call.WellFormed) :
    Lexes ("->" ++ call.toCall.text).toList call.tokens := by
  have harrow : Lexes ['-', '>'] [.arrow] := Lexes.ofNext (by decide) fun _ => rfl
  have hopen : Lexes ['('] [.openParen] := Lexes.ofNext (by decide) fun _ => rfl
  have hclose : Lexes [')'] [.closeParen] := Lexes.ofNext (by decide) fun _ => rfl
  have harguments : LexesBefore (Text.joined ", " (call.arguments.map Argument.render)).toList
      (separated (call.arguments.map Argument.tokens)) :=
    LexesBefore.joined fun argument hargument =>
      Argument.lexesBefore_render (hwell.2 argument hargument)
  have hbody := hopen.append (harguments ')' [] _ (by decide) (by decide) hclose)
  have hwhole := harrow.append (LexesBefore.bare hwell.1 '(' _ _ (by decide) (by decide) hbody)
  simpa [MethodCall.toCall, Call.text, MethodCall.tokens] using hwhole

/-- The items of an array are read up to its closing bracket. -/
theorem readTexts_separated (values : List String) (rest : List Token) :
    readTexts (separated (values.map fun value => [.literal value]) ++ .closeBracket :: rest) =
      some (values, rest) := by
  induction values with
  | nil => rfl
  | cons value others ih =>
      cases others with
      | nil => rfl
      | cons next others =>
          simp only [List.map_cons, separated, List.cons_append, List.nil_append] at ih ⊢
          rw [readTexts, ih]
          rfl

/-- An argument is read off, unless a bare word might go on as the scope of a call. -/
theorem readArgument_tokens (argument : Argument) (stop : Token) (hstop : stop ≠ .scope)
    (rest : List Token) :
    readArgument (argument.tokens ++ stop :: rest) = some (argument, stop :: rest) := by
  cases argument with
  | text value => rfl
  | texts values =>
      have hitems := readTexts_separated values (stop :: rest)
      simp only [Argument.tokens, List.cons_append, List.append_assoc, List.nil_append]
      rw [readArgument, hitems]
      rfl
  | bare word =>
      simp only [Argument.tokens, List.cons_append, List.nil_append]
      rw [readArgument]
      intro method value after heq
      exact hstop (List.cons.inj heq).1
  | static scope method value => rfl

/-- No argument starts with a closing parenthesis. -/
theorem Argument.tokens_ne_closeParen (argument : Argument) (more rest : List Token) :
    argument.tokens ++ more ≠ .closeParen :: rest := by
  cases argument <;> simp [Argument.tokens]

/-- Arguments are read up to the closing parenthesis. -/
theorem readArguments_separated (arguments : List Argument) (rest : List Token) :
    readArguments (separated (arguments.map Argument.tokens) ++ .closeParen :: rest) =
      some (arguments, rest) := by
  induction arguments with
  | nil => simp [separated, readArguments]
  | cons argument others ih =>
      cases others with
      | nil =>
          have hargument := readArgument_tokens argument .closeParen (by simp) rest
          simp only [List.map_cons, List.map_nil, separated]
          unfold readArguments
          split
          case h_1 heq => exact absurd heq (argument.tokens_ne_closeParen _ _)
          case h_2 => rw [hargument]
      | cons next others =>
          simp only [List.map_cons, separated, List.append_assoc, List.cons_append] at ih ⊢
          have hargument := readArgument_tokens argument .comma (by simp)
            (separated (next.tokens :: others.map Argument.tokens) ++ .closeParen :: rest)
          unfold readArguments
          split
          case h_1 heq => exact absurd heq (argument.tokens_ne_closeParen _ _)
          case h_2 =>
              rw [hargument]
              simp [ih]

/-- Calls are read up to the semicolon. -/
theorem readCalls_tokens (calls : List MethodCall) (rest : List Token) :
    readCalls (calls.flatMap MethodCall.tokens ++ .semicolon :: rest) =
      some (calls, .semicolon :: rest) := by
  induction calls with
  | nil => simp [readCalls]
  | cons call others ih =>
      have harguments := readArguments_separated call.arguments
        (others.flatMap MethodCall.tokens ++ .semicolon :: rest)
      simp only [List.flatMap_cons, MethodCall.tokens, List.cons_append, List.append_assoc,
        List.nil_append]
      rw [readCalls, harguments]
      simp [ih]

/-- The text of chained calls is read as the tokens of the calls. -/
theorem lexes_calls {calls : List MethodCall} (hcalls : ∀ call ∈ calls, call.WellFormed) :
    Lexes (String.join ((calls.map MethodCall.toCall).map fun call => "->" ++ call.text)).toList
      (calls.flatMap MethodCall.tokens) := by
  induction calls with
  | nil => exact Lexes.nil
  | cons call others ih =>
      have hcall := MethodCall.lexes_text (hcalls call (by simp))
      have hrest := ih fun other hother => hcalls other (by simp [hother])
      simpa using hcall.append hrest

/-- The text of a chain of calls on a variable is read as the tokens of a statement. -/
theorem lexes_chain {receiver : String} {calls : List MethodCall}
    (hreceiver : ∀ c ∈ receiver.toList, isNameChar c = true)
    (hcalls : ∀ call ∈ calls, call.WellFormed) :
    Lexes (chain ("$" ++ receiver) (calls.map MethodCall.toCall)).toList
      (Statement.tokens { receiver, calls }) := by
  have hsemicolon : Lexes [';'] [.semicolon] := Lexes.ofNext (by decide) fun _ => rfl
  have hbody := (lexes_calls hcalls).append hsemicolon
  -- the name of the variable ends at the first arrow, or at the semicolon when there is no call
  obtain ⟨stop, more, hstop, hsplit⟩ : ∃ stop more, isNameChar stop = false ∧
      (String.join ((calls.map MethodCall.toCall).map fun call => "->" ++ call.text)).toList ++
        [';'] = stop :: more := by
    cases calls with
    | nil => exact ⟨';', [], by decide, rfl⟩
    | cons call others =>
        exact ⟨'-', _, by decide, by simp; rfl⟩
  rw [hsplit] at hbody
  have hwhole := Lexes.var hreceiver hstop hbody
  rw [← hsplit, String.ofList_toList] at hwhole
  have htext : (chain ("$" ++ receiver) (calls.map MethodCall.toCall)).toList =
      '$' :: receiver.toList ++
        ((String.join ((calls.map MethodCall.toCall).map fun call => "->" ++ call.text)).toList ++
          [';']) := by
    simp [chain]
  rw [htext]
  exact hwhole

/-- The text of a chain of calls on a variable is read as one statement with exactly these calls
and these arguments. -/
theorem Statement.ofText?_chain {receiver : String} {calls : List MethodCall}
    (hreceiver : ∀ c ∈ receiver.toList, isNameChar c = true)
    (hcalls : ∀ call ∈ calls, call.WellFormed) :
    Statement.ofText? (chain ("$" ++ receiver) (calls.map MethodCall.toCall)) =
      some { receiver, calls } := by
  rw [Statement.ofText?, (lexes_chain hreceiver hcalls).tokens_eq, Option.bind_some,
    Statement.tokens, List.cons_append, readStatement, readCalls_tokens]

end SchemaScaffold.Php
