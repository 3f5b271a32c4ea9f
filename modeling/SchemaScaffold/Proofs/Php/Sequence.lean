import SchemaScaffold.Proofs.Php.Statement

/-!
# Statements one after another

A fragment of generated code is a row of statements with blanks between them. Reading it takes one
statement off after another, each up to its own semicolon, until nothing is left; a semicolon
within a literal ends nothing. A fragment that is put together from chains of calls is read as
exactly these chains, in their order.
-/

namespace SchemaScaffold.Php

/-- Reading calls consumes no more than there is. -/
theorem length_le_of_readCalls {found after : List Token} {calls : List MethodCall}
    (hread : readCalls found = some (calls, after)) : after.length ≤ found.length := by
  induction hsize : found.length using Nat.strongRecOn generalizing found calls after with
  | _ size ih =>
      unfold readCalls at hread
      split at hread
      case h_1 method rest =>
          split at hread
          case h_1 arguments left harguments =>
              have hshorter := length_lt_of_readArguments harguments
              obtain ⟨⟨others, last⟩, hothers, heq⟩ := Option.map_eq_some_iff.mp hread
              simp only [List.length_cons] at hsize
              have hinner := ih left.length (by omega) hothers rfl
              cases heq
              omega
          case h_2 => simp at hread
      case h_2 =>
          cases hread
          omega

/-- Read one statement off, with its semicolon. -/
def nextStatement? : List Token → Option (Statement × List Token)
  | .var receiver :: rest =>
    match readCalls rest with
    | some (calls, .semicolon :: after) => some ({ receiver, calls }, after)
    | _ => none
  | _ => none

/-- Every statement is made of at least two tokens. -/
theorem length_lt_of_nextStatement? {found after : List Token} {statement : Statement}
    (hread : nextStatement? found = some (statement, after)) : after.length < found.length := by
  unfold nextStatement? at hread
  split at hread
  case h_1 receiver rest =>
      split at hread
      case h_1 calls left hcalls =>
          have hshorter := length_le_of_readCalls hcalls
          cases hread
          simp only [List.length_cons] at hshorter ⊢
          omega
      case h_2 => simp at hread
  case h_2 => simp at hread

/-- Read statements until nothing is left. -/
def readStatements (found : List Token) : Option (List Statement) :=
  match found with
  | [] => some []
  | found =>
    match _hread : nextStatement? found with
    | some (statement, after) => (readStatements after).map (statement :: ·)
    | none => none
termination_by found.length
decreasing_by exact length_lt_of_nextStatement? _hread

/-- Read the text of a fragment. -/
def Statement.listOfText? (text : String) : Option (List Statement) :=
  (Php.tokens text.toList).bind readStatements

/-- A statement is read off its tokens, whatever follows them. -/
theorem nextStatement?_tokens (statement : Statement) (rest : List Token) :
    nextStatement? (statement.tokens ++ rest) = some (statement, rest) := by
  simp only [Statement.tokens, List.cons_append, List.append_assoc, List.nil_append]
  rw [nextStatement?, readCalls_tokens]

/-- The tokens of several statements are read as these statements. -/
theorem readStatements_flatMap_tokens (statements : List Statement) :
    readStatements (statements.flatMap Statement.tokens) = some statements := by
  induction statements with
  | nil => simp [readStatements]
  | cons statement rest ih =>
      have hnext := nextStatement?_tokens statement (rest.flatMap Statement.tokens)
      rw [List.flatMap_cons, readStatements.eq_def]
      split
      case h_1 heq => simp [Statement.tokens] at heq
      case h_2 =>
          rw [hnext]
          simp [ih]

/-- A text with nothing but white space before every item lexes item by item. -/
theorem lexes_join {α : Type} {gap : List Char} (hgap : ∀ c ∈ gap, isGap c = true)
    {render : α → String} {found : α → List Token} {items : List α}
    (hitems : ∀ item ∈ items, Lexes (render item).toList (found item)) :
    Lexes (String.join (items.map fun item => String.ofList gap ++ render item)).toList
      (items.flatMap found) := by
  have hblank : Lexes gap [] := by
    induction gap with
    | nil => exact Lexes.nil
    | cons c rest ih =>
        have hc : Lexes [c] [] := Lexes.gap (hgap c List.mem_cons_self)
        exact hc.append (ih fun other hother => hgap other (List.mem_cons_of_mem _ hother))
  induction items with
  | nil => exact Lexes.nil
  | cons item rest ih =>
      have hitem := hblank.append (hitems item List.mem_cons_self)
      have hrest := ih fun other hother => hitems other (List.mem_cons_of_mem _ hother)
      simpa using hitem.append hrest

/-- Chains of calls on a variable, with white space before each of them, are read as one statement
for each chain and as nothing else. -/
theorem Statement.listOfText?_join {gap : List Char} (hgap : ∀ c ∈ gap, isGap c = true)
    {receiver : String} (hreceiver : ∀ c ∈ receiver.toList, isNameChar c = true)
    {chains : List (List MethodCall)}
    (hchains : ∀ calls ∈ chains, ∀ call ∈ calls, call.WellFormed) :
    Statement.listOfText?
        (String.join (chains.map fun calls =>
          String.ofList gap ++ chain ("$" ++ receiver) (calls.map MethodCall.toCall))) =
      some (chains.map fun calls => { receiver, calls }) := by
  have hlexes := lexes_join hgap fun calls hcalls =>
    lexes_chain hreceiver (hchains calls hcalls)
  have hread := readStatements_flatMap_tokens
    (chains.map fun calls => ({ receiver, calls } : Statement))
  rw [List.flatMap_map] at hread
  rw [Statement.listOfText?, hlexes.tokens_eq, Option.bind_some, hread]

end SchemaScaffold.Php
