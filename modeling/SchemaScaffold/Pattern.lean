import SchemaScaffold.Text.Character

/-!
# Patterns over words

Inflection rules recognise words by their endings and, now and then, by what stands before the
ending. The patterns here are just strong enough for that: no repetition, so every pattern matches
a bounded stretch and matching is a recursion on the pattern. Letters are compared without regard
to case. Of several ways to match, the first in the order of the alternatives wins, and an
optional part is taken when it can be; the search tries earlier places first.
-/

namespace SchemaScaffold

/-- What a word may be tested against. -/
inductive Pattern
  /-- Nothing at all, which is found everywhere. -/
  | empty
  /-- One letter, in either case. -/
  | letter (c : Char)
  /-- One of the letters, in either case. -/
  | oneOf (chars : List Char)
  /-- One character that is none of the letters in either case. -/
  | noneOf (chars : List Char)
  /-- One character beyond the ASCII ones. -/
  | beyondAscii
  /-- One character that is not part of a word. -/
  | separator
  /-- The start of the text. -/
  | start
  /-- The end of the text. -/
  | finish
  /-- A place between a word character and something else. -/
  | boundary
  /-- The one after the other. -/
  | seq (first second : Pattern)
  /-- The first, or else the second. -/
  | alt (first second : Pattern)
  /-- The pattern if it can be found here, or else nothing. -/
  | optional (body : Pattern)
  /-- The pattern, remembering the stretch it took. -/
  | group (body : Pattern)

namespace Pattern

instance : Append Pattern := ⟨seq⟩
instance : OrElse Pattern := ⟨fun first second => alt first (second ())⟩

/-- The letters of a text, one after another. -/
def lit (text : String) : Pattern :=
  text.toList.foldr (fun c rest => seq (letter c) rest) empty

/-- One of the texts, tried in their order. -/
def oneOfTexts : List String → Pattern
  | [] => empty
  | [text] => lit text
  | text :: rest => alt (lit text) (oneOfTexts rest)

/-- The form in which characters are compared: small letters, with the long s and the Kelvin sign
taken for the letters that they stand for. -/
def folded (c : Char) : Char :=
  if c = 'ſ' then 's'
  else if c = '\u212a' then 'k'
  else match Text.lowerChar c with
    | [small] => small
    | _ => c

/-- A place in a text, with the character just before it, what follows, and the stretches that
were remembered on the way here, latest first. -/
structure Place where
  before : Option Char
  rest : List Char
  captures : List (List Char) := []

/-- Step over one character that passes the test. -/
def Place.step (place : Place) (test : Char → Bool) : Option Place :=
  match place.rest with
  | c :: rest => if test c then some { place with before := some c, rest } else none
  | [] => none

/-- Whether exactly one side of the place is part of a word. -/
def Place.atBoundary (place : Place) : Bool :=
  (place.before.any Text.isWordChar) != (place.rest.head?.any Text.isWordChar)

/-- Match at a place and go on from where the match ends; when that fails, the next way to match
is tried. -/
def run : Pattern → Place → (Place → Option Place) → Option Place
  | empty, place, next => next place
  | letter c, place, next => (place.step (folded · == folded c)).bind next
  | oneOf chars, place, next => (place.step (fun c => chars.contains (folded c))).bind next
  | noneOf chars, place, next => (place.step (fun c => !chars.contains (folded c))).bind next
  | beyondAscii, place, next => (place.step (fun c => 128 ≤ (folded c).toNat)).bind next
  | separator, place, next => (place.step (fun c => !Text.isWordChar c)).bind next
  | start, place, next => if place.before.isNone then next place else none
  | finish, place, next => if place.rest.isEmpty then next place else none
  | boundary, place, next => if place.atBoundary then next place else none
  | seq first second, place, next => run first place (fun middle => run second middle next)
  | alt first second, place, next => (run first place next).or (run second place next)
  | optional body, place, next => (run body place next).or (next place)
  | group body, place, next =>
    run body place fun stop =>
      next { stop with
        captures := place.rest.take (place.rest.length - stop.rest.length) :: stop.captures }

/-- A stretch of a text that a pattern took, with what stands around it and the stretches that
were remembered, in their order. -/
structure Hit where
  before : List Char
  matched : List Char
  after : List Char
  captures : List (List Char)
  deriving DecidableEq, Repr

/-- The match at one place, given the characters before the place, nearest first. -/
def hitAt (pattern : Pattern) (passed rest : List Char) : Option Hit :=
  (pattern.run ⟨passed.head?, rest, []⟩ some).map fun stop =>
    { before := passed.reverse
      matched := rest.take (rest.length - stop.rest.length)
      after := stop.rest
      captures := stop.captures.reverse }

/-- The first place from here on where the pattern matches. -/
def searchFrom (pattern : Pattern) (passed : List Char) : List Char → Option Hit
  | [] => pattern.hitAt passed []
  | c :: rest => (pattern.hitAt passed (c :: rest)).or (pattern.searchFrom (c :: passed) rest)

/-- The first match in a text. -/
def search (pattern : Pattern) (text : List Char) : Option Hit :=
  pattern.searchFrom [] text

end Pattern

end SchemaScaffold
