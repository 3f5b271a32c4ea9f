import SchemaScaffold.Proofs.Php.Token
import SchemaScaffold.Proofs.Text.Replacing

/-!
# Literals and arrays in front of other text

A literal says by itself where it ends, and so does an array of literals. The reader of arrays takes
one token after another, as many as it needs, and stops behind the closing bracket; what follows is
not looked at and may be no PHP at all. Nothing in the texts of the elements can end a literal, part
two elements or close the array: each of them is read in full before the next token is looked for.

The elements are literals, or pairs of literals with `=>` between them. Numbers, constants and
nested arrays are no elements here.
-/

namespace SchemaScaffold.Php

/-- Replacing a single character replaces each of its occurrences by itself. -/
theorem replaceFrom_singleton (c : Char) (replacement chars : List Char) :
    Text.replaceFrom [c] replacement 0 chars =
      chars.flatMap fun d => if d = c then replacement else [d] := by
  induction chars with
  | nil => rfl
  | cons d rest ih =>
      rw [List.flatMap_cons, ← ih]
      by_cases hsame : d = c
      · subst hsame
        rw [if_pos rfl]
        exact Text.replaceFrom_append_pattern (List.cons_ne_nil d []) replacement rest
      · have hnone : ¬[c] <+: d :: rest := by
          rw [List.cons_prefix_cons]
          exact fun hstarts => hsame hstarts.1.symm
        rw [Text.replaceFrom_cons hnone, if_neg hsame]
        rfl

/-- Escaping all backslashes and then all quotes escapes both at once: the first pass adds no
quotes, and the second one leaves backslashes alone. -/
theorem flatMap_escapedChar_eq (text : List Char) :
    text.flatMap escapedChar =
      Text.replaceFrom ['\''] ['\\', '\''] 0 (Text.replaceFrom ['\\'] ['\\', '\\'] 0 text) := by
  rw [replaceFrom_singleton, replaceFrom_singleton, List.flatMap_assoc]
  refine congrArg (List.flatMap · text) (funext fun c => ?_)
  by_cases hslash : c = '\\'
  · subst hslash
    rfl
  · by_cases hquote : c = '\''
    · subst hquote
      rfl
    · simp [escapedChar, hslash, hquote]

/-- A literal is the text between quotes, with its backslashes doubled and then a backslash put
before each of its quotes. -/
theorem literal_eq_replaceAll (text : String) :
    literal text =
      "'" ++ Text.replaceAll "'" "\\'" (Text.replaceAll "\\" "\\\\" text) ++ "'" := by
  apply String.toList_injective
  have hescaped := flatMap_escapedChar_eq text.toList
  simp only [literal, literalChars, Text.replaceAll, String.toList_append, String.toList_ofList,
    hescaped]
  rfl

/-- An element of an array: a text, or a text under a key. -/
inductive Element
  | value (text : String)
  | entry (key text : String)
  deriving DecidableEq, Repr

/-- Read a literal from its opening quote on. -/
def readLiteral? : List Char → Option (List Char × List Char)
  | '\'' :: rest => scanLiteral rest
  | _ => none

/-- The first token behind any white space, and what follows it. -/
def tokenBehindGap? (chars : List Char) : Option (Token × List Char) :=
  nextToken? (chars.dropWhile isGap)

/-- Read one element. A literal with no `=>` behind it has no key. -/
def readElement? (chars : List Char) : Option (Element × List Char) :=
  match tokenBehindGap? chars with
  | some (.literal first, rest) =>
    match tokenBehindGap? rest with
    | some (.leadsTo, more) =>
      match tokenBehindGap? more with
      | some (.literal second, after) => some (.entry first second, after)
      | _ => none
    | _ => some (.value first, rest)
  | _ => none

/-- A token and the white space before it are made of at least one character. -/
theorem length_lt_of_tokenBehindGap? {chars after : List Char} {token : Token}
    (hread : tokenBehindGap? chars = some (token, after)) : after.length < chars.length :=
  Nat.lt_of_lt_of_le (length_lt_of_nextToken? hread) (List.dropWhile_suffix isGap).length_le

/-- Reading an element consumes at least one character. -/
theorem length_lt_of_readElement? {chars after : List Char} {element : Element}
    (hread : readElement? chars = some (element, after)) : after.length < chars.length := by
  unfold readElement? at hread
  split at hread
  case h_1 first rest hfirst =>
      have hbehind := length_lt_of_tokenBehindGap? hfirst
      split at hread
      case h_1 more hmark =>
          have hmore := length_lt_of_tokenBehindGap? hmark
          split at hread
          case h_1 second left hsecond =>
              have hleft := length_lt_of_tokenBehindGap? hsecond
              cases hread
              omega
          case h_2 => simp at hread
      case h_2 =>
          cases hread
          exact hbehind
  case h_2 => simp at hread

/-- Read elements up to the closing bracket. The last one may have a comma behind it. -/
def readElements? (chars : List Char) : Option (List Element × List Char) :=
  match _helement : readElement? chars with
  | some (element, rest) =>
    match _hmark : tokenBehindGap? rest with
    | some (.comma, more) =>
      (readElements? more).map fun (elements, after) => (element :: elements, after)
    | some (.closeBracket, after) => some ([element], after)
    | _ => none
  | none =>
    match tokenBehindGap? chars with
    | some (.closeBracket, after) => some ([], after)
    | _ => none
termination_by chars.length
decreasing_by
  have hrest := length_lt_of_readElement? _helement
  have hmore := length_lt_of_tokenBehindGap? _hmark
  omega

/-- Read an array from its opening bracket to its closing one. -/
def readArray? (chars : List Char) : Option (List Element × List Char) :=
  match tokenBehindGap? chars with
  | some (.openBracket, rest) => readElements? rest
  | _ => none

/-- The text of an element. -/
def Element.render : Element → String
  | value text => literal text
  | entry key text => literal key ++ " => " ++ literal text

/-- White space before a token is passed over. -/
theorem tokenBehindGap?_append {gap : List Char} (hgap : ∀ c ∈ gap, isGap c = true)
    (chars : List Char) : tokenBehindGap? (gap ++ chars) = tokenBehindGap? chars := by
  rw [tokenBehindGap?, List.dropWhile_append_of_pos hgap, tokenBehindGap?]

/-- White space before an element is passed over. -/
theorem readElement?_append {gap : List Char} (hgap : ∀ c ∈ gap, isGap c = true)
    (chars : List Char) : readElement? (gap ++ chars) = readElement? chars := by
  rw [readElement?, tokenBehindGap?_append hgap, readElement?]

/-- A text written as a literal is the next token, the text it stands for. -/
theorem tokenBehindGap?_literal (text : String) (rest : List Char) :
    tokenBehindGap? ((literal text).toList ++ rest) = some (.literal text, rest) := by
  have hstarts : ((literal text).toList ++ rest).dropWhile isGap =
      (literal text).toList ++ rest := by
    rw [literal, String.toList_ofList, literalChars]
    rfl
  rw [tokenBehindGap?, hstarts, nextToken?_literal]

/-- An element is read off its text, unless an arrow behind it would make it a key. -/
theorem readElement?_render (element : Element) {rest after : List Char} {token : Token}
    (hnext : tokenBehindGap? rest = some (token, after)) (harrow : token ≠ .leadsTo) :
    readElement? (element.render.toList ++ rest) = some (element, rest) := by
  cases element with
  | value text =>
      rw [Element.render, readElement?, tokenBehindGap?_literal]
      cases token with
      | leadsTo => exact absurd rfl harrow
      | _ => simp only [hnext]
  | entry key text =>
      have hgap : ∀ c ∈ [' '], isGap c = true := List.all_eq_true.mp rfl
      have hleadsTo : tokenBehindGap? (" => ".toList ++ ((literal text).toList ++ rest)) =
          some (.leadsTo, [' '] ++ ((literal text).toList ++ rest)) := rfl
      have hsecond : tokenBehindGap? ([' '] ++ ((literal text).toList ++ rest)) =
          some (.literal text, rest) :=
        (tokenBehindGap?_append hgap _).trans (tokenBehindGap?_literal text rest)
      rw [Element.render, String.toList_append, String.toList_append, List.append_assoc,
        List.append_assoc, readElement?, tokenBehindGap?_literal]
      simp only [hleadsTo, hsecond]

/-- An element with the closing bracket behind it is the last one. -/
theorem readElements?_last {chars rest after : List Char} {element : Element}
    (helement : readElement? chars = some (element, rest))
    (hmark : tokenBehindGap? rest = some (.closeBracket, after)) :
    readElements? chars = some ([element], after) := by
  unfold readElements?
  rw [helement]
  dsimp only
  rw [hmark]

/-- An element with a comma behind it comes before the others. -/
theorem readElements?_more {chars rest more : List Char} {element : Element}
    (helement : readElement? chars = some (element, rest))
    (hmark : tokenBehindGap? rest = some (.comma, more)) :
    readElements? chars =
      (readElements? more).map fun (elements, after) => (element :: elements, after) := by
  rw [readElements?.eq_def chars, helement]
  dsimp only
  rw [hmark]

/-- Where the array ends at once, there is no element. -/
theorem readElements?_close {chars after : List Char}
    (hclose : tokenBehindGap? chars = some (.closeBracket, after)) :
    readElements? chars = some ([], after) := by
  have hnone : readElement? chars = none := by
    rw [readElement?, hclose]
  unfold readElements?
  rw [hnone]
  dsimp only
  rw [hclose]

variable {separator : String} {gap : List Char}

/-- Texts of elements with commas and white space between them are read up to the bracket that
closes the array, whatever follows it. White space before the first of them does not matter. -/
theorem readElements?_joined (hseparator : separator.toList = ',' :: gap)
    (hgap : ∀ c ∈ gap, isGap c = true) {before : List Char}
    (hbefore : ∀ c ∈ before, isGap c = true) (elements : List Element) (rest : List Char) :
    readElements? (before ++
      ((Text.joined separator (elements.map Element.render)).toList ++ ']' :: rest)) =
        some (elements, rest) := by
  have hclose : tokenBehindGap? (']' :: rest) = some (.closeBracket, rest) := rfl
  induction elements generalizing before with
  | nil => exact readElements?_close ((tokenBehindGap?_append hbefore _).trans hclose)
  | cons element others ih =>
      cases others with
      | nil =>
          have helement := readElement?_render element hclose nofun
          exact readElements?_last ((readElement?_append hbefore _).trans helement) hclose
      | cons next others =>
          -- What the separator has behind its comma is white space before the other elements.
          let following := (Text.joined separator ((next :: others).map Element.render)).toList ++
            ']' :: rest
          have hcomma : tokenBehindGap? (',' :: (gap ++ following)) =
              some (.comma, gap ++ following) := rfl
          have helement := readElement?_render element hcomma nofun
          have hothers : readElements? (gap ++ following) = some (next :: others, rest) := ih hgap
          have hsplit : (Text.joined separator
              ((element :: next :: others).map Element.render)).toList ++ ']' :: rest =
                element.render.toList ++ ',' :: (gap ++ following) := by
            simp [Text.joined, following, hseparator]
          rw [hsplit, readElements?_more ((readElement?_append hbefore _).trans helement) hcomma,
            hothers]
          rfl

/-- An array is read from its opening bracket to the one that closes it. -/
theorem readArray?_joined (hseparator : separator.toList = ',' :: gap)
    (hgap : ∀ c ∈ gap, isGap c = true) (elements : List Element) (rest : List Char) :
    readArray?
      (("[" ++ Text.joined separator (elements.map Element.render) ++ "]").toList ++ rest) =
        some (elements, rest) := by
  have hnone : ∀ c ∈ ([] : List Char), isGap c = true := nofun
  have helements := readElements?_joined hseparator hgap hnone elements rest
  have hchars : ("[" ++ Text.joined separator (elements.map Element.render) ++ "]").toList ++ rest =
      '[' :: ((Text.joined separator (elements.map Element.render)).toList ++ ']' :: rest) := by
    simp [String.toList_append]
  have hopen (more : List Char) : tokenBehindGap? ('[' :: more) = some (.openBracket, more) := rfl
  rw [hchars, readArray?, hopen]
  exact helements

/-- A literal in front of any text is read to its closing quote and no further, as the text that it
was made of; and texts as an array are read to the closing bracket and no further, as these texts in
their order. Different lists have different arrays. The literal is made by doubling all backslashes
of the text and then putting a backslash before all its quotes. -/
theorem literals_scan_exactly :
    (∀ text : String, literal text =
      "'" ++ Text.replaceAll "'" "\\'" (Text.replaceAll "\\" "\\\\" text) ++ "'") ∧
    (∀ (text : String) (rest : List Char),
      readLiteral? ((literal text).toList ++ rest) = some (text.toList, rest)) ∧
    (∀ (texts : List String) (rest : List Char),
      readArray? ((listLiteral texts).toList ++ rest) = some (texts.map Element.value, rest)) ∧
    Function.Injective listLiteral := by
  have harray (texts : List String) (rest : List Char) :
      readArray? ((listLiteral texts).toList ++ rest) = some (texts.map Element.value, rest) := by
    have hseparator : ", ".toList = ',' :: [' '] := rfl
    have hgap : ∀ c ∈ [' '], isGap c = true := List.all_eq_true.mp rfl
    have hread := readArray?_joined hseparator hgap (texts.map Element.value) rest
    rw [List.map_map] at hread
    exact hread
  refine ⟨literal_eq_replaceAll, fun text rest => ?_, harray, fun first second hsame => ?_⟩
  · rw [literal, String.toList_ofList, literalChars, List.cons_append, List.append_assoc]
    exact scanLiteral_flatMap_escapedChar text.toList rest
  · have hfirst := harray first []
    rw [hsame, harray second []] at hfirst
    obtain ⟨hvalues, -⟩ := Prod.mk.inj (Option.some.inj hfirst)
    exact (List.map_inj_right fun _ _ => Element.value.inj).mp hvalues.symm

end SchemaScaffold.Php
