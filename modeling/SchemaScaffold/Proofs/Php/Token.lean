import SchemaScaffold.Php.Literal

/-!
# Tokens of generated PHP

Generated statements are read back through tokens: literals between single quotes, variables, bare
words (names, numbers and constants) and punctuation, with white space between them. In a literal
a backslash escapes a quote or another backslash and stands for itself before anything else.

`scanLiteral_flatMap_escapedChar` says that an escaped text never ends its literal early, and
`Lexes` lets the tokens of a text be put together from the tokens of its parts. Interpolated
strings, comments and the operators of expressions are no tokens here.
-/

namespace SchemaScaffold.Php

/-- Read the rest of a literal, behind its opening quote: the text it stands for and what follows
its closing quote. -/
def scanLiteral : List Char → Option (List Char × List Char)
  | [] => none
  | '\'' :: rest => some ([], rest)
  | '\\' :: '\\' :: rest => (scanLiteral rest).map fun (text, after) => ('\\' :: text, after)
  | '\\' :: '\'' :: rest => (scanLiteral rest).map fun (text, after) => ('\'' :: text, after)
  | c :: rest => (scanLiteral rest).map fun (text, after) => (c :: text, after)

/-- An escaped text is scanned to its end and no further, and it is decoded to itself. -/
theorem scanLiteral_flatMap_escapedChar (text rest : List Char) :
    scanLiteral (text.flatMap escapedChar ++ '\'' :: rest) = some (text, rest) := by
  induction text with
  | nil => rfl
  | cons c text ih =>
      rw [List.flatMap_cons, List.append_assoc]
      by_cases hslash : c = '\\'
      · subst hslash
        simp [escapedChar, scanLiteral, ih]
      · by_cases hquote : c = '\''
        · subst hquote
          simp [escapedChar, scanLiteral, ih]
        · have hplain : escapedChar c = [c] := by simp [escapedChar, hslash, hquote]
          rw [hplain, List.singleton_append, scanLiteral]
          · rw [ih]
            rfl
          · exact fun h => hquote h
          · exact fun _ h _ => hslash h
          · exact fun _ h _ => hslash h

/-- Scanning a literal consumes at least its closing quote. -/
theorem length_lt_of_scanLiteral {chars text after : List Char}
    (hscan : scanLiteral chars = some (text, after)) : after.length < chars.length := by
  induction chars using scanLiteral.induct generalizing text after with
  | case1 => simp [scanLiteral] at hscan
  | case2 rest =>
      simp only [scanLiteral, Option.some.injEq, Prod.mk.injEq] at hscan
      simp [← hscan.2]
  | case3 rest ih | case4 rest ih =>
      simp only [scanLiteral, Option.map_eq_some_iff] at hscan
      obtain ⟨⟨inner, left⟩, hinner, heq⟩ := hscan
      have hshorter := ih hinner
      cases heq
      simp only [List.length_cons]
      omega
  | case5 c rest hquote hslash hescaped ih =>
      rw [scanLiteral] at hscan
      · obtain ⟨⟨inner, left⟩, hinner, heq⟩ := Option.map_eq_some_iff.mp hscan
        have hshorter := ih hinner
        cases heq
        simp only [List.length_cons]
        omega
      · exact hquote
      · exact hslash
      · exact hescaped

/-- A token of a generated statement. -/
inductive Token
  | literal (text : String)
  | var (name : String)
  | bare (word : String)
  | arrow
  | scope
  | leadsTo
  | openParen
  | closeParen
  | openBracket
  | closeBracket
  | comma
  | semicolon
  deriving DecidableEq, Repr

/-- The characters of names. -/
def isNameChar (c : Char) : Bool := c.isAlphanum || c == '_'

/-- The characters of bare words, which are names or numbers with signs, points and exponents. -/
def isBareChar (c : Char) : Bool := isNameChar c || c == '.' || c == '+' || c == '-'

/-- White space between tokens. -/
def isGap (c : Char) : Bool := c == ' ' || c == '\n' || c == '\t' || c == '\r'

/-- The token at the start of a text that starts with no white space, and what follows it. -/
def nextToken? : List Char → Option (Token × List Char)
  | [] => none
  | '\'' :: rest =>
    (scanLiteral rest).map fun (text, after) => (.literal (String.ofList text), after)
  | '$' :: rest =>
    some (.var (String.ofList (rest.takeWhile isNameChar)), rest.dropWhile isNameChar)
  | '-' :: '>' :: rest => some (.arrow, rest)
  | ':' :: ':' :: rest => some (.scope, rest)
  | '=' :: '>' :: rest => some (.leadsTo, rest)
  | '(' :: rest => some (.openParen, rest)
  | ')' :: rest => some (.closeParen, rest)
  | '[' :: rest => some (.openBracket, rest)
  | ']' :: rest => some (.closeBracket, rest)
  | ',' :: rest => some (.comma, rest)
  | ';' :: rest => some (.semicolon, rest)
  | c :: rest =>
    if isBareChar c then
      some (.bare (String.ofList (c :: rest.takeWhile isBareChar)), rest.dropWhile isBareChar)
    else none

/-- A text written as a literal is read as the literal for this text. -/
theorem nextToken?_literal (text : String) (rest : List Char) :
    nextToken? ((Php.literal text).toList ++ rest) = some (.literal text, rest) := by
  rw [Php.literal, String.toList_ofList, literalChars, List.cons_append, List.append_assoc,
    List.singleton_append, nextToken?, scanLiteral_flatMap_escapedChar, Option.map_some]
  simp only [String.ofList_toList]

/-- Every token is made of at least one character. -/
theorem length_lt_of_nextToken? {chars after : List Char} {token : Token}
    (hnext : nextToken? chars = some (token, after)) : after.length < chars.length := by
  have hdrop (test : Char → Bool) (rest : List Char) :
      (rest.dropWhile test).length ≤ rest.length :=
    (List.dropWhile_suffix test).length_le
  unfold nextToken? at hnext
  split at hnext
  case h_1 => simp at hnext
  case h_2 rest =>
      obtain ⟨⟨text, left⟩, hscan, heq⟩ := Option.map_eq_some_iff.mp hnext
      have hshorter := length_lt_of_scanLiteral hscan
      cases heq
      simp only [List.length_cons]
      omega
  case h_3 rest =>
      cases hnext
      have := hdrop isNameChar rest
      simp only [List.length_cons]
      omega
  case h_13 c rest _ _ _ _ _ _ _ _ _ _ _ =>
      split at hnext
      · cases hnext
        have := hdrop isBareChar rest
        simp only [List.length_cons]
        omega
      · simp at hnext
  all_goals
    cases hnext
    simp only [List.length_cons]
    omega

/-- The tokens of a text, unless something in it is no token. -/
def tokens : List Char → Option (List Token)
  | [] => some []
  | c :: rest =>
    if isGap c then tokens rest
    else
      match _hnext : nextToken? (c :: rest) with
      | none => none
      | some (token, after) => (tokens after).map (token :: ·)
termination_by chars => chars.length
decreasing_by
  · simp
  · exact length_lt_of_nextToken? _hnext

/-- A run of characters ends where the first other character stands. -/
theorem span_of_stop {test : Char → Bool} {run : List Char} (hrun : ∀ c ∈ run, test c = true)
    {stop : Char} (hstop : test stop = false) (rest : List Char) :
    (run ++ stop :: rest).takeWhile test = run ∧
      (run ++ stop :: rest).dropWhile test = stop :: rest := by
  constructor
  · simp [List.takeWhile_append_of_pos hrun, hstop]
  · simp [List.dropWhile_append_of_pos hrun, hstop]

/-- The characters of bare words are no white space. -/
theorem isGap_of_isBareChar {c : Char} (hbare : isBareChar c = true) : isGap c = false := by
  rw [Bool.eq_false_iff]
  intro hgap
  simp only [isGap, Bool.or_eq_true, beq_iff_eq] at hgap
  rcases hgap with ((rfl | rfl) | rfl) | rfl <;> exact absurd hbare (by decide)

/-- A bare word is taken up to the first character that belongs to none. A single minus sign
before the point of an arrow would not be a word. -/
theorem nextToken?_bare {c : Char} {tail : List Char}
    (hword : ∀ d ∈ c :: tail, isBareChar d = true) {stop : Char} (hstop : isBareChar stop = false)
    (harrow : stop ≠ '>') (rest : List Char) :
    nextToken? (c :: (tail ++ stop :: rest)) =
      some (.bare (String.ofList (c :: tail)), stop :: rest) := by
  have hc : isBareChar c = true := hword c (by simp)
  have htail : ∀ d ∈ tail, isBareChar d = true := fun d hd => hword d (by simp [hd])
  obtain ⟨htake, hdrop⟩ := span_of_stop htail hstop rest
  rw [nextToken?.eq_def]
  split
  case h_1 heq => simp at heq
  case h_4 rest' heq =>
      obtain ⟨rfl, -⟩ := List.cons.inj heq
      have hsecond := (List.cons.inj heq).2
      cases tail with
      | nil => exact absurd (List.cons.inj hsecond).1 harrow
      | cons d tail =>
          obtain ⟨rfl, -⟩ := List.cons.inj hsecond
          exact absurd (htail '>' (by simp)) (by decide)
  case h_13 heq =>
      obtain ⟨rfl, rfl⟩ := List.cons.inj heq
      rw [if_pos hc, htake, hdrop]
  -- every other row starts with a mark that belongs to no bare word
  all_goals
    rename_i heq
    obtain ⟨rfl, -⟩ := List.cons.inj heq
    exact absurd hc (by decide)

/-- The characters are read as exactly these tokens, whatever follows them. -/
def Lexes (chars : List Char) (found : List Token) : Prop :=
  ∀ rest, tokens (chars ++ rest) = (tokens rest).map (found ++ ·)

namespace Lexes

/-- Nothing has no tokens. -/
theorem nil : Lexes [] [] := by
  intro rest
  simp

/-- The tokens of two parts stand one after the other. -/
theorem append {first second : List Char} {firstTokens secondTokens : List Token}
    (hfirst : Lexes first firstTokens) (hsecond : Lexes second secondTokens) :
    Lexes (first ++ second) (firstTokens ++ secondTokens) := by
  intro rest
  rw [List.append_assoc, hfirst, hsecond, Option.map_map]
  congr 1
  funext found
  simp

/-- A text that lexes by itself has these tokens. -/
theorem tokens_eq {chars : List Char} {found : List Token} (hlexes : Lexes chars found) :
    tokens chars = some found := by
  have hwhole := hlexes []
  rw [List.append_nil, tokens] at hwhole
  simpa using hwhole

/-- White space has no tokens. -/
theorem gap {c : Char} (hgap : isGap c = true) : Lexes [c] [] := by
  intro rest
  rw [List.singleton_append, tokens, if_pos hgap]
  simp

/-- One token, read off by `nextToken?` whatever follows it. -/
theorem ofNext {c : Char} {chars : List Char} {token : Token} (hgap : isGap c = false)
    (hnext : ∀ rest, nextToken? (c :: chars ++ rest) = some (token, rest)) :
    Lexes (c :: chars) [token] := by
  intro rest
  have hhere := hnext rest
  rw [List.cons_append] at hhere ⊢
  rw [tokens, if_neg (by simp [hgap]), hhere]
  rfl

/-- A literal is one token, the text it stands for. -/
theorem literal (text : String) : Lexes (Php.literal text).toList [.literal text] := by
  have hnext := nextToken?_literal text
  rw [Php.literal, String.toList_ofList] at hnext ⊢
  exact ofNext (by decide) hnext

/-- A variable, up to a character that belongs to no name. -/
theorem var {name : List Char} (hname : ∀ c ∈ name, isNameChar c = true) {stop : Char}
    (hstop : isNameChar stop = false) {more : List Char} {found : List Token}
    (hmore : Lexes (stop :: more) found) :
    Lexes ('$' :: name ++ stop :: more) (.var (String.ofList name) :: found) := by
  intro rest
  obtain ⟨htake, hdrop⟩ := span_of_stop hname hstop (more ++ rest)
  have hhere := hmore rest
  simp only [List.cons_append, List.append_assoc] at hhere ⊢
  rw [tokens, if_neg (by decide), nextToken?, htake, hdrop]
  simp [hhere, Function.comp_def]

/-- A bare word, up to a character that belongs to none. -/
theorem bare {word : List Char} (hword : ∀ c ∈ word, isBareChar c = true) (hne : word ≠ [])
    {stop : Char} (hstop : isBareChar stop = false) (harrow : stop ≠ '>') {more : List Char}
    {found : List Token} (hmore : Lexes (stop :: more) found) :
    Lexes (word ++ stop :: more) (.bare (String.ofList word) :: found) := by
  obtain ⟨c, tail, rfl⟩ := List.exists_cons_of_ne_nil hne
  intro rest
  have hgap := isGap_of_isBareChar (hword c (by simp))
  have hnext := nextToken?_bare hword hstop harrow (more ++ rest)
  have hhere := hmore rest
  simp only [List.cons_append, List.append_assoc] at hhere ⊢
  rw [tokens, if_neg (by simp [hgap]), hnext]
  simp [hhere, Function.comp_def]

end Lexes

end SchemaScaffold.Php
