import Mathlib.Data.List.Infix
import SchemaScaffold.Proofs.Php.Token
import SchemaScaffold.Proofs.Text.Replacing

/-!
# Texts between quotes, as they are and escaped

A text that is put between single quotes without being escaped is a literal for this very text only
if nothing in it is read as something else: no quote stands in it, no two backslashes stand next to
each other, and the last character is no backslash, which would take the closing quote for its own.
Any other text is cut short, or loses backslashes. This is shown without looking at what follows the
closing quote, although a literal that goes on past it reads some of that.

A text that is escaped gains nothing but backslashes, so no pattern without backslashes and quotes
stands in it that does not stand in the text.
-/

namespace SchemaScaffold.Php

/-- The text may stand between quotes as it is. -/
def IsVerbatim (text : List Char) : Prop :=
  '\'' ∉ text ∧ ¬['\\', '\\'] <:+: text ∧ ¬['\\'] <:+ text

instance (text : List Char) : Decidable (IsVerbatim text) :=
  inferInstanceAs (Decidable (_ ∧ _ ∧ _))

/-- Behind a first character that is no quote and escapes nothing, the rest of a text may stand
between quotes exactly when the whole text may. -/
theorem isVerbatim_cons {c : Char} {rest : List Char} :
    IsVerbatim (c :: rest) ↔
      c ≠ '\'' ∧ (c = '\\' → rest.head? ≠ none ∧ rest.head? ≠ some '\\') ∧ IsVerbatim rest := by
  have hpair : ['\\', '\\'] <+: c :: rest ↔ c = '\\' ∧ rest.head? = some '\\' := by
    cases rest with
    | nil => simp
    | cons d others => simp [List.cons_prefix_cons, eq_comm]
  have hlast : ['\\'] = c :: rest ↔ c = '\\' ∧ rest.head? = none := by
    simp [eq_comm]
  unfold IsVerbatim
  rw [List.mem_cons, List.infix_cons_iff, List.suffix_cons_iff, hpair, hlast]
  constructor
  · rintro ⟨hquote, hpairs, hend⟩
    simp only [not_or, not_and] at hquote hpairs hend
    exact ⟨fun h => hquote.1 h.symm, fun h => ⟨hend.1 h, hpairs.1 h⟩, hquote.2, hpairs.2, hend.2⟩
  · rintro ⟨hquote, hslash, hrest⟩
    simp only [not_or, not_and]
    exact ⟨⟨fun h => hquote h.symm, hrest.1⟩, ⟨fun h => (hslash h).2, hrest.2.1⟩,
      fun h => (hslash h).1, hrest.2.2⟩

/-- A character that is no quote, and is no backslash before a backslash or a quote, stands for
itself. -/
theorem scanLiteral_cons {c : Char} {others : List Char} (hquote : c ≠ '\'')
    (hslash : c = '\\' →
      others.head? ≠ none ∧ others.head? ≠ some '\\' ∧ others.head? ≠ some '\'')
    (rest : List Char) :
    scanLiteral (c :: others ++ '\'' :: rest) =
      (scanLiteral (others ++ '\'' :: rest)).map fun (text, after) => (c :: text, after) := by
  have hhead (hc : c = '\\') : (others ++ '\'' :: rest).head? = others.head? := by
    cases others with
    | nil => exact absurd rfl (hslash hc).1
    | cons d more => rfl
  rw [List.cons_append, scanLiteral]
  · exact hquote
  · intro more hc hmore
    exact (hslash hc).2.1 (by rw [← hhead hc, hmore, List.head?_cons])
  · intro more hc hmore
    exact (hslash hc).2.2 (by rw [← hhead hc, hmore, List.head?_cons])

/-- A backslash that begins no escape and does not end the text has a character behind it that it
does not escape. -/
theorem plain_of_not_escaping {c : Char} {others : List Char}
    (hslash : ∀ rest, c = '\\' → others = '\\' :: rest → False)
    (hescaped : ∀ rest, c = '\\' → others = '\'' :: rest → False)
    (hend : ¬(c = '\\' ∧ others = [])) (hc : c = '\\') :
    others.head? ≠ none ∧ others.head? ≠ some '\\' ∧ others.head? ≠ some '\'' := by
  cases others with
  | nil => exact absurd ⟨hc, rfl⟩ hend
  | cons d more =>
      refine ⟨by simp, fun hd => hslash more hc ?_, fun hd => hescaped more hc ?_⟩
      · rw [Option.some.inj hd]
      · rw [Option.some.inj hd]

/-- A text that may stand between quotes as it is, is read as itself up to the closing quote. -/
theorem scanLiteral_of_isVerbatim {text : List Char} (hverbatim : IsVerbatim text)
    (rest : List Char) : scanLiteral (text ++ '\'' :: rest) = some (text, rest) := by
  induction text with
  | nil => rfl
  | cons c others ih =>
      obtain ⟨hquote, hslash, hothers⟩ := isVerbatim_cons.mp hverbatim
      have hnext : others.head? ≠ some '\'' := fun h => hothers.1 (List.mem_of_mem_head? h)
      have hplain := scanLiteral_cons hquote (fun hc => ⟨(hslash hc).1, (hslash hc).2, hnext⟩) rest
      rw [hplain, ih hothers, Option.map_some]

/-- No text is read as itself with more backslashes before it: once a backslash has been taken for
an escape, nothing makes up for it. -/
theorem scanLiteral_ne_replicate_append (count : Nat) (text rest after : List Char) :
    scanLiteral (text ++ '\'' :: rest) ≠
      some (List.replicate (count + 1) '\\' ++ text, after) := by
  induction text using scanLiteral.induct generalizing count after with
  | case1 => simp [scanLiteral]
  | case2 others => simp [scanLiteral]
  | case3 others ih =>
      intro hscan
      simp only [List.cons_append, scanLiteral, Option.map_eq_some_iff, List.replicate_succ,
        Prod.mk.injEq, List.cons.injEq, true_and] at hscan
      obtain ⟨⟨inner, left⟩, hinner, rfl, rfl⟩ := hscan
      refine ih (count + 1) left (hinner.trans ?_)
      simp [List.replicate_succ']
  | case4 others ih =>
      intro hscan
      simp [scanLiteral, List.replicate_succ] at hscan
  | case5 c others hquote hslash hescaped ih =>
      intro hscan
      by_cases hend : c = '\\' ∧ others = []
      · obtain ⟨rfl, rfl⟩ := hend
        simp [scanLiteral, List.replicate_succ] at hscan
      · rw [scanLiteral_cons hquote (plain_of_not_escaping hslash hescaped hend)] at hscan
        obtain ⟨⟨inner, left⟩, hinner, heq⟩ := Option.map_eq_some_iff.mp hscan
        obtain ⟨hc, hrest⟩ := List.cons.inj (Prod.mk.inj heq).1
        have hmore : inner = List.replicate count '\\' ++ c :: others := hrest
        refine ih count left (hinner.trans ?_)
        simp [hmore, hc, List.replicate_succ']

/-- What is read as itself from an opening quote on, wherever the literal ends, may stand between
quotes as it is. -/
theorem isVerbatim_of_scanLiteral {text rest after : List Char}
    (hscan : scanLiteral (text ++ '\'' :: rest) = some (text, after)) : IsVerbatim text := by
  induction text using scanLiteral.induct generalizing after with
  | case1 => decide
  | case2 others => simp [scanLiteral] at hscan
  | case3 others ih =>
      simp only [List.cons_append, scanLiteral, Option.map_eq_some_iff, Prod.mk.injEq,
        List.cons.injEq, true_and] at hscan
      obtain ⟨⟨inner, left⟩, hinner, rfl, -⟩ := hscan
      exact absurd hinner (scanLiteral_ne_replicate_append 0 others rest left)
  | case4 others ih => simp [scanLiteral] at hscan
  | case5 c others hquote hslash hescaped ih =>
      by_cases hend : c = '\\' ∧ others = []
      · obtain ⟨rfl, rfl⟩ := hend
        simp [scanLiteral] at hscan
      · have hplain := plain_of_not_escaping hslash hescaped hend
        rw [scanLiteral_cons hquote hplain] at hscan
        obtain ⟨⟨inner, left⟩, hinner, heq⟩ := Option.map_eq_some_iff.mp hscan
        obtain ⟨-, rfl⟩ := List.cons.inj (Prod.mk.inj heq).1
        exact isVerbatim_cons.mpr
          ⟨hquote, fun hc => ⟨(hplain hc).1, (hplain hc).2.1⟩, ih hinner⟩

/-- A text between quotes, without being escaped. -/
def quoted (text : String) : String := "'" ++ text ++ "'"

/-- Between quotes as it is, a text is read as a literal for itself if and only if nothing in it is
read as something else, and then the literal ends at the closing quote. -/
theorem nextToken?_quoted_iff (text : String) (rest after : List Char) :
    nextToken? ((quoted text).toList ++ rest) = some (.literal text, after) ↔
      IsVerbatim text.toList ∧ after = rest := by
  have hchars : (quoted text).toList ++ rest = '\'' :: (text.toList ++ '\'' :: rest) := by
    simp [quoted, String.toList_append]
  have htoken : nextToken? ('\'' :: (text.toList ++ '\'' :: rest)) = some (.literal text, after) ↔
      scanLiteral (text.toList ++ '\'' :: rest) = some (text.toList, after) := by
    rw [nextToken?, Option.map_eq_some_iff]
    constructor
    · rintro ⟨⟨inner, left⟩, hscan, heq⟩
      obtain ⟨hinner, rfl⟩ := Prod.mk.inj heq
      rw [hscan, ← Token.literal.inj hinner, String.toList_ofList]
    · intro hscan
      refine ⟨_, hscan, ?_⟩
      simp only [String.ofList_toList]
  rw [hchars, htoken]
  constructor
  · intro hscan
    have hverbatim := isVerbatim_of_scanLiteral hscan
    rw [scanLiteral_of_isVerbatim hverbatim] at hscan
    exact ⟨hverbatim, (Prod.mk.inj (Option.some.inj hscan)).2.symm⟩
  · rintro ⟨hverbatim, rfl⟩
    exact scanLiteral_of_isVerbatim hverbatim after

variable {pattern : List Char}

/-- A character is escaped by a backslash before it or stands for itself. -/
theorem escapedChar_cases (c : Char) :
    escapedChar c = [c] ∨ escapedChar c = ['\\', c] ∧ (c = '\\' ∨ c = '\'') := by
  unfold escapedChar
  split
  case isTrue hspecial => exact .inr ⟨rfl, hspecial⟩
  case isFalse => exact .inl rfl

/-- A pattern without backslashes starts an escaped text only if it starts the text. -/
theorem prefix_of_prefix_escaped {text : List Char} (hslash : '\\' ∉ pattern)
    (hstarts : pattern <+: text.flatMap escapedChar) : pattern <+: text := by
  induction text generalizing pattern with
  | nil => exact hstarts
  | cons c text ih =>
      rw [List.flatMap_cons] at hstarts
      rcases escapedChar_cases c with hplain | ⟨hescaped, -⟩
      · rw [hplain] at hstarts
        rcases List.prefix_cons_iff.mp hstarts with rfl | ⟨others, rfl, hothers⟩
        · exact List.nil_prefix
        · have hrest := ih (fun hmem => hslash (List.mem_cons_of_mem _ hmem)) hothers
          exact List.cons_prefix_cons.mpr ⟨rfl, hrest⟩
      · rw [hescaped] at hstarts
        rcases List.prefix_cons_iff.mp hstarts with rfl | ⟨others, rfl, -⟩
        · exact List.nil_prefix
        · exact absurd List.mem_cons_self hslash

/-- A pattern without backslashes and quotes stands in an escaped text only if it stands in the
text. -/
theorem infix_of_infix_escaped {text : List Char} (hslash : '\\' ∉ pattern)
    (hquote : '\'' ∉ pattern) (hstands : pattern <:+: text.flatMap escapedChar) :
    pattern <:+: text := by
  induction text with
  | nil => exact hstands
  | cons c text ih =>
      rw [List.flatMap_cons] at hstands
      rcases escapedChar_cases c with hplain | ⟨hescaped, hspecial⟩
      · rw [hplain] at hstands
        rcases List.infix_cons_iff.mp hstands with hstarts | hrest
        · have hwhole : pattern <+: (c :: text).flatMap escapedChar := by
            rw [List.flatMap_cons, hplain]
            exact hstarts
          exact (prefix_of_prefix_escaped hslash hwhole).isInfix
        · exact List.infix_cons (ih hrest)
      · have hc : c ∉ pattern := by
          rcases hspecial with rfl | rfl
          · exact hslash
          · exact hquote
        rw [hescaped] at hstands
        have hrest := Text.infix_of_infix_cons hc (Text.infix_of_infix_cons hslash hstands)
        exact List.infix_cons (ih hrest)

end SchemaScaffold.Php
