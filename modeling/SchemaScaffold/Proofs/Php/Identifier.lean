import SchemaScaffold.Proofs.Text.Opening

/-!
# Identifiers and imported names

A class or a method can be declared under an identifier, and a class only under a name that the file
has not imported for another class. Derived names are made of letters and numbers, so the only
question is what they open with.
-/

namespace SchemaScaffold.Php

open Text (opening)

/-- The characters that an identifier may start with: ASCII letters, the low line, and everything
beyond ASCII. -/
def startsIdentifier (c : Char) : Bool := c.isAlpha || c == '_' || decide (128 ≤ c.toNat)

/-- An identifier is not empty; behind its first character ASCII digits may stand too. -/
def IsIdentifier (name : String) : Prop :=
  ∃ first rest, name.toList = first :: rest ∧ startsIdentifier first = true ∧
    ∀ c ∈ rest, startsIdentifier c = true ∨ c.isDigit = true

/-- The name under which a line makes a class known: the last part of its full name. -/
def importedName? (line : List Char) : Option String :=
  if "use ".toList <+: line ∧ line.getLast? = some ';' then
    ((Text.pieces (· == '\\') (line.drop 4).dropLast).getLast?).map String.ofList
  else none

/-- The names under which a file makes classes known. -/
def importedNames (text : String) : List String :=
  (Text.pieces (· == '\n') text.toList).filterMap importedName?

/-- A class of this name can be declared in a file with the text: the name is an identifier, and the
file imports no class under it, in whatever case. -/
structure IsDeclarable (text name : String) : Prop where
  identifier : IsIdentifier name
  free : ∀ imported ∈ importedNames text, Text.eqIgnoringAsciiCase imported name = false

/-- Derived names are identifiers exactly when they open with a letter. -/
theorem isIdentifier_iff_opening {name : String}
    (hchars : ∀ c ∈ name.toList, Text.isNameChar c = true)
    (hopening : opening name.toList ≠ .separator) :
    IsIdentifier name ↔ opening name.toList = .letter := by
  have hkind {c : Char} (hc : Text.isNameChar c = true) :
      startsIdentifier c = true ∨ c.isDigit = true := by
    simp only [Text.isNameChar, Char.isAlphanum, Bool.or_eq_true] at hc
    rcases hc with (halpha | hdigit) | hbeyond
    · simp [startsIdentifier, halpha]
    · exact .inr hdigit
    · simp [startsIdentifier, hbeyond]
  have hdigits {c : Char} (hdigit : c.isDigit = true) : startsIdentifier c = false := by
    have hplain : c.toNat < 128 := Decidable.not_not.mp fun hbeyond =>
      absurd hdigit (by rw [Text.isDigit_of_beyond hbeyond]; decide)
    exact Text.of_plain (p := fun c => c.isDigit = true → startsIdentifier c = false)
      (by decide +kernel) hplain hdigit
  unfold IsIdentifier
  cases hname : name.toList with
  | nil => simp [opening]
  | cons c others =>
      rw [hname] at hopening hchars
      have hc := Text.opening_cons_ne_separator_iff.mp hopening
      rw [Text.opening_cons_eq_letter_iff]
      constructor
      · rintro ⟨first, rest, heq, hfirst, -⟩
        obtain ⟨rfl, rfl⟩ := List.cons.inj heq
        refine ⟨hc, Bool.eq_false_iff.mpr fun hdigit => ?_⟩
        rw [hdigits hdigit] at hfirst
        cases hfirst
      · rintro ⟨-, hdigit⟩
        refine ⟨c, others, rfl, ?_, fun other hother => ?_⟩
        · exact (hkind (hchars c List.mem_cons_self)).resolve_right (by simp [hdigit])
        · exact hkind (hchars other (List.mem_cons_of_mem _ hother))

end SchemaScaffold.Php
