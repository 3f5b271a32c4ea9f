import SchemaScaffold.DefaultExpression
import SchemaScaffold.Proofs.Php.Number
import SchemaScaffold.Proofs.Php.Token
import SchemaScaffold.Proofs.Php.Word
import SchemaScaffold.Proofs.Text.Trimming

/-!
# Default values tagged as numbers

A text that is tagged as a number is written without quotes when it spells one, and in quotes
otherwise. It spells one by the rules of the catalog, but is read by the rules of generated code.
These differ twice: the words for infinity and for not-a-number are no numbers in generated code,
and digits behind a leading zero are octal there. `keepsNumber_expression_iff` says that in all
other cases the default keeps its value, and that in these two it goes out without quotes and loses
it.
-/

namespace SchemaScaffold.Schema.DefaultValue

open Decimal (Denotes NamesNoNumber dropSign isSpelt)
open Php (LooksOctal numericLiteral? scanLiteral)

/-- A text as a default that is tagged as a number. -/
def number (text : String) : DefaultValue := { value := .string text, kind := some "number" }

/-- What is written for a text that is tagged as a number: a literal of the number that the text
denotes, white space around it aside, or a quoted literal of the text as it is. -/
inductive KeepsNumber (text expression : String) : Prop
  | bare {value : ℚ} (hdenotes : Denotes (Text.trimChars text.toList) value)
      (hread : numericLiteral? expression.toList = some value)
  | quoted {chars : List Char} (hquote : expression.toList = '\'' :: chars)
      (hread : scanLiteral chars = some (text.toList, []))

/-- A text that spells a number goes out without the white space around it, any other in quotes. -/
theorem expression_number (text : String) :
    (number text).expression =
      if isSpelt (Text.trimChars text.toList) then Text.trim text else Php.literal text := by
  have hkind : (number text).isExpression = false := by simp [isExpression, number]
  have htext : (number text).expression = textExpression text (some "number") := by
    rw [expression.eq_def]
    simp only [hkind]
    simp only [number, Bool.false_eq_true, if_false]
  rw [htext, textExpression, if_neg (by decide +kernel), Text.toList_trim]
  exact ite_congr (by simp) (fun _ => rfl) (fun _ => rfl)

/-- A text that spells a number does not start with a quote. -/
theorem ne_quote_of_isSpelt {chars rest : List Char} (hspelt : isSpelt chars = true) :
    chars ≠ '\'' :: rest := by
  rintro rfl
  have hbare := (Php.isBareWord_of_isSpelt hspelt).2 '\'' (by simp)
  exact absurd hbare (by decide)

/-- A text that looks octal spells a number. -/
theorem isSpelt_of_looksOctal {chars : List Char} (hoctal : LooksOctal chars) :
    isSpelt chars = true := by
  obtain ⟨digits, hdigits, hall, -⟩ := hoctal
  have hsignificand : Decimal.Significand ('0' :: digits) _ :=
    .whole (List.cons_ne_nil _ _) (by rw [List.all_cons, hall]; rfl)
  have hnumber : Decimal.isUnsignedNumber (dropSign chars) = true := by
    rw [hdigits, Decimal.isUnsignedNumber_iff]
    exact ⟨_, _, [], _, 0, hsignificand, .none, (List.append_nil _).symm, rfl⟩
  rw [isSpelt, hnumber, Bool.true_or]

/-- Between quotes every text keeps its value. -/
theorem keepsNumber_literal (text : String) : KeepsNumber text (Php.literal text) := by
  have hquote : (Php.literal text).toList =
      '\'' :: (text.toList.flatMap Php.escapedChar ++ ['\'']) := by
    rw [Php.literal, String.toList_ofList, Php.literalChars]
  exact .quoted hquote (Php.scanLiteral_flatMap_escapedChar text.toList [])

/-- Without quotes a text that spells a number keeps its value unless it names what is no number or
looks octal. -/
theorem keepsNumber_trim_iff {text : String}
    (hspelt : isSpelt (Text.trimChars text.toList) = true) :
    KeepsNumber text (Text.trim text) ↔
      ¬(NamesNoNumber (Text.trimChars text.toList) ∨ LooksOctal (Text.trimChars text.toList)) := by
  constructor
  · rintro (⟨hdenotes, hread⟩ | ⟨hquote, -⟩)
    · rw [Text.toList_trim] at hread
      rintro (hnames | hoctal)
      · rw [Php.numericLiteral?_of_namesNoNumber hnames] at hread
        cases hread
      · exact (Php.numericLiteral?_eq_some_iff hdenotes).mp hread hoctal
    · exact absurd ((Text.toList_trim text).symm.trans hquote) (ne_quote_of_isSpelt hspelt)
  · intro hneither
    obtain ⟨hnames, hoctal⟩ := not_or.mp hneither
    obtain ⟨value, hdenotes⟩ := (Decimal.isSpelt_iff.mp hspelt).resolve_right hnames
    apply KeepsNumber.bare hdenotes
    rw [Text.toList_trim]
    exact (Php.numericLiteral?_eq_some_iff hdenotes).mpr hoctal

/-- Quotes are written for the texts that spell no number. -/
theorem exists_quote_iff (text : String) :
    (∃ chars, (number text).expression.toList = '\'' :: chars) ↔
      ¬isSpelt (Text.trimChars text.toList) = true := by
  rw [expression_number]
  by_cases hspelt : isSpelt (Text.trimChars text.toList) = true
  · rw [if_pos hspelt, Text.toList_trim]
    exact iff_of_false (fun ⟨_, hquote⟩ => ne_quote_of_isSpelt hspelt hquote) (not_not.mpr hspelt)
  · rw [if_neg hspelt, Php.literal, String.toList_ofList]
    exact iff_of_true ⟨_, rfl⟩ hspelt

/-- A default that is tagged as a number keeps its value exactly when its text neither names
infinity or not-a-number nor looks octal. Both kinds of text go out without quotes all the same, and
quotes are written exactly for the texts that neither denote a number nor name what is none. -/
theorem keepsNumber_expression_iff (text : String) :
    (KeepsNumber text (number text).expression ↔
      ¬(NamesNoNumber (Text.trimChars text.toList) ∨ LooksOctal (Text.trimChars text.toList))) ∧
    (NamesNoNumber (Text.trimChars text.toList) ∨ LooksOctal (Text.trimChars text.toList) →
      (number text).expression = Text.trim text) ∧
    ((∃ chars, (number text).expression.toList = '\'' :: chars) ↔
      ¬NamesNoNumber (Text.trimChars text.toList) ∧
        ∀ value, ¬Denotes (Text.trimChars text.toList) value) := by
  have hspells (hlost : NamesNoNumber (Text.trimChars text.toList) ∨
      LooksOctal (Text.trimChars text.toList)) : isSpelt (Text.trimChars text.toList) = true :=
    hlost.elim (fun hnames => Decimal.isSpelt_iff.mpr (.inr hnames)) isSpelt_of_looksOctal
  have hquoted := exists_quote_iff text
  rw [Decimal.isSpelt_iff, not_or, not_exists, and_comm] at hquoted
  refine ⟨?_, fun hlost => ?_, hquoted⟩
  · rw [expression_number]
    by_cases hspelt : isSpelt (Text.trimChars text.toList) = true
    · rw [if_pos hspelt]
      exact keepsNumber_trim_iff hspelt
    · rw [if_neg hspelt]
      exact iff_of_true (keepsNumber_literal text) (mt hspells hspelt)
  · rw [expression_number, if_pos (hspells hlost)]

-- Octal digits lose their value from `010` on, and the words are no literals.
example : (["007", "010", "0x8", "+1.50", " .5e2 ", "Inf"].map fun text =>
    (number text).expression) = ["007", "010", "'0x8'", "+1.50", ".5e2", "Inf"] := by
  decide +kernel

end SchemaScaffold.Schema.DefaultValue
