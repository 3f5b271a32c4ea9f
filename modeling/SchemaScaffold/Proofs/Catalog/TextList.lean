import SchemaScaffold.Proofs.Catalog.Settled
import SchemaScaffold.Proofs.Text.Listing

/-!
# Lists of texts that were read leniently

Whatever a value is, the list that is read from it holds items: texts that are trimmed and not
empty. The lists of items are also the only ones that an array of texts gives back as they are, so
reading a list once more changes nothing. An item that stands in an array by itself may have commas
in it, or be the text of a nested value. Only a list that is written as one text is cut at its
commas, and it is read like the array of its items as long as none of them has one.
-/

namespace SchemaScaffold.Catalog

open Text (IsGap IsItem IsListOf IsUncut Trimmed)

/-- An array of texts is read as these texts if and only if all of them are items. -/
theorem textList_array_eq_iff {items : List String} :
    textList (.array (items.map .string)) = items ↔ ∀ item ∈ items, IsItem item := by
  constructor
  · intro hread item hitem
    rw [← hread] at hitem
    exact isItem_of_mem_textList hitem
  · exact textList_of_items

/-- What was read from any value is read again from the array of its texts. -/
theorem textList_array_textList (value : Json) :
    textList (.array ((textList value).map .string)) = textList value :=
  textList_array_eq_iff.mpr fun _ hitem => isItem_of_mem_textList hitem

/-- A list that is written as one text is read like the array of its items. -/
theorem textList_string_of_isListOf {items : List String} {list : List Char}
    (hitems : ∀ item ∈ items, IsUncut item) (hlist : IsListOf items list) :
    textList (.string (String.ofList list)) = textList (.array (items.map .string)) := by
  have harray : textList (.array (items.map .string)) = items :=
    textList_array_eq_iff.mpr fun item hitem => (hitems item hitem).1
  rw [harray]
  exact Text.commaItems_of_isListOf hlist hitems

/-- Every value is read as a list of trimmed texts that are not empty, and this list is read from
the array of its texts again; of all lists these are the only ones that stay as they are. A text
that lists such texts, none with a comma of its own, with any white space around them and any number
of further commas, is read like the array of them. -/
theorem textList_settles :
    (∀ value : Json, (∀ text ∈ textList value, text ≠ "" ∧ Trimmed text.toList) ∧
      textList (.array ((textList value).map .string)) = textList value) ∧
    (∀ texts : List String, textList (.array (texts.map .string)) = texts ↔
      ∀ text ∈ texts, text ≠ "" ∧ Trimmed text.toList) ∧
    ∀ (items : List String) (list : List Char), (∀ item ∈ items, IsUncut item) →
      IsListOf items list →
      textList (.string (String.ofList list)) = textList (.array (items.map .string)) :=
  ⟨fun value => ⟨fun _ htext => isItem_of_mem_textList htext, textList_array_textList value⟩,
    fun _ => textList_array_eq_iff,
    fun _ _ hitems hlist => textList_string_of_isListOf hitems hlist⟩

/-- Arguments of several kinds: a number, a text with a comma, nothing, a nested array, and white
space. -/
def mixedArguments : Json :=
  .array [.number (.integer 8), .string " a, b ", .null, .array [.string "c"], .string "\t"]

/-- The mixed arguments settle at the first reading, commas and brackets included, and a text with
superfluous commas lists the same two numbers as an array. -/
theorem textList_mixedArguments :
    textList mixedArguments = ["8", "a, b", "[\"c\"]"] ∧
      textList (.array [.string "8", .string "a, b", .string "[\"c\"]"]) =
        ["8", "a, b", "[\"c\"]"] ∧
      textList (.string " 10 ,\t,2, ") = textList (.array [.string "10", .string "2"]) := by
  have hitems : ∀ item ∈ ["10", "2"], IsUncut item := by
    intro item hitem
    have hplain : item ≠ "" ∧ item.toList.any Text.isBlank = false ∧ ',' ∉ item.toList := by
      revert item
      decide +kernel
    exact ⟨⟨hplain.1, Text.trimmed_of_any_eq_false hplain.2.1⟩, hplain.2.2⟩
  have hblank : IsGap [' '] := List.all_eq_true.mp (by decide +kernel)
  have htab : IsGap ['\t'] := List.all_eq_true.mp (by decide +kernel)
  have hnothing : IsGap [] := nofun
  have hlist : IsListOf ["10", "2"]
      ([' '] ++ "10".toList ++ [' '] ++ ',' ::
        (['\t'] ++ ',' :: ([] ++ "2".toList ++ [] ++ ',' :: [' ']))) :=
    .cons "10" hblank hblank (.skip htab (.cons "2" hnothing hnothing (.nil hblank)))
  have hread : textList mixedArguments = ["8", "a, b", "[\"c\"]"] := by decide +kernel
  obtain ⟨hsettled, -, hlisted⟩ := textList_settles
  have hagain := (hsettled mixedArguments).2
  rw [hread] at hagain
  exact ⟨hread, hagain, hlisted _ _ hitems hlist⟩

end SchemaScaffold.Catalog
