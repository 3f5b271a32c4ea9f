import SchemaScaffold.Proofs.Catalog.Settled
import SchemaScaffold.Proofs.Text.Listing

/-!
# Spellings of a type with arguments

An export may give a type as one text with its arguments in parentheses, may put such a text into an
object, or may put the name and the arguments into the object apart, the arguments as a list or as
one text with commas. All of these are read alike, and arguments that are given apart count before
those of the text. Nothing is asked of the name but that it is trimmed and has no opening
parenthesis, nor of the arguments but that they can stand in a list with commas. As all closing
parentheses at the end of a text are dropped, the last argument must not end in one.
-/

namespace SchemaScaffold.Catalog.Export

open Text (IsGap IsListOf IsUncut Trimmed)

/-- The text is the name and, in parentheses, a list of the arguments; white space may follow. -/
def Declares (name : String) (args : List String) (text : String) : Prop :=
  ∃ list gap, IsListOf args list ∧ IsGap gap ∧
    text.toList = name.toList ++ '(' :: (list ++ ')' :: gap)

/-- The object holds the text of a declaration. Of the two keys for it the first one counts. -/
def HoldsDeclaration (entries : List (String × Json)) (text : String) : Prop :=
  entries.lookup "type_name" = some (.string text) ∨
    entries.lookup "type_name" = none ∧ entries.lookup "typeName" = some (.string text)

/-- The value lists the arguments one by one or in one text. -/
inductive Lists (args : List String) : Json → Prop
  | items : Lists args (.array (args.map .string))
  | text {list : List Char} (hlist : IsListOf args list) : Lists args (.string (String.ofList list))

/-- The values that spell a type with arguments. -/
inductive Spells (name : String) (args : List String) : Json → Prop
  /-- One text. -/
  | text {text : String} (hdeclares : Declares name args text) : Spells name args (.string text)
  /-- An object with one text for both; arguments that are given apart are none. -/
  | object {entries : List (String × Json)} {text : String} (hholds : HoldsDeclaration entries text)
      (hdeclares : Declares name args text)
      (hapart : ∀ value ∈ entries.lookup "args", value = .null ∨ Lists [] value) :
      Spells name args (.object entries)
  /-- An object with the name and the arguments apart. -/
  | apart {entries : List (String × Json)} {value : Json} (hholds : HoldsDeclaration entries name)
      (hargs : entries.lookup "args" = some value) (hlists : Lists args value) :
      Spells name args (.object entries)

/-- A list of arguments does not end in a closing parenthesis when the last one does not. -/
theorem dropTrailing_of_isListOf {args : List String} {list : List Char}
    (hlist : IsListOf args list)
    (hlast : ∀ arg ∈ args.getLast?, arg.toList.getLast? ≠ some ')') :
    Text.dropTrailing (· == ')') list = list := by
  refine Text.dropTrailing_of_last fun c hc => beq_eq_false_iff_ne.mpr ?_
  rcases Text.getLast?_of_isListOf hlist c hc with hblank | rfl | ⟨arg, harg, hend⟩
  · rintro rfl
    exact absurd hblank (by decide)
  · decide
  · rintro rfl
    exact hlast arg harg hend

/-- A declaration is split into the name and the arguments. -/
theorem splitDeclaration_of_declares {name : String} {args : List String} {text : String}
    (hname : Trimmed name.toList) (hopen : '(' ∉ name.toList) (hargs : ∀ arg ∈ args, IsUncut arg)
    (hlast : ∀ arg ∈ args.getLast?, arg.toList.getLast? ≠ some ')')
    (hdeclares : Declares name args text) : splitDeclaration text = (name, args) := by
  obtain ⟨list, gap, hlist, hgap, htext⟩ := hdeclares
  -- Behind the list stand the parenthesis, which is no white space, and white space.
  have hclosed : Text.dropTrailing Text.isBlank (list ++ ')' :: gap) = list ++ [')'] := by
    rw [List.append_cons, Text.dropTrailing_append_gap hgap]
    exact Text.dropTrailing_of_last fun c hc => by
      rw [List.getLast?_concat, Option.mem_some_iff] at hc
      rw [← hc]
      decide
  have hinner : Text.dropTrailing (· == ')') (list ++ [')']) = list := by
    rw [Text.dropTrailing, List.reverse_concat, List.dropWhile_cons_of_pos (by decide)]
    exact dropTrailing_of_isListOf hlist hlast
  rw [splitDeclaration, htext, Text.cutOnce_append_cons hopen]
  simp only [hclosed, hinner]
  rw [Text.trimChars_of_trimmed hname, String.ofList_toList,
    Text.commaItems_of_isListOf hlist hargs]

/-- A name by itself declares no arguments. -/
theorem splitDeclaration_of_name {name : String} (hname : Trimmed name.toList)
    (hopen : '(' ∉ name.toList) : splitDeclaration name = (name, []) := by
  rw [splitDeclaration, Text.cutOnce_of_not_mem hopen]
  simp only [Text.trim, Text.trimChars_of_trimmed hname, String.ofList_toList]

/-- Listed arguments are read as they are. -/
theorem textList_of_lists {args : List String} (hargs : ∀ arg ∈ args, IsUncut arg) {value : Json}
    (hlists : Lists args value) : textList value = args := by
  cases hlists with
  | items => exact textList_of_items fun arg harg => (hargs arg harg).1
  | text hlist => exact Text.commaItems_of_isListOf hlist hargs

/-- An object is read by its declaration and by the arguments that are given apart. -/
theorem type_object {entries : List (String × Json)} {text : String}
    (hholds : HoldsDeclaration entries text) :
    (type (.object entries)).name = (splitDeclaration text).1 ∧
      (type (.object entries)).args =
        let explicit := ((entries.lookup "args").map textList).getD []
        if explicit.isEmpty then (splitDeclaration text).2 else explicit := by
  have hdeclared :
      ((((entries.lookup "type_name").or (entries.lookup "typeName")).map scalarText).getD "") =
        text := by
    rcases hholds with hfirst | ⟨hnone, hsecond⟩
    · rw [hfirst]
      rfl
    · rw [hnone, hsecond]
      rfl
  subst hdeclared
  exact ⟨rfl, rfl⟩

/-- An object without arguments apart has those of its declaration. -/
theorem type_object_of_none {entries : List (String × Json)} {text : String}
    (hholds : HoldsDeclaration entries text)
    (hapart : ∀ value ∈ entries.lookup "args", value = .null ∨ Lists [] value) :
    (type (.object entries)).args = (splitDeclaration text).2 := by
  have hnone : ((entries.lookup "args").map textList).getD [] = [] := by
    cases hargs : entries.lookup "args" with
    | none => rfl
    | some value =>
        rcases hapart value hargs with rfl | hlists
        · rfl
        · exact textList_of_lists (by simp) hlists
  rw [(type_object hholds).2, hnone]
  rfl

/-- Arguments that are given apart count if there are any, whatever else the object holds. -/
theorem args_type_of_textList {entries : List (String × Json)} {value : Json}
    (hvalue : entries.lookup "args" = some value) (hsome : textList value ≠ []) :
    (type (.object entries)).args = textList value := by
  have hexplicit : ((entries.lookup "args").map textList).getD [] = textList value := by
    rw [hvalue]
    rfl
  have hcounts : (textList value).isEmpty = false := by simpa using hsome
  simp only [type, Json.get?, Json.entries?, Option.bind_some, hexplicit, hcounts,
    Bool.false_eq_true, if_false]

/-- All spellings of a type with arguments are read as this name and these arguments, for a trimmed
name without an opening parenthesis and for items without commas of which the last does not end in a
closing parenthesis. Arguments that are given apart are what is listed; and if any are, whatever
they are, they count before those of the declaration. -/
theorem type_of_spells {name : String} {args : List String} (hname : Trimmed name.toList)
    (hopen : '(' ∉ name.toList) (hargs : ∀ arg ∈ args, IsUncut arg)
    (hlast : ∀ arg ∈ args.getLast?, arg.toList.getLast? ≠ some ')') :
    (∀ value, Spells name args value → (type value).name = name ∧ (type value).args = args) ∧
      (∀ value, Lists args value → textList value = args) ∧
      ∀ (entries : List (String × Json)) (value : Json), entries.lookup "args" = some value →
        textList value ≠ [] → (type (.object entries)).args = textList value := by
  refine ⟨fun value hspells => ?_, fun value hlists => textList_of_lists hargs hlists,
    fun entries value hvalue hsome => args_type_of_textList hvalue hsome⟩
  have hsplit {text : String} (hdeclares : Declares name args text) :=
    splitDeclaration_of_declares hname hopen hargs hlast hdeclares
  cases hspells with
  | @text text hdeclares =>
      have hread : type (.string text) =
          { name := (splitDeclaration text).1, args := (splitDeclaration text).2 } := rfl
      rw [hread, hsplit hdeclares]
      exact ⟨rfl, rfl⟩
  | object hholds hdeclares hapart =>
      rw [(type_object hholds).1, type_object_of_none hholds hapart, hsplit hdeclares]
      exact ⟨rfl, rfl⟩
  | @apart entries value hholds hvalue hlists =>
      refine ⟨by rw [(type_object hholds).1, splitDeclaration_of_name hname hopen], ?_⟩
      cases args with
      | nil =>
          have hapart : ∀ other ∈ entries.lookup "args", other = .null ∨ Lists [] other :=
            fun other hother => .inr (Option.some.inj (hvalue.symm.trans hother) ▸ hlists)
          rw [type_object_of_none hholds hapart, splitDeclaration_of_name hname hopen]
      | cons arg rest =>
          have hlisted := textList_of_lists hargs hlists
          rw [args_type_of_textList hvalue (by simp [hlisted]), hlisted]

/-- Five spellings of one type, whose first argument has parentheses of its own: one text, the same
text in an object under either key, and the name and the arguments apart. -/
def numericSpellings : List Json :=
  [.string "numeric( f(1) ,2 ) ",
   .object [("type_name", .string "numeric(f(1),2)")],
   .object [("typeName", .string "numeric(f(1),2)"), ("args", .null)],
   .object [("type_name", .string "numeric"), ("args", .string "f(1), 2")],
   .object [("type_name", .string "numeric"), ("args", .array [.string "f(1)", .string "2"])]]

/-- All five are read alike, and the arguments count before those of another declaration. -/
theorem numeric_of_spellings :
    (∀ value ∈ numericSpellings,
      (type value).name = "numeric" ∧ (type value).args = ["f(1)", "2"]) ∧
    (type (.object [("type_name", .string "numeric(8)"), ("args", .string "f(1), 2")])).args =
      ["f(1)", "2"] := by
  have hname : Trimmed "numeric".toList := Text.trimmed_of_any_eq_false (by decide +kernel)
  have hopen : '(' ∉ "numeric".toList := by decide +kernel
  have hargs : ∀ arg ∈ ["f(1)", "2"], IsUncut arg := by
    intro arg harg
    have hplain : arg ≠ "" ∧ arg.toList.any Text.isBlank = false ∧ ',' ∉ arg.toList := by
      revert arg
      decide +kernel
    exact ⟨⟨hplain.1, Text.trimmed_of_any_eq_false hplain.2.1⟩, hplain.2.2⟩
  have hlast : ∀ arg ∈ ["f(1)", "2"].getLast?, arg.toList.getLast? ≠ some ')' := by
    decide +kernel
  have hlist {first second third fourth : List Char} (hfirst : IsGap first) (hsecond : IsGap second)
      (hthird : IsGap third) (hfourth : IsGap fourth) :
      IsListOf ["f(1)", "2"]
        (first ++ "f(1)".toList ++ second ++ ',' :: (third ++ "2".toList ++ fourth)) :=
    .cons "f(1)" hfirst hsecond (.last "2" hthird hfourth)
  have hblank : IsGap [' '] := List.all_eq_true.mp (by decide +kernel)
  have hnothing : IsGap [] := nofun
  have hpadded : Declares "numeric" ["f(1)", "2"] "numeric( f(1) ,2 ) " :=
    ⟨_, _, hlist hblank hblank hnothing hblank, hblank, by decide +kernel⟩
  have hplain : Declares "numeric" ["f(1)", "2"] "numeric(f(1),2)" :=
    ⟨_, _, hlist hnothing hnothing hnothing hnothing, hnothing, by decide +kernel⟩
  have htext : Lists ["f(1)", "2"] (.string "f(1), 2") :=
    .text (hlist hnothing hnothing hblank hnothing)
  obtain ⟨hspelled, hlisted, hoverride⟩ := type_of_spells hname hopen hargs hlast
  have hread := hlisted _ htext
  refine ⟨fun value hvalue => hspelled value ?_,
    (hoverride _ _ rfl (by simp [hread])).trans hread⟩
  simp only [numericSpellings, List.mem_cons, List.not_mem_nil, or_false] at hvalue
  rcases hvalue with rfl | rfl | rfl | rfl | rfl
  · exact .text hpadded
  · exact .object (.inl rfl) hplain (fun _ hnone => nomatch hnone)
  · exact .object (.inr ⟨rfl, rfl⟩) hplain (fun _ hnull => .inl (Option.some.inj hnull).symm)
  · exact .apart (.inl rfl) rfl htext
  · exact .apart (.inl rfl) rfl .items

end SchemaScaffold.Catalog.Export
