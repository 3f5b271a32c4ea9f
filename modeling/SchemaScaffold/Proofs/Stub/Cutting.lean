import Mathlib.Data.List.Infix
import SchemaScaffold.Stub
import SchemaScaffold.Proofs.Text.Replacing

/-!
# Filling all places of a stub at once

A stub is cut at its places before any value is looked at; spelling the pieces with values then
fills every place at its own position and leaves the values alone. Filling one name after another
fills the pieces apart from each other, as long as no place can arise across the seams of the
stub. So it acts on the text in each place and on nothing else.
-/

namespace SchemaScaffold.Stub

open Text (replaceFrom Seamless)

/-- The characters of a place, brace by brace. -/
def placeChars (name : String) : List Char :=
  '\x7b' :: '\x7b' :: ' ' :: (name.toList ++ [' ', '\x7d', '\x7d'])

/-- A piece of a stub: characters that stand there, or a place. -/
inductive Piece
  | text (chars : List Char)
  | place (name : String)
  deriving DecidableEq, Repr

/-- The characters of a piece, when places are spelt by a rule. -/
def Piece.spell (spelling : String → List Char) : Piece → List Char
  | text chars => chars
  | place name => spelling name

/-- The characters of all pieces, when places are spelt by a rule. -/
def spell (spelling : String → List Char) (pieces : List Piece) : List Char :=
  pieces.flatMap (Piece.spell spelling)

/-- Put a character before pieces, into the first one if that is a text. -/
def glue (c : Char) : List Piece → List Piece
  | .text chars :: rest => .text (c :: chars) :: rest
  | pieces => .text [c] :: pieces

/-- Cut a stub at the places of the given names, after the next `skip` characters, which belong to
a place that was found. -/
def cutFrom (names : List String) : Nat → List Char → List Piece
  | _, [] => []
  | skip + 1, _ :: rest => cutFrom names skip rest
  | 0, c :: rest =>
    match names.find? fun name => (placeChars name).isPrefixOf (c :: rest) with
    | some name => .place name :: cutFrom names ((placeChars name).length - 1) rest
    | none => glue c (cutFrom names 0 rest)

/-- The pieces of a stub. -/
def cut (names : List String) (stub : String) : List Piece := cutFrom names 0 stub.toList

/-- The characters that belong in a place. -/
def valueOf (values : List (String × String)) (name : String) : List Char :=
  ((values.lookup name).getD "").toList

/-- Fill every place of the stub, at its own position, with the value of its name. -/
def fillAtOnce (stub : String) (values : List (String × String)) : String :=
  String.ofList (spell (valueOf values) (cut (values.map Prod.fst) stub))

/-- The characters of a place are those of its text. -/
theorem toList_place (name : String) : (place name).toList = placeChars name := by
  simp [placeChars, place, String.toList_append]

/-- No place is empty. -/
theorem placeChars_ne_nil (name : String) : placeChars name ≠ [] := List.cons_ne_nil _ _

/-- Characters between places are spelt as they are. -/
theorem spell_text (spelling : String → List Char) (chars : List Char) (rest : List Piece) :
    spell spelling (.text chars :: rest) = chars ++ spell spelling rest :=
  List.flatMap_cons

/-- A place is spelt by the rule. -/
theorem spell_place (spelling : String → List Char) (name : String) (rest : List Piece) :
    spell spelling (.place name :: rest) = spelling name ++ spell spelling rest :=
  List.flatMap_cons

/-- A character that is glued to pieces is spelt before them. -/
theorem spell_glue (spelling : String → List Char) (c : Char) (pieces : List Piece) :
    spell spelling (glue c pieces) = c :: spell spelling pieces := by
  cases pieces with
  | nil => rfl
  | cons piece rest =>
      cases piece with
      | text chars => rfl
      | place name => rfl

/-- Cutting loses nothing: with every place spelt as it stands the pieces give the stub. -/
theorem spell_cutFrom (names : List String) (skip : Nat) (chars : List Char) :
    spell placeChars (cutFrom names skip chars) = chars.drop skip := by
  induction chars generalizing skip with
  | nil => rw [List.drop_nil, cutFrom]; rfl
  | cons c rest ih =>
      cases skip with
      | succ skip => exact ih skip
      | zero =>
          rw [cutFrom]
          cases hfound : names.find? fun name => (placeChars name).isPrefixOf (c :: rest) with
          | none =>
              show spell placeChars (glue c (cutFrom names 0 rest)) = c :: rest
              rw [spell_glue, ih, List.drop_zero]
          | some name =>
              have hprefix := List.find?_some hfound
              obtain ⟨others, hothers⟩ := List.isPrefixOf_iff_prefix.mp hprefix
              have hpositive := List.length_pos_iff.mpr (placeChars_ne_nil name)
              obtain ⟨length, hlength⟩ := Nat.exists_eq_succ_of_ne_zero (Nat.ne_of_gt hpositive)
              have hrest : rest.drop ((placeChars name).length - 1) = others := by
                have hdrop : (c :: rest).drop (placeChars name).length = others := by
                  rw [← hothers, List.drop_left]
                rw [hlength] at hdrop ⊢
                exact hdrop
              simp only
              rw [spell_place, ih, hrest]
              exact hothers

/-- The pieces of a stub give the stub. -/
theorem spell_cut (names : List String) (stub : String) :
    spell placeChars (cut names stub) = stub.toList :=
  spell_cutFrom names 0 stub.toList

/-- Only places of the given names are cut out. -/
theorem mem_of_place_mem_cutFrom {names : List String} {skip : Nat} {chars : List Char}
    {name : String} (hmem : .place name ∈ cutFrom names skip chars) : name ∈ names := by
  induction chars generalizing skip with
  | nil =>
      rw [cutFrom] at hmem
      cases hmem
  | cons c rest ih =>
      cases skip with
      | succ skip => exact ih hmem
      | zero =>
          rw [cutFrom] at hmem
          cases hfound : names.find? fun name => (placeChars name).isPrefixOf (c :: rest) with
          | none =>
              rw [hfound] at hmem
              refine ih (?_ : Piece.place name ∈ cutFrom names 0 rest)
              generalize cutFrom names 0 rest = pieces at hmem
              cases pieces with
              | nil => simp [glue] at hmem
              | cons piece others => cases piece <;> simpa [glue] using hmem
          | some found =>
              rw [hfound] at hmem
              rcases List.mem_cons.mp hmem with hfirst | hrest
              · cases hfirst
                exact List.mem_of_find?_eq_some hfound
              · exact ih hrest

/-- Spellings that agree on the places of the pieces give the same characters. -/
theorem spell_congr {first second : String → List Char} {pieces : List Piece}
    (hagree : ∀ name, .place name ∈ pieces → first name = second name) :
    spell first pieces = spell second pieces := by
  induction pieces with
  | nil => rfl
  | cons piece rest ih =>
      have hrest := ih fun name hname => hagree name (List.mem_cons_of_mem _ hname)
      cases piece with
      | text chars => rw [spell_text, spell_text, hrest]
      | place name => rw [spell_place, spell_place, hagree name List.mem_cons_self, hrest]

/-- What belongs in a place of the stub stands in the filled stub. -/
theorem valueOf_infix_fillAtOnce {stub name : String} {values : List (String × String)}
    (hplace : .place name ∈ cut (values.map Prod.fst) stub) :
    valueOf values name <:+: (fillAtOnce stub values).toList := by
  obtain ⟨before, after, hsplit⟩ := List.append_of_mem hplace
  rw [fillAtOnce, String.toList_ofList, hsplit, spell, List.flatMap_append, List.flatMap_cons]
  exact (List.prefix_append _ _).isInfix.trans (List.suffix_append _ _).isInfix

/-- The ways to split a text into two texts that are not empty. -/
def splits (chars : List Char) : List (List Char × List Char) :=
  (List.range (chars.length - 1)).map fun length => (chars.take (length + 1), chars.drop (length + 1))

/-- Two texts that are not empty split what they are together. -/
theorem mem_splits {start stop : List Char} (hstart : start ≠ []) (hstop : stop ≠ []) :
    (start, stop) ∈ splits (start ++ stop) := by
  have hstartLength := List.length_pos_iff.mpr hstart
  have hstopLength := List.length_pos_iff.mpr hstop
  refine List.mem_map.mpr ⟨start.length - 1, ?_, ?_⟩
  · rw [List.mem_range, List.length_append]
    omega
  · rw [Nat.sub_add_cancel hstartLength, List.take_left, List.drop_left]

/-- No occurrence of the pattern begins in the text and goes on behind it. -/
def CannotBegin (pattern chars : List Char) : Prop := ∀ split ∈ splits pattern, ¬split.1 <:+ chars

/-- No occurrence of the pattern ends in the text, or behind it, when it begins before the text. -/
def CannotEnd (pattern chars : List Char) : Prop :=
  ∀ split ∈ splits pattern, ¬split.2 <+: chars ∧ ¬chars <+: split.2

instance (pattern chars : List Char) : Decidable (CannotBegin pattern chars) :=
  inferInstanceAs (Decidable (∀ split ∈ splits pattern, _))

instance (pattern chars : List Char) : Decidable (CannotEnd pattern chars) :=
  inferInstanceAs (Decidable (∀ split ∈ splits pattern, _))

/-- A text in which no occurrence begins may be followed by anything. -/
theorem CannotBegin.seamless {pattern chars : List Char} (hbegin : CannotBegin pattern chars)
    (second : List Char) : Seamless pattern chars second := by
  intro start stop hstart hstop hsplit hends _
  subst hsplit
  exact hbegin _ (mem_splits hstart hstop) hends

/-- A text in which no occurrence ends may follow anything. -/
theorem CannotEnd.seamless {pattern chars : List Char} (hend : CannotEnd pattern chars)
    (first more : List Char) : Seamless pattern first (chars ++ more) := by
  intro start stop hstart hstop hsplit _ hbegins
  subst hsplit
  obtain ⟨hshort, hlong⟩ := hend _ (mem_splits hstart hstop)
  rcases List.prefix_or_prefix_of_prefix hbegins (List.prefix_append chars more) with h | h
  · exact hshort h
  · exact hlong h

/-- Whatever stands in the places of these pieces, the pattern occurs in no text between them and
across no seam. A place behind another is taken as it stands. -/
def sturdy (pattern : List Char) : List Piece → Bool
  | [] => true
  | .text chars :: rest =>
    decide (¬pattern <:+: chars ∧ CannotBegin pattern chars) && sturdy pattern rest
  | [.place _] => true
  | .place _ :: .text chars :: rest =>
    decide (CannotEnd pattern chars) && sturdy pattern (.text chars :: rest)
  | .place _ :: .place name :: rest =>
    decide (CannotEnd pattern (placeChars name)) && sturdy pattern (.place name :: rest)

/-- The places that stand right behind another place. -/
def followers : List Piece → List String
  | [] => []
  | .place _ :: .place name :: rest => name :: followers (.place name :: rest)
  | _ :: rest => followers rest

/-- In sturdy pieces a pattern is replaced place by place, while no place behind another is
filled. -/
theorem replaceFrom_spell {pattern : List Char} (hpattern : pattern ≠ [])
    (replacement : List Char) {spelling : String → List Char} {pieces : List Piece}
    (hsturdy : sturdy pattern pieces = true)
    (hfollowers : ∀ name ∈ followers pieces, spelling name = placeChars name) :
    replaceFrom pattern replacement 0 (spell spelling pieces) =
      spell (fun name => replaceFrom pattern replacement 0 (spelling name)) pieces := by
  induction pieces with
  | nil => rfl
  | cons piece rest ih =>
      cases piece with
      | text chars =>
          rw [sturdy, Bool.and_eq_true, decide_eq_true_eq] at hsturdy
          obtain ⟨⟨hnone, hbegin⟩, hrest⟩ := hsturdy
          rw [spell_text, spell_text, Text.replaceFrom_append hpattern (hbegin.seamless _),
            Text.replaceFrom_of_absent hnone, ih hrest hfollowers]
      | place first =>
          rw [spell_place, spell_place]
          cases rest with
          | nil => simp [spell]
          | cons next others =>
              cases next with
              | text chars =>
                  rw [sturdy, Bool.and_eq_true, decide_eq_true_eq] at hsturdy
                  obtain ⟨hend, hrest⟩ := hsturdy
                  have hseamless := hend.seamless (spelling first) (spell spelling others)
                  rw [← ih hrest hfollowers, spell_text]
                  exact Text.replaceFrom_append hpattern hseamless _
              | place name =>
                  rw [sturdy, Bool.and_eq_true, decide_eq_true_eq] at hsturdy
                  obtain ⟨hend, hrest⟩ := hsturdy
                  have hseamless := hend.seamless (spelling first) (spell spelling others)
                  rw [← hfollowers name List.mem_cons_self] at hseamless
                  rw [← ih hrest fun other hother =>
                    hfollowers other (List.mem_cons_of_mem _ hother), spell_place]
                  exact Text.replaceFrom_append hpattern hseamless _

/-- Filling one name after another, in terms of characters. -/
def fillChars (chars : List Char) (values : List (String × String)) : List Char :=
  values.foldl (fun chars value => replaceFrom (placeChars value.1) value.2.toList 0 chars) chars

/-- A text is filled as its characters are. -/
theorem toList_fill (stub : String) (values : List (String × String)) :
    (fill stub values).toList = fillChars stub.toList values := by
  induction values generalizing stub with
  | nil => rfl
  | cons value rest ih =>
      have hfirst : (Text.replaceAll (place value.1) value.2 stub).toList =
          replaceFrom (placeChars value.1) value.2.toList 0 stub.toList := by
        rw [Text.replaceAll, String.toList_ofList, toList_place]
      exact (ih _).trans (by rw [hfirst]; rfl)

/-- The values with the places of later names filled in them. -/
def settled : List (String × String) → List (String × String)
  | [] => []
  | (name, value) :: rest => (name, fill value rest) :: settled rest

/-- What a stub has to meet for its places to be filled apart from each other: it has a place for
every name and is sturdy for it, a place behind another place belongs to the last name, and no
place contains the place of an earlier name. -/
structure Clean (names : List String) (stub : String) : Prop where
  present : ∀ name ∈ names, .place name ∈ cut names stub
  sturdy : ∀ name ∈ names, sturdy (placeChars name) (cut names stub) = true
  followers : ∀ other ∈ followers (cut names stub), ∀ name ∈ names.dropLast,
    ¬placeChars name <:+: placeChars other
  apart : names.Pairwise fun earlier later => ¬placeChars earlier <:+: placeChars later

/-- Filling one name after another acts on what stands in each place. -/
theorem fillChars_spell {pieces : List Piece} {values : List (String × String)}
    (hsturdy : ∀ name ∈ values.map Prod.fst, sturdy (placeChars name) pieces = true)
    (hlast : ∀ other ∈ followers pieces, ∀ name ∈ (values.map Prod.fst).dropLast,
      ¬placeChars name <:+: placeChars other)
    {spelling : String → List Char}
    (hfollowers : ∀ name ∈ followers pieces, spelling name = placeChars name) :
    fillChars (spell spelling pieces) values =
      spell (fun name => fillChars (spelling name) values) pieces := by
  induction values generalizing spelling with
  | nil => rfl
  | cons value rest ih =>
      obtain ⟨name, text⟩ := value
      have hstep := replaceFrom_spell (placeChars_ne_nil name) text.toList
        (hsturdy name List.mem_cons_self) hfollowers
      show fillChars (replaceFrom (placeChars name) text.toList 0 (spell spelling pieces)) rest = _
      rw [hstep]
      -- While a name is left, the places behind other places have not been touched.
      cases rest with
      | nil => rfl
      | cons next others =>
          refine ih (fun other hother => hsturdy other (List.mem_cons_of_mem _ hother)) ?_ ?_
          · intro other hother earlier hearlier
            exact hlast other hother earlier (List.mem_cons_of_mem _ hearlier)
          · intro other hother
            rw [hfollowers other hother]
            exact Text.replaceFrom_of_absent (hlast other hother name List.mem_cons_self) _

/-- What stands in a place after filling one name after another is the settled value. -/
theorem fillChars_placeChars {values : List (String × String)}
    (hapart : (values.map Prod.fst).Pairwise fun earlier later =>
      ¬placeChars earlier <:+: placeChars later)
    {name : String} (hname : name ∈ values.map Prod.fst) :
    fillChars (placeChars name) values = valueOf (settled values) name := by
  induction values with
  | nil => cases hname
  | cons value rest ih =>
      obtain ⟨first, text⟩ := value
      obtain ⟨hfirst, hrest⟩ := List.pairwise_cons.mp hapart
      show fillChars (replaceFrom (placeChars first) text.toList 0 (placeChars name)) rest =
        (((first, fill text rest) :: settled rest).lookup name |>.getD "").toList
      by_cases hsame : name = first
      · subst hsame
        have hreplaced := Text.replaceFrom_append_pattern (placeChars_ne_nil name) text.toList []
        rw [List.append_nil] at hreplaced
        rw [hreplaced, List.lookup_cons_self, Option.getD_some, toList_fill]
        exact congrArg (fillChars · rest) (List.append_nil _)
      · have hmem : name ∈ rest.map Prod.fst := by
          rcases List.mem_cons.mp hname with h | h
          · exact absurd h hsame
          · exact h
        rw [Text.replaceFrom_of_absent (hfirst name hmem), ih hrest hmem, List.lookup_cons,
          beq_false_of_ne hsame]
        rfl

/-- The settled values have the names of the values. -/
theorem map_fst_settled (values : List (String × String)) :
    (settled values).map Prod.fst = values.map Prod.fst := by
  induction values with
  | nil => rfl
  | cons value rest ih => exact congrArg (value.1 :: ·) ih

/-- Filling a clean stub one name after another fills its places at once with the settled
values. -/
theorem fill_eq_fillAtOnce {stub : String} {values : List (String × String)}
    (hclean : Clean (values.map Prod.fst) stub) :
    fill stub values = fillAtOnce stub (settled values) := by
  rw [← String.toList_inj, toList_fill, ← spell_cut (values.map Prod.fst) stub,
    fillChars_spell hclean.sturdy hclean.followers fun _ _ => rfl, fillAtOnce,
    String.toList_ofList, map_fst_settled]
  apply spell_congr
  intro name hname
  exact fillChars_placeChars hclean.apart (mem_of_place_mem_cutFrom hname)

/-- The characters of a filled clean stub. -/
theorem toList_fill_of_clean {stub : String} {values : List (String × String)}
    (hclean : Clean (values.map Prod.fst) stub) :
    (fill stub values).toList =
      spell (valueOf (settled values)) (cut (values.map Prod.fst) stub) := by
  rw [fill_eq_fillAtOnce hclean, fillAtOnce, String.toList_ofList, map_fst_settled]

end SchemaScaffold.Stub
