import SchemaScaffold.Inflection
import SchemaScaffold.Proofs.Inflection.Taking
import SchemaScaffold.Proofs.Text.Opening
import SchemaScaffold.Proofs.Text.Replacing

/-!
# How inflected words open

Inflection changes the ends of words. A rule that fits behind the first character leaves that alone,
and one that fits from the first character on puts something in its place that opens alike: the
stretch that it found, the start of it, or a letter where it can find no digit. The only exception
is the rule that drops an `s` at the end. It leaves nothing of a lone `s`, which is a word without a
singular.
-/

namespace SchemaScaffold.Inflection

open Pattern (Hit IsHit Place Takes)
open Text (Opening opening)

/-- A piece in the case of a word opens as the piece does. -/
theorem opening_likeWord {word piece : String} (hpiece : opening piece.toList ≠ .separator) :
    opening (likeWord word piece).toList = opening piece.toList := by
  unfold likeWord
  split
  · rfl
  · split
    · exact Text.opening_toLower hpiece
    · split
      · exact Text.opening_toUpper hpiece
      · split
        · rfl
        · exact Text.opening_toLower hpiece

/-- A reference at the start of a piece has no case. -/
theorem exists_likeWord_reference {word piece : String} {number : Char} {rest : List Char}
    (hnumber : number = '0' ∨ number = '1') (hpiece : piece.toList = '$' :: number :: rest) :
    ∃ rest', (likeWord word piece).toList = '$' :: number :: rest' := by
  have hlower : ∃ rest', (Text.toLower piece).toList = '$' :: number :: rest' := by
    rw [Text.toLower, String.toList_ofList, hpiece]
    rcases hnumber with rfl | rfl <;> exact ⟨_, rfl⟩
  have hupper : ∃ rest', (Text.toUpper piece).toList = '$' :: number :: rest' := by
    rw [Text.toUpper, String.toList_ofList, hpiece]
    rcases hnumber with rfl | rfl <;> exact ⟨_, rfl⟩
  unfold likeWord
  split
  · exact ⟨rest, hpiece⟩
  · split
    · exact hlower
    · split
      · exact hupper
      · split
        · exact ⟨rest, hpiece⟩
        · exact hlower

/-- A letter or number is no dollar sign. -/
theorem ne_dollar_of_isAlphanumeric {c : Char} (hc : Text.isAlphanumeric c = true) : c ≠ '$' := by
  rintro rfl
  exact absurd hc (by decide)

/-- Putting something in the places of a reference leaves the opening of a text alone. -/
theorem opening_replaceAll {text : String} (htext : opening text.toList ≠ .separator)
    (number stretch : String) :
    opening (Text.replaceAll ("$" ++ number) stretch text).toList = opening text.toList := by
  rw [Text.replaceAll, String.toList_ofList]
  cases hchars : text.toList with
  | nil => rfl
  | cons c rest =>
      rw [hchars] at htext
      have hc := ne_dollar_of_isAlphanumeric (Text.opening_cons_ne_separator_iff.mp htext)
      have hnone : ¬("$" ++ number).toList <+: c :: rest := by
        rw [String.toList_append]
        rintro ⟨others, hothers⟩
        exact hc (List.cons.inj hothers).1.symm
      rw [Text.replaceFrom_cons hnone]
      rfl

/-- Filling in all that was remembered leaves the opening of a text alone. -/
theorem opening_fillCaptures {text : String} (htext : opening text.toList ≠ .separator)
    (number : Nat) (stretches : List String) :
    opening (fillCaptures text number stretches).toList = opening text.toList := by
  induction stretches generalizing text number with
  | nil => rfl
  | cons stretch rest ih =>
      have hreplaced := opening_replaceAll htext (toString number) stretch
      rw [fillCaptures, ih (by rwa [hreplaced]), hreplaced]

/-- Dropping references leaves the opening of a text alone. -/
theorem opening_dropReferences {chars : List Char} (hchars : opening chars ≠ .separator) :
    opening (dropReferences chars) = opening chars := by
  cases chars with
  | nil => rfl
  | cons c rest =>
      have hc := ne_dollar_of_isAlphanumeric (Text.opening_cons_ne_separator_iff.mp hchars)
      rw [dropReferences]
      · rfl
      · rintro _ _ rfl
        exact absurd rfl hc

/-- The text of a reference. -/
theorem toList_reference {number : Nat} (hnumber : number = 0 ∨ number = 1) :
    ("$" ++ toString number).toList = ['$', Nat.digitChar number] := by
  rcases hnumber with rfl | rfl <;> decide

/-- A reference at the start gives way to what it stands for. -/
theorem opening_replaceAll_reference {number : Nat} (hnumber : number = 0 ∨ number = 1)
    {text stretch : String} {rest : List Char}
    (htext : text.toList = '$' :: Nat.digitChar number :: rest) (hstretch : stretch.toList ≠ []) :
    opening (Text.replaceAll ("$" ++ toString number) stretch text).toList =
      opening stretch.toList := by
  rw [Text.replaceAll, String.toList_ofList, toList_reference hnumber, htext]
  have hreplaced := @Text.replaceFrom_append_pattern ['$', Nat.digitChar number]
    (List.cons_ne_nil _ _) stretch.toList rest
  rw [List.cons_append, List.cons_append, List.nil_append] at hreplaced
  rw [hreplaced, Text.opening_append hstretch]

/-- A reference to the first remembered stretch stays where it is when the whole is filled in. -/
theorem exists_replaceAll_other {text : String} {rest : List Char}
    (htext : text.toList = '$' :: '1' :: rest) (stretch : String) :
    ∃ rest', (Text.replaceAll ("$" ++ toString 0) stretch text).toList = '$' :: '1' :: rest' := by
  have hfirst : ¬['$', '0'] <+: '$' :: '1' :: rest := by
    rintro ⟨others, hothers⟩
    exact absurd (List.cons.inj (List.cons.inj hothers).2).1 (by decide)
  have hsecond : ¬['$', '0'] <+: '1' :: rest := by
    rintro ⟨others, hothers⟩
    exact absurd (List.cons.inj hothers).1 (by decide)
  rw [Text.replaceAll, String.toList_ofList, toList_reference (.inl rfl), htext]
  exact ⟨_, (Text.replaceFrom_cons hfirst _).trans
    (congrArg ('$' :: ·) (Text.replaceFrom_cons hsecond _))⟩

/-- What a rule puts in the place of a whole word, given the stretches that it remembered. -/
def Rule.whole (rule : Rule) (word : String) (captures : List (List Char)) : String :=
  fillCaptures (likeWord word rule.replacement) 0
    ((word.toList :: captures).map fun chars => likeWord word (String.ofList chars))

section Whole

variable {rule : Rule} {word : String} {rest : List Char}

/-- All of the word in its own place. -/
theorem opening_whole_of_all (hreplacement : rule.replacement.toList = '$' :: '0' :: rest)
    (hword : opening word.toList ≠ .separator) (hne : word.toList ≠ [])
    (captures : List (List Char)) :
    opening (rule.whole word captures).toList = opening word.toList := by
  obtain ⟨rest', htext⟩ := @exists_likeWord_reference word _ _ _ (.inl rfl) hreplacement
  have hself : likeWord word (String.ofList word.toList) = word := by
    rw [String.ofList_toList, likeWord, if_pos rfl]
  have hreplaced := opening_replaceAll_reference (.inl rfl) htext hne
  rw [Rule.whole, List.map_cons, fillCaptures, hself,
    opening_fillCaptures (by rw [hreplaced]; exact hword), hreplaced]

/-- The start of the word in the place of all of it. -/
theorem opening_whole_of_start (hreplacement : rule.replacement.toList = '$' :: '1' :: rest)
    (hword : opening word.toList ≠ .separator) {stretch : List Char} (hstretch : stretch ≠ [])
    (hstarts : stretch <+: word.toList) (captures : List (List Char)) :
    opening (rule.whole word (stretch :: captures)).toList = opening word.toList := by
  obtain ⟨rest', htext⟩ := @exists_likeWord_reference word _ _ _ (.inr rfl) hreplacement
  obtain ⟨rest'', hother⟩ := exists_replaceAll_other htext
    (likeWord word (String.ofList word.toList))
  have hopening : opening (String.ofList stretch).toList = opening word.toList := by
    obtain ⟨back, hback⟩ := hstarts
    rw [String.toList_ofList, ← hback, Text.opening_append hstretch]
  have hlike : opening (likeWord word (String.ofList stretch)).toList = opening word.toList := by
    rw [opening_likeWord (by rw [hopening]; exact hword), hopening]
  have hlikeNe : (likeWord word (String.ofList stretch)).toList ≠ [] := by
    rwa [ne_eq, ← Text.opening_eq_nothing_iff, hlike, ← hopening, Text.opening_eq_nothing_iff,
      String.toList_ofList]
  have hreplaced := opening_replaceAll_reference (.inr rfl) hother hlikeNe
  rw [hlike] at hreplaced
  rw [Rule.whole, List.map_cons, List.map_cons, fillCaptures, fillCaptures, Nat.zero_add,
    opening_fillCaptures (by rw [hreplaced]; exact hword), hreplaced]

/-- A letter in the place of the word. -/
theorem opening_whole_of_letter (hreplacement : opening rule.replacement.toList = .letter)
    (captures : List (List Char)) : opening (rule.whole word captures).toList = .letter := by
  have hpiece : opening (likeWord word rule.replacement).toList = .letter := by
    rw [opening_likeWord (by rw [hreplacement]; decide), hreplacement]
  rw [Rule.whole, opening_fillCaptures (by rw [hpiece]; decide), hpiece]

end Whole

/-- The rule fits at the end of a word, and what it puts in the place of a whole word opens as the
word: with all of it, with a remembered start of it, or with a letter when the word can start with
no digit. -/
def Rule.keepsOpening (rule : Rule) : Bool :=
  rule.pattern.endsText &&
    match rule.replacement.toList with
    | '$' :: '0' :: _ => true
    | '$' :: '1' :: _ => rule.pattern.remembersStart
    | chars => decide (opening chars = .letter) && rule.pattern.shunsDigits

/-- What such a rule puts in the place of a whole word opens as the word. -/
theorem opening_whole {rule : Rule} (hrule : rule.keepsOpening = true) {word : String}
    (hword : opening word.toList ≠ .separator) (hne : word.toList ≠ []) {stop : Place}
    (htakes : Takes rule.pattern ⟨none, word.toList, []⟩ stop) :
    opening (rule.whole word stop.captures.reverse).toList = opening word.toList := by
  obtain ⟨hends, hreplacement⟩ := Bool.and_eq_true_iff.mp hrule
  split at hreplacement
  case h_1 rest hall => exact opening_whole_of_all hall hword hne _
  case h_2 rest hstart =>
    obtain ⟨later, stretch, hcaptures, hstretch, hstarts⟩ := htakes.exists_capture hreplacement
    rw [hcaptures, List.reverse_append, List.reverse_singleton, List.singleton_append]
    exact opening_whole_of_start hstart hword hstretch hstarts _
  case h_3 =>
    rw [Bool.and_eq_true, decide_eq_true_eq] at hreplacement
    obtain ⟨hletter, hshuns⟩ := hreplacement
    rw [opening_whole_of_letter hletter]
    rcases htakes.rest_eq_or_of_shunsDigits hshuns with hnothing | ⟨c, rest, hchars, hdigit⟩
    · rw [htakes.rest_eq_nil hends] at hnothing
      exact absurd hnothing.symm hne
    · have hchars : word.toList = c :: rest := hchars
      rw [hchars] at hword ⊢
      have hc := Text.opening_cons_ne_separator_iff.mp hword
      exact (Text.opening_cons_eq_letter_iff.mpr ⟨hc, hdigit⟩).symm

/-- A rule for the end of words leaves the opening of a word alone if what it puts in the place of
the whole word opens as the word. -/
theorem opening_of_result? {rule : Rule} (hends : rule.pattern.endsText = true)
    {word result : String} (hword : opening word.toList ≠ .separator)
    (hwhole : ∀ stop, Takes rule.pattern ⟨none, word.toList, []⟩ stop →
      opening (rule.whole word stop.captures.reverse).toList = opening word.toList)
    (hresult : rule.result? word = some result) :
    opening result.toList = opening word.toList := by
  obtain ⟨hit, hsearch, rfl⟩ := Option.map_eq_some_iff.mp hresult
  obtain ⟨hafter, htext, hstart⟩ := (Pattern.isHit_of_search hsearch).of_endsText hends
  simp only [String.toList_ofList]
  by_cases hbefore : hit.before = []
  · obtain ⟨stop, htakes, hcaptures⟩ := hstart hbefore
    have hmatched : hit.matched = word.toList := by rw [htext, hbefore, List.nil_append]
    have hfilled := hwhole stop htakes
    rw [Rule.whole] at hfilled
    rw [hbefore, hafter, hmatched, hcaptures, List.nil_append, List.append_nil,
      opening_dropReferences (by rw [hfilled]; exact hword), hfilled]
  · have hfront (back : List Char) : opening (hit.before ++ back) = opening word.toList := by
      rw [htext, Text.opening_append hbefore, Text.opening_append hbefore]
    rw [List.append_assoc, opening_dropReferences (by rw [hfront]; exact hword), hfront]

/-- Rules that leave the opening of words alone do so one after another. -/
theorem opening_of_findSome? {rules : List Rule} (hrules : rules.all Rule.keepsOpening = true)
    {word result : String} (hword : opening word.toList ≠ .separator) (hne : word.toList ≠ [])
    (hfound : rules.reverse.findSome? (·.result? word) = some result) :
    opening result.toList = opening word.toList := by
  obtain ⟨rule, hmem, hresult⟩ := List.exists_of_findSome?_eq_some hfound
  have hrule := List.all_eq_true.mp hrules rule (List.mem_reverse.mp hmem)
  have hends := (Bool.and_eq_true_iff.mp hrule).1
  exact opening_of_result? hends hword (fun _ => opening_whole hrule hword hne) hresult

/-- The rule that drops an `s`. -/
def dropS : Rule := ⟨atEnd (.lit "s"), ""⟩

/-- A word that is dropped as a whole is a lone `s`. -/
theorem map_folded_of_takes_dropS {place stop : Place} (htakes : Takes dropS.pattern place stop) :
    place.rest.map Pattern.folded = ['s'] := by
  have hform : dropS.pattern = .seq (.seq (.letter 's') .empty) .finish := rfl
  rw [hform] at htakes
  have hrest := htakes.rest_eq_nil rfl
  cases htakes with
  | char htest => cases htest
  | @seq _ _ _ middle _ hs hfinish =>
    obtain rfl := hfinish.eq_of_onlyLooks rfl
    cases hs with
    | char htest => cases htest
    | seq hletter hempty =>
      obtain rfl := hempty.eq_of_onlyLooks rfl
      cases hletter with
      | char htest hc =>
        obtain rfl := Option.some.inj htest
        obtain rfl : _ = [] := hrest
        rw [List.map_singleton, beq_iff_eq.mp hc]
        decide

/-- Only ASCII letters have `s` as their small form. -/
theorem lowerChar_ne_s {c : Char} (hbeyond : ¬c.toNat < 128) : Text.lowerChar c ≠ ['s'] := by
  obtain ⟨hexpansions, hruns⟩ : (∀ entry ∈ Text.Property.lowerExpansions, entry.2.length ≠ 1) ∧
      ∀ run ∈ Text.Property.lowerRuns,
        's'.toNat < run.image ∨ run.image + (run.last - run.first) < 's'.toNat := by
    decide +kernel
  rw [Text.lowerChar, if_neg hbeyond, Text.mapCase]
  split
  case h_1 codes hcodes =>
    obtain ⟨front, others, hsplit, -⟩ := List.lookup_eq_some_iff.mp hcodes
    intro hs
    apply hexpansions (c.toNat, codes) (by simp [hsplit])
    rw [← List.length_map Char.ofNat, hs, List.length_singleton]
  case h_2 =>
    rw [ne_eq]
    split
    case h_1 image himage =>
      obtain ⟨run, hrun, hfound⟩ := List.exists_of_findSome?_eq_some himage
      obtain ⟨k, -, hinside, rfl⟩ := Text.exists_image_eq hfound
      rw [List.cons.injEq, not_and_or]
      left
      intro hs
      by_cases hvalid : (run.image + k * run.step).isValidChar
      · have hnumber : run.image + k * run.step = 's'.toNat := by
          rw [← hs, Char.ofNat, dif_pos hvalid]
          rfl
        rcases hruns run hrun with habove | hbelow <;> omega
      · rw [Char.ofNat, dif_neg hvalid] at hs
        exact absurd hs (by decide)
    case h_2 =>
      rw [List.cons.injEq, not_and_or]
      left
      rintro rfl
      exact hbeyond (by decide)

/-- The forms of the letter `s`. -/
theorem eq_of_folded_eq_s {c : Char} (hfolded : Pattern.folded c = 's') :
    c = 's' ∨ c = 'S' ∨ c = 'ſ' := by
  by_cases hplain : c.toNat < 128
  · exact Text.of_plain (p := fun c => Pattern.folded c = 's' → c = 's' ∨ c = 'S' ∨ c = 'ſ')
      (by decide +kernel) hplain hfolded
  · unfold Pattern.folded at hfolded
    split at hfolded
    case isTrue hlong => exact .inr (.inr hlong)
    case isFalse =>
      split at hfolded
      case isTrue => cases hfolded
      case isFalse =>
        split at hfolded
        case h_1 small hsmall => exact absurd (hfolded ▸ hsmall) (lowerChar_ne_s hplain)
        case h_2 => exact absurd (hfolded ▸ hplain) (by decide)

/-- A lone `s` has no singular. -/
theorem singular_of_lone_s {word : String} (hlone : word.toList.map Pattern.folded = ['s']) :
    singular word = "" := by
  obtain ⟨c, hchars, hfolded⟩ := List.map_eq_singleton_iff.mp hlone
  have hword : word = String.ofList [c] := by rw [← hchars, String.ofList_toList]
  obtain ⟨hsmall, hcapital, hlong⟩ : singular "s" = "" ∧ singular "S" = "" ∧ singular "ſ" = "" := by
    decide +kernel
  rcases eq_of_folded_eq_s hfolded with rfl | rfl | rfl
  · exact hword ▸ hsmall
  · exact hword ▸ hcapital
  · exact hword ▸ hlong

/-- Inflection leaves the opening of a word alone if its rules do. -/
theorem opening_inflect {kept : List String} {replaced : List (String × String)}
    {rules : List Rule} {word : String}
    (hreplaced : ∀ pair ∈ replaced,
      opening pair.1.toList = .letter ∧ opening pair.2.toList = .letter)
    (hword : opening word.toList ≠ .separator)
    (hrules : word.toList ≠ [] → opening (applyRules rules word).toList = opening word.toList) :
    opening (inflect kept replaced rules word).toList = opening word.toList := by
  have hsmall := Text.opening_toLower hword
  unfold inflect
  simp only
  split
  case isTrue => rw [opening_likeWord (by rw [hsmall]; exact hword), hsmall]
  case isFalse =>
    split
    case h_1 other hother =>
      obtain ⟨front, others, hsplit, -⟩ := List.lookup_eq_some_iff.mp hother
      have hmem : (Text.toLower word, other) ∈ replaced := by
        rw [← List.mem_reverse, hsplit]
        simp
      obtain ⟨hfrom, hto⟩ := hreplaced _ hmem
      rw [opening_likeWord (by rw [hto]; decide), hto, ← hsmall]
      exact hfrom.symm
    case h_2 =>
      split
      case isTrue => rfl
      case isFalse hrest =>
        apply hrules
        intro hempty
        apply hrest
        rw [Text.toLower, hempty]
        exact .inl rfl

/-- Irregular words open with letters in both numbers. -/
theorem opening_irregular : ∀ pair ∈ irregular,
    opening pair.1.toList = .letter ∧ opening pair.2.toList = .letter := by
  decide +kernel

/-- The plural of a word opens as the word. -/
theorem opening_plural {word : String} (hword : opening word.toList ≠ .separator) :
    opening (plural word).toList = opening word.toList := by
  refine opening_inflect opening_irregular hword fun hne => ?_
  unfold applyRules
  cases hfound : pluralRules.reverse.findSome? (·.result? word) with
  | none => rfl
  | some result => exact opening_of_findSome? (by decide +kernel) hword hne hfound

/-- The singular of a word opens as the word, unless this is a lone `s`. -/
theorem opening_singular {word : String} (hword : opening word.toList ≠ .separator)
    (hlone : word.toList.map Pattern.folded ≠ ['s']) :
    opening (singular word).toList = opening word.toList := by
  refine opening_inflect ?_ hword fun hne => ?_
  · rintro _ hpair
    obtain ⟨pair, hmem, rfl⟩ := List.mem_map.mp hpair
    exact (opening_irregular pair hmem).symm
  have hrules : singularRules = dropS :: singularRules.tail := rfl
  rw [applyRules, hrules, List.reverse_cons, List.findSome?_append]
  cases hfound : singularRules.tail.reverse.findSome? (·.result? word) with
  | some result => exact opening_of_findSome? (by decide +kernel) hword hne hfound
  | none =>
      rw [Option.none_or, List.findSome?_singleton]
      cases hdropped : dropS.result? word with
      | none => rfl
      | some result =>
          apply opening_of_result? rfl hword _ hdropped
          intro stop htakes
          exact absurd (map_folded_of_takes_dropS htakes) hlone

end SchemaScaffold.Inflection
