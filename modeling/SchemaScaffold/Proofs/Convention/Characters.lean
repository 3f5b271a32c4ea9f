import SchemaScaffold.Convention
import SchemaScaffold.Proofs.Text.Pieces

/-!
# The characters of derived names

Whatever a table is called, the words of its name are letters and digits of some script, and
changing their case leads to such characters again. So a class name is made of ASCII letters and
digits and of characters beyond ASCII, and a name in snake case has low lines besides. Nothing in
either of them can be mistaken for a part of a path.
-/

namespace SchemaScaffold.Text

/-- ASCII letters and digits, and everything beyond ASCII. -/
def isNameChar (c : Char) : Bool := c.isAlphanum || decide (128 ≤ c.toNat)

/-- A character that separates is none of a name. -/
theorem ne_of_isNameChar {c other : Char} (hc : isNameChar c = true)
    (hother : isNameChar other = false) : c ≠ other := by
  rintro rfl
  rw [hc] at hother
  cases hother

/-- Letters and numbers of any script may stand in names. -/
theorem isNameChar_of_isAlphanumeric {c : Char} (hc : isAlphanumeric c = true) :
    isNameChar c = true := by
  unfold isAlphanumeric classify at hc
  unfold isNameChar
  split at hc
  case isTrue hplain => simp [hc]
  case isFalse hbeyond => simp [Nat.le_of_not_lt hbeyond]

/-- What holds of the first 128 characters, number by number, holds of each of them. -/
theorem of_plain {p : Char → Prop} (hall : ∀ n < 128, p (Char.ofNat n)) {c : Char}
    (hplain : c.toNat < 128) : p c := by
  have hcase := hall c.toNat hplain
  rwa [Char.ofNat_toNat] at hcase

/-- All images of the run are characters of names: either they lie beyond ASCII and are code points
of characters, or there is one image only. -/
def lands (run : Property.CaseRun) : Bool :=
  let last := run.image + (run.last - run.first)
  (decide (128 ≤ run.image) && (decide (last < 0xd800) ||
      (decide (0xdfff < run.image) && decide (last < 0x110000)))) ||
    (run.first == run.last && isNameChar (Char.ofNat run.image))

/-- A code point of a character beyond ASCII is a character of names. -/
theorem isNameChar_ofNat {code : Nat} (hlow : 128 ≤ code)
    (hvalid : code < 0xd800 ∨ 0xdfff < code ∧ code < 0x110000) :
    isNameChar (Char.ofNat code) = true := by
  have hcode : (Char.ofNat code).toNat = code := by
    rw [Char.ofNat, dif_pos (show code.isValidChar from hvalid)]
    rfl
  simp [isNameChar, hcode, hlow]

/-- The image of a code point under a run that lands in names. -/
theorem isNameChar_image {run : Property.CaseRun} (hrun : lands run = true) {code image : Nat}
    (himage : run.image? code = some image) : isNameChar (Char.ofNat image) = true := by
  unfold Property.CaseRun.image? at himage
  split at himage
  case isFalse => cases himage
  case isTrue hinside =>
    cases himage
    simp only [lands, Bool.or_eq_true, Bool.and_eq_true, decide_eq_true_eq, beq_iff_eq] at hrun
    rcases hrun with ⟨hlow, hvalid⟩ | ⟨hsingle, hname⟩
    · apply isNameChar_ofNat <;> omega
    · have hsame : run.image + (code - run.first) = run.image := by omega
      rwa [hsame]

/-- A case map that lands in names leads from characters of names to characters of names. -/
theorem isNameChar_mapCase {runs : List Property.CaseRun} {expansions : List (Nat × List Nat)}
    (hruns : runs.all lands = true)
    (hexpansions : (expansions.all fun entry =>
      entry.2.all fun code => isNameChar (Char.ofNat code)) = true)
    {c d : Char} (hc : isNameChar c = true) (hd : d ∈ mapCase runs expansions c) :
    isNameChar d = true := by
  unfold mapCase at hd
  split at hd
  case h_1 codes hcodes =>
    obtain ⟨code, hcode, rfl⟩ := List.mem_map.mp hd
    obtain ⟨front, rest, hsplit, -⟩ := List.lookup_eq_some_iff.mp hcodes
    have hentry := List.all_eq_true.mp hexpansions (c.toNat, codes) (by simp [hsplit])
    exact List.all_eq_true.mp hentry code hcode
  case h_2 =>
    split at hd
    case h_1 image himage =>
      obtain ⟨run, hrun, hfound⟩ := List.exists_of_findSome?_eq_some himage
      obtain rfl := List.mem_singleton.mp hd
      exact isNameChar_image (List.all_eq_true.mp hruns run hrun) hfound
    case h_2 =>
      obtain rfl := List.mem_singleton.mp hd
      exact hc

/-- The small form of a character of names is made of such characters. -/
theorem isNameChar_lowerChar {c d : Char} (hc : isNameChar c = true) (hd : d ∈ lowerChar c) :
    isNameChar d = true := by
  unfold lowerChar at hd
  split at hd
  case isTrue hplain =>
    obtain rfl := List.mem_singleton.mp hd
    exact of_plain (p := fun c => isNameChar c = true → isNameChar c.toLower = true)
      (by decide +kernel) hplain hc
  case isFalse =>
    exact isNameChar_mapCase (by decide +kernel) (by decide +kernel) hc hd

/-- The capital form of a character of names is made of such characters. -/
theorem isNameChar_upperChar {c d : Char} (hc : isNameChar c = true) (hd : d ∈ upperChar c) :
    isNameChar d = true := by
  unfold upperChar at hd
  split at hd
  case isTrue hplain =>
    obtain rfl := List.mem_singleton.mp hd
    exact of_plain (p := fun c => isNameChar c = true → isNameChar c.toUpper = true)
      (by decide +kernel) hplain hc
  case isFalse =>
    exact isNameChar_mapCase (by decide +kernel) (by decide +kernel) hc hd

/-- Words are cut out of a piece and add nothing to it. -/
theorem mem_of_mem_cutWords {phase : WordPhase} {current chars word : List Char} {c : Char}
    (hword : word ∈ cutWords phase current chars) (hc : c ∈ word) : c ∈ current ∨ c ∈ chars := by
  induction chars generalizing phase current with
  | nil => cases hword
  | cons first rest ih =>
      cases rest with
      | nil =>
          obtain rfl := List.mem_singleton.mp hword
          simpa [or_comm] using hc
      | cons next others =>
          unfold cutWords at hword
          split at hword
          · rcases List.mem_cons.mp hword with rfl | hword
            · simp only [List.reverse_cons, List.mem_append, List.mem_reverse,
                List.mem_singleton] at hc
              exact hc.imp_right fun h => List.mem_cons.mpr (.inl h)
            · rcases ih hword with hnone | hrest
              · cases hnone
              · exact .inr (List.mem_cons_of_mem _ hrest)
          · split at hword
            · rcases List.mem_cons.mp hword with rfl | hword
              · exact .inl (List.mem_reverse.mp hc)
              · rcases ih hword with hfirst | hrest
                · exact .inr (List.mem_singleton.mp hfirst ▸ List.mem_cons_self)
                · exact .inr (List.mem_cons_of_mem _ hrest)
            · rcases ih hword with hcurrent | hrest
              · rcases List.mem_cons.mp hcurrent with rfl | hcurrent
                · exact .inr List.mem_cons_self
                · exact .inl hcurrent
              · exact .inr (List.mem_cons_of_mem _ hrest)

/-- Words are made of letters and numbers. -/
theorem isNameChar_of_mem_words {text : String} {word : List Char} {c : Char}
    (hword : word ∈ words text) (hc : c ∈ word) : isNameChar c = true := by
  obtain ⟨piece, hpiece, hword⟩ := List.mem_flatMap.mp hword
  rcases mem_of_mem_cutWords hword hc with hnone | hmem
  · cases hnone
  · have hcut := (of_mem_pieces hpiece hmem).2
    exact isNameChar_of_isAlphanumeric (by simpa using hcut)

/-- A word in lower case is made of characters of names if the word is. -/
theorem isNameChar_lowerWord {word : List Char} (hword : ∀ c ∈ word, isNameChar c = true) {d : Char}
    (hd : d ∈ lowerWord word) : isNameChar d = true := by
  induction word with
  | nil => cases hd
  | cons c rest ih =>
      unfold lowerWord at hd
      split at hd
      case h_1 hnil => cases hnil
      case h_2 =>
        obtain rfl := List.mem_singleton.mp hd
        decide
      case h_3 head tail _ hsplit =>
        obtain ⟨rfl, rfl⟩ := List.cons.inj hsplit
        rcases List.mem_append.mp hd with hfirst | hrest
        · exact isNameChar_lowerChar (hword _ List.mem_cons_self) hfirst
        · exact ih (fun other hother => hword other (List.mem_cons_of_mem _ hother)) hrest

/-- A word with a capital at its start is made of characters of names if the word is. -/
theorem isNameChar_capitalWord {word : List Char} (hword : ∀ c ∈ word, isNameChar c = true)
    {d : Char} (hd : d ∈ capitalWord word) : isNameChar d = true := by
  cases word with
  | nil => cases hd
  | cons c rest =>
      rcases List.mem_append.mp hd with hfirst | hrest
      · exact isNameChar_upperChar (hword c List.mem_cons_self) hfirst
      · exact isNameChar_lowerWord (fun other h => hword other (List.mem_cons_of_mem _ h)) hrest

/-- Class names are made of letters and numbers. -/
theorem isNameChar_upperCamelCase {text : String} {d : Char}
    (hd : d ∈ (upperCamelCase text).toList) : isNameChar d = true := by
  rw [upperCamelCase, String.toList_ofList] at hd
  obtain ⟨word, hword, hd⟩ := List.mem_flatMap.mp hd
  exact isNameChar_capitalWord (fun _ hc => isNameChar_of_mem_words hword hc) hd

/-- So are names that start with a small word. -/
theorem isNameChar_lowerCamelCase {text : String} {d : Char}
    (hd : d ∈ (lowerCamelCase text).toList) : isNameChar d = true := by
  unfold lowerCamelCase at hd
  split at hd
  case h_1 => cases hd
  case h_2 first rest hwords =>
    have hchars {word : List Char} (hword : word ∈ first :: rest) (c : Char) (hc : c ∈ word) :
        isNameChar c = true := isNameChar_of_mem_words (hwords ▸ hword) hc
    rw [String.toList_ofList] at hd
    rcases List.mem_append.mp hd with hfirst | hd
    · exact isNameChar_lowerWord (hchars List.mem_cons_self) hfirst
    · obtain ⟨word, hword, hd⟩ := List.mem_flatMap.mp hd
      exact isNameChar_capitalWord (hchars (List.mem_cons_of_mem _ hword)) hd

/-- Joined words are made of the words and of low lines. -/
theorem mem_joinWords {words : List (List Char)} {d : Char} (hd : d ∈ joinWords words) :
    d = '_' ∨ ∃ word ∈ words, d ∈ word := by
  induction words with
  | nil => cases hd
  | cons word rest ih =>
      cases rest with
      | nil => exact .inr ⟨word, List.mem_cons_self, hd⟩
      | cons second others =>
          rcases List.mem_append.mp hd with hword | hd
          · exact .inr ⟨word, List.mem_cons_self, hword⟩
          · rcases List.mem_cons.mp hd with rfl | hd
            · exact .inl rfl
            · exact (ih hd).imp_right fun ⟨other, hother, hmem⟩ =>
                ⟨other, List.mem_cons_of_mem _ hother, hmem⟩

/-- Names in snake case are made of letters, numbers and low lines. -/
theorem isNameChar_snakeCase {text : String} {d : Char} (hd : d ∈ (snakeCase text).toList) :
    d = '_' ∨ isNameChar d = true := by
  rw [snakeCase, String.toList_ofList] at hd
  refine (mem_joinWords hd).imp_right fun ⟨small, hsmall, hd⟩ => ?_
  obtain ⟨word, hword, rfl⟩ := List.mem_map.mp hsmall
  exact isNameChar_lowerWord (fun c hc => isNameChar_of_mem_words hword hc) hd

end SchemaScaffold.Text
