import Mathlib.Algebra.Group.Nat.Defs
import Mathlib.Data.List.Chain
import SchemaScaffold.Proofs.Convention.Characters

/-!
# Letters and numbers in another case

Changing case leads from a letter or number to one: the first character of its small form and that
of its capital form are letters or numbers again, and they are ASCII digits only where the character
is. The case maps and the set of letters and numbers are long tables. So that all images can be
looked up at once, the set is turned into a number whose bits are its members.
-/

namespace SchemaScaffold.Text

/-- A bound above all images under the case maps. -/
def imageLimit : Nat := 0x20000

/-- The number whose bits are the members of a set below the limit: each switch turns all bits from
there on. -/
def CodeSet.bits (set : CodeSet) : Nat :=
  set.switches.foldr (fun switch bits => bits ^^^ (2 ^ imageLimit - 2 ^ switch)) 0

/-- The bits that a switch turns. -/
theorem testBit_turned (limit switch code : Nat) :
    (2 ^ limit - 2 ^ switch).testBit code = decide (switch ≤ code ∧ code < limit) := by
  by_cases hswitch : switch < limit
  · have hless : 2 ^ switch - 1 < 2 ^ limit :=
      Nat.lt_of_le_of_lt (Nat.sub_le _ _) (Nat.pow_lt_pow_right (by decide) hswitch)
    have hturned := Nat.testBit_two_pow_sub_succ hless code
    rw [Nat.sub_add_cancel (Nat.two_pow_pos switch), Nat.testBit_two_pow_sub_one] at hturned
    rw [hturned, ← decide_not, ← Bool.decide_and]
    exact decide_eq_decide.mpr (by omega)
  · have hnone : 2 ^ limit - 2 ^ switch = 0 :=
      Nat.sub_eq_zero_of_le (Nat.pow_le_pow_right (by decide) (Nat.le_of_not_lt hswitch))
    rw [hnone, Nat.zero_testBit]
    exact (decide_eq_false (by omega)).symm

/-- The bits of sorted switches are the code points at or above an odd number of them. -/
theorem testBit_foldr {switches : List Nat} (hsorted : switches.IsChain (· ≤ ·)) {code : Nat}
    (hlimit : code < imageLimit) :
    (switches.foldr (fun switch bits => bits ^^^ (2 ^ imageLimit - 2 ^ switch)) 0).testBit code =
      CodeSet.contains ⟨switches⟩ code := by
  induction switches with
  | nil => simp [CodeSet.contains]
  | cons switch switches ih =>
      rw [List.foldr_cons, Nat.testBit_xor, testBit_turned, ih hsorted.tail]
      unfold CodeSet.contains
      by_cases hreached : switch ≤ code
      · have htaken : (switch :: switches).takeWhile (· ≤ code) =
            switch :: switches.takeWhile (· ≤ code) :=
          List.takeWhile_cons_of_pos (decide_eq_true hreached)
        rw [htaken, List.length_cons, decide_eq_true ⟨hreached, hlimit⟩]
        -- One more switch turns the parity.
        generalize (switches.takeWhile (· ≤ code)).length = count
        rcases Nat.mod_two_eq_zero_or_one count with heven | hodd
        · simp [Nat.add_mod, heven]
        · simp [Nat.add_mod, hodd]
      · have hrest : switches.takeWhile (· ≤ code) = [] := by
          cases switches with
          | nil => rfl
          | cons next others =>
              have hnext : switch ≤ next := (List.isChain_cons_cons.mp hsorted).1
              exact List.takeWhile_cons_of_neg (by simp only [decide_eq_true_eq]; omega)
        have hnone : (switch :: switches).takeWhile (· ≤ code) = [] :=
          List.takeWhile_cons_of_neg (by simpa using hreached)
        rw [hnone, hrest, decide_eq_false fun hboth => hreached hboth.1]
        rfl

/-- An image is one of the equally spaced images of its run. -/
theorem exists_image_eq {run : Property.CaseRun} {code image : Nat}
    (himage : run.image? code = some image) :
    ∃ k ≤ (run.last - run.first) / run.step,
      k * run.step ≤ run.last - run.first ∧ image = run.image + k * run.step := by
  unfold Property.CaseRun.image? at himage
  split at himage
  case isFalse => cases himage
  case isTrue hinside =>
    obtain ⟨-, hlast, hstep⟩ := hinside
    obtain rfl := Option.some.inj himage
    have hmoved : code - run.first ≤ run.last - run.first := Nat.sub_le_sub_right hlast _
    have hspaced : (code - run.first) / run.step * run.step = code - run.first :=
      Nat.div_mul_cancel (Nat.dvd_of_mod_eq_zero hstep)
    refine ⟨(code - run.first) / run.step, Nat.div_le_div_right hmoved, ?_, ?_⟩
    · rwa [hspaced]
    · rw [hspaced]

/-- The images of the run are code points of letters and numbers, and of no ASCII digits. The bits
that are looked up are cut to the length of the run, so that only small numbers are shifted. -/
def Property.CaseRun.reaches (run : Property.CaseRun) : Bool :=
  decide ('9'.toNat < run.image) &&
    decide (run.image + (run.last - run.first) < imageLimit) &&
    (decide (run.image + (run.last - run.first) < 0xd800) || decide (0xdfff < run.image)) &&
    (List.range ((run.last - run.first) / run.step + 1)).all fun k =>
      ((Property.alphanumeric.bits >>> run.image) % 2 ^ (run.last - run.first + 1)).testBit
        (k * run.step)

/-- The run that leads from a code point to itself. -/
def Property.CaseRun.single (code : Nat) : Property.CaseRun := ⟨code, code, 1, code⟩

/-- The table of letters and numbers knows the first 128 characters too. -/
theorem isAlphanumeric_eq_contains (c : Char) :
    isAlphanumeric c = Property.alphanumeric.contains c.toNat := by
  by_cases hplain : c.toNat < 128
  · exact of_plain (p := fun c => isAlphanumeric c = Property.alphanumeric.contains c.toNat)
      (by decide +kernel) hplain
  · rw [isAlphanumeric, classify, if_neg hplain]

/-- What is reached is a letter or number. -/
theorem of_reaches {run : Property.CaseRun} (hrun : run.reaches = true) {code image : Nat}
    (himage : run.image? code = some image) :
    isAlphanumeric (Char.ofNat image) = true ∧ (Char.ofNat image).isDigit = false := by
  simp only [Property.CaseRun.reaches, Bool.and_eq_true, Bool.or_eq_true, decide_eq_true_eq,
    List.all_eq_true, List.mem_range] at hrun
  obtain ⟨⟨⟨hdigits, hlimit⟩, hvalid⟩, hbits⟩ := hrun
  obtain ⟨k, hk, hinside, rfl⟩ := exists_image_eq himage
  have hbelow : run.image + k * run.step < imageLimit := by omega
  have hrange : run.image + k * run.step < 0x110000 := Nat.lt_trans hbelow (by decide)
  have hcharacter : (run.image + k * run.step).isValidChar :=
    hvalid.imp (by omega) fun habove => ⟨by omega, hrange⟩
  have hnumber : (Char.ofNat (run.image + k * run.step)).toNat = run.image + k * run.step := by
    rw [Char.ofNat, dif_pos hcharacter]
    rfl
  have hsorted : Property.alphanumeric.switches.IsChain (· ≤ ·) := by decide +kernel
  have hbit := hbits k (Nat.lt_succ_of_le hk)
  rw [Nat.testBit_mod_two_pow, Bool.and_eq_true, Nat.testBit_shiftRight] at hbit
  constructor
  · rw [isAlphanumeric_eq_contains, hnumber, ← testBit_foldr hsorted hbelow]
    exact hbit.2
  · apply Bool.eq_false_iff.mpr
    intro hdigit
    rw [Char.isDigit, Bool.and_eq_true, decide_eq_true_eq, decide_eq_true_eq] at hdigit
    have hle : (Char.ofNat (run.image + k * run.step)).toNat ≤ '9'.toNat := hdigit.2
    omega

/-- The case maps reach letters and numbers only; where they lead to several characters, this holds
of the first of them. -/
theorem tables_reach :
    (∀ run ∈ Property.lowerRuns ++ Property.upperRuns, run.reaches = true) ∧
    ∀ entry ∈ Property.lowerExpansions ++ Property.upperExpansions,
      (entry.2.head?.any fun code => (Property.CaseRun.single code).reaches) = true := by
  decide +kernel

/-- A case map that reaches letters and numbers leads from one to such a character at the start. -/
theorem exists_mapCase {runs : List Property.CaseRun} {expansions : List (Nat × List Nat)}
    (hruns : ∀ run ∈ runs, run.reaches = true)
    (hexpansions : ∀ entry ∈ expansions,
      (entry.2.head?.any fun code => (Property.CaseRun.single code).reaches) = true) {c : Char}
    (hc : isAlphanumeric c = true) (hdigit : c.isDigit = false) :
    ∃ d rest, mapCase runs expansions c = d :: rest ∧ isAlphanumeric d = true ∧
      d.isDigit = false := by
  unfold mapCase
  split
  case h_1 codes hcodes =>
    obtain ⟨front, others, hsplit, -⟩ := List.lookup_eq_some_iff.mp hcodes
    have hentry := hexpansions (c.toNat, codes) (by simp [hsplit])
    cases codes with
    | nil => cases hentry
    | cons code codes =>
        have hitself : (Property.CaseRun.single code).image? code = some code := by
          simp [Property.CaseRun.single, Property.CaseRun.image?]
        exact ⟨_, _, List.map_cons, of_reaches hentry hitself⟩
  case h_2 =>
    split
    case h_1 image himage =>
      obtain ⟨run, hrun, hfound⟩ := List.exists_of_findSome?_eq_some himage
      exact ⟨_, _, rfl, of_reaches (hruns run hrun) hfound⟩
    case h_2 => exact ⟨_, _, rfl, hc, hdigit⟩

/-- Beyond the first 128 characters there are no ASCII digits. -/
theorem isDigit_of_beyond {c : Char} (hbeyond : ¬c.toNat < 128) : c.isDigit = false := by
  apply Bool.eq_false_iff.mpr
  intro hdigit
  rw [Char.isDigit, Bool.and_eq_true, decide_eq_true_eq, decide_eq_true_eq] at hdigit
  have hle : c.toNat ≤ '9'.toNat := hdigit.2
  exact hbeyond (Nat.lt_of_le_of_lt hle (by decide))

/-- Among the first 128 characters the digits are numbers, and changing case leads from letters and
numbers to letters and numbers, and to digits only from digits. -/
theorem plain_images {c : Char} (hplain : c.toNat < 128) :
    (c.isDigit = true → isAlphanumeric c = true) ∧
    (isAlphanumeric c = true →
      (isAlphanumeric c.toLower = true ∧ c.toLower.isDigit = c.isDigit) ∧
      (isAlphanumeric c.toUpper = true ∧ c.toUpper.isDigit = c.isDigit)) :=
  of_plain (p := fun c => (c.isDigit = true → isAlphanumeric c = true) ∧
    (isAlphanumeric c = true →
      (isAlphanumeric c.toLower = true ∧ c.toLower.isDigit = c.isDigit) ∧
      (isAlphanumeric c.toUpper = true ∧ c.toUpper.isDigit = c.isDigit)))
    (by decide +kernel) hplain

/-- ASCII digits are numbers. -/
theorem isAlphanumeric_of_isDigit {c : Char} (hdigit : c.isDigit = true) :
    isAlphanumeric c = true := by
  have hplain : c.toNat < 128 := by
    apply Decidable.byContradiction
    intro hbeyond
    rw [isDigit_of_beyond hbeyond] at hdigit
    cases hdigit
  exact (plain_images hplain).1 hdigit

/-- The small form of a letter or number starts with one. -/
theorem exists_lowerChar {c : Char} (hc : isAlphanumeric c = true) :
    ∃ d rest, lowerChar c = d :: rest ∧ isAlphanumeric d = true ∧ d.isDigit = c.isDigit := by
  unfold lowerChar
  split
  case isTrue hplain => exact ⟨_, _, rfl, ((plain_images hplain).2 hc).1⟩
  case isFalse hbeyond =>
    rw [isDigit_of_beyond hbeyond]
    exact exists_mapCase (fun run hrun => tables_reach.1 run (List.mem_append_left _ hrun))
      (fun entry hentry => tables_reach.2 entry (List.mem_append_left _ hentry)) hc
      (isDigit_of_beyond hbeyond)

/-- The capital form of a letter or number starts with one. -/
theorem exists_upperChar {c : Char} (hc : isAlphanumeric c = true) :
    ∃ d rest, upperChar c = d :: rest ∧ isAlphanumeric d = true ∧ d.isDigit = c.isDigit := by
  unfold upperChar
  split
  case isTrue hplain => exact ⟨_, _, rfl, ((plain_images hplain).2 hc).2⟩
  case isFalse hbeyond =>
    rw [isDigit_of_beyond hbeyond]
    exact exists_mapCase (fun run hrun => tables_reach.1 run (List.mem_append_right _ hrun))
      (fun entry hentry => tables_reach.2 entry (List.mem_append_right _ hentry)) hc
      (isDigit_of_beyond hbeyond)

end SchemaScaffold.Text
