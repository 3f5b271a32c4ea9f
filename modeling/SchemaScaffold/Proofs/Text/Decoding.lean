import SchemaScaffold.Proofs.Text.Encoding

/-!
# Bytes that are a text

Reading bytes as UTF-8 succeeds exactly for the bytes of a text and gives this text: no character is
read from anything but its own encoding, and no other bytes are accepted, such as longer forms of a
character, surrogates or a character that breaks off.
-/

namespace SchemaScaffold.Text.Utf8

/-- A range of bytes in numbers. -/
theorem between_iff {low high byte : UInt8} :
    (low ≤ byte && byte ≤ high) = true ↔ low.toNat ≤ byte.toNat ∧ byte.toNat ≤ high.toNat := by
  rw [Bool.and_eq_true, decide_eq_true_eq, decide_eq_true_eq, UInt8.le_iff_toNat_le,
    UInt8.le_iff_toNat_le]

/-- A continuation byte in numbers. -/
theorem isContinuation_iff {byte : UInt8} :
    isContinuation byte = true ↔ 0x80 ≤ byte.toNat ∧ byte.toNat ≤ 0xbf := between_iff

/-- A second byte is a continuation byte, and behind two of the first bytes it is narrowed from
below or from above. -/
theorem narrowed_iff {first second least greatest low high : UInt8} (hne : least ≠ greatest)
    (hlow : 0x80 ≤ low.toNat) (hhigh : high.toNat ≤ 0xbf) :
    (if first = least then low ≤ second && second ≤ 0xbf
      else if first = greatest then 0x80 ≤ second && second ≤ high
      else isContinuation second) = true ↔
      (0x80 ≤ second.toNat ∧ second.toNat ≤ 0xbf) ∧
        (first.toNat = least.toNat → low.toNat ≤ second.toNat) ∧
        (first.toNat = greatest.toNat → second.toNat ≤ high.toNat) := by
  simp only [← UInt8.toNat_inj, ne_eq] at hne ⊢
  split
  case isTrue hleast =>
    simp only [between_iff, UInt8.reduceToNat]
    omega
  case isFalse =>
    split
    case isTrue hgreatest =>
      simp only [between_iff, UInt8.reduceToNat]
      omega
    case isFalse =>
      rw [isContinuation_iff]
      omega

/-- The second byte of three in numbers. -/
theorem secondOfThree_iff {first second : UInt8} :
    secondOfThree first second = true ↔
      (0x80 ≤ second.toNat ∧ second.toNat ≤ 0xbf) ∧ (first.toNat = 0xe0 → 0xa0 ≤ second.toNat) ∧
        (first.toNat = 0xed → second.toNat ≤ 0x9f) :=
  narrowed_iff (by decide) (by decide) (by decide)

/-- The second byte of four in numbers. -/
theorem secondOfFour_iff {first second : UInt8} :
    secondOfFour first second = true ↔
      (0x80 ≤ second.toNat ∧ second.toNat ≤ 0xbf) ∧ (first.toNat = 0xf0 → 0x90 ≤ second.toNat) ∧
        (first.toNat = 0xf4 → second.toNat ≤ 0x8f) :=
  narrowed_iff (by decide) (by decide) (by decide)

/-- The bytes from which one character is read, and its code. -/
inductive Forms : Nat → List UInt8 → Prop
  | one {first : UInt8} (hfirst : first.toNat < 0x80) : Forms first.toNat [first]
  | two {first second : UInt8} (hlow : 0xc2 ≤ first.toNat) (hhigh : first.toNat ≤ 0xdf)
      (hsecond : isContinuation second = true) :
      Forms ((first.toNat - 0xc0) * 64 + payload second) [first, second]
  | three {first second third : UInt8} (hlow : 0xe0 ≤ first.toNat) (hhigh : first.toNat ≤ 0xef)
      (hsecond : secondOfThree first second = true) (hthird : isContinuation third = true) :
      Forms ((first.toNat - 0xe0) * 4096 + payload second * 64 + payload third)
        [first, second, third]
  | four {first second third fourth : UInt8}
      (hlow : 0xf0 ≤ first.toNat) (hhigh : first.toNat ≤ 0xf4)
      (hsecond : secondOfFour first second = true) (hthird : isContinuation third = true)
      (hfourth : isContinuation fourth = true) :
      Forms ((first.toNat - 0xf0) * 262144 + payload second * 4096 + payload third * 64 +
        payload fourth) [first, second, third, fourth]

/-- No character is read from nothing. -/
theorem Forms.exists_cons {code : Nat} {bytes : List UInt8} (hforms : Forms code bytes) :
    ∃ first more, bytes = first :: more := by
  cases hforms <;> exact ⟨_, _, rfl⟩

/-- A character is read from its bytes, whatever follows them. -/
theorem Forms.decodeOne {code : Nat} {first : UInt8} {more : List UInt8}
    (hforms : Forms code (first :: more)) (rest : List UInt8) :
    Utf8.decodeOne first (more ++ rest) = (some (Char.ofNat code), more.length) := by
  cases hforms with
  | one hfirst =>
      simp [Utf8.decodeOne, UInt8.lt_iff_toNat_lt, hfirst]
  | two hlow hhigh hsecond =>
      have hone : ¬ first.toNat < 128 := by omega
      simp [Utf8.decodeOne, UInt8.lt_iff_toNat_lt, UInt8.le_iff_toNat_le, hone, hlow, hhigh,
        hsecond]
  | three hlow hhigh hsecond hthird =>
      have hone : ¬ first.toNat < 128 := by omega
      have htwo : ¬ first.toNat ≤ 223 := by omega
      simp [Utf8.decodeOne, UInt8.lt_iff_toNat_lt, UInt8.le_iff_toNat_le, hone, htwo, hlow, hhigh,
        hsecond, hthird]
  | four hlow hhigh hsecond hthird hfourth =>
      have hone : ¬ first.toNat < 128 := by omega
      have htwo : ¬ first.toNat ≤ 223 := by omega
      have hthree : ¬ first.toNat ≤ 239 := by omega
      simp [Utf8.decodeOne, UInt8.lt_iff_toNat_lt, UInt8.le_iff_toNat_le, hone, htwo, hthree, hlow,
        hhigh, hsecond, hthird, hfourth]

/-- What is read as a character is a form of it. -/
theorem forms_of_decodeOne {first : UInt8} {rest : List UInt8} {c : Char} {taken : Nat}
    (hread : Utf8.decodeOne first rest = (some c, taken)) :
    ∃ code more others, Forms code (first :: more) ∧ rest = more ++ others ∧ taken = more.length ∧
      c = Char.ofNat code := by
  revert hread
  fun_cases Utf8.decodeOne first rest with
  | case1 _ hfirst =>
      rintro ⟨⟩
      exact ⟨_, [], rest, .one (UInt8.lt_iff_toNat_lt.mp hfirst), rfl, rfl, rfl⟩
  | case2 _ hfirst second others hsecond =>
      rintro ⟨⟩
      obtain ⟨hlow, hhigh⟩ := between_iff.mp hfirst
      exact ⟨_, [second], others, .two hlow hhigh hsecond, rfl, rfl, rfl⟩
  | case6 _ _ hfirst second hsecond third others hthird =>
      rintro ⟨⟩
      obtain ⟨hlow, hhigh⟩ := between_iff.mp hfirst
      rw [Bool.not_eq_true, Bool.not_eq_false'] at hsecond
      exact ⟨_, [second, third], others, .three hlow hhigh hsecond hthird, rfl, rfl, rfl⟩
  | case12 _ _ _ hfirst second hsecond third hthird fourth others hfourth =>
      rintro ⟨⟩
      obtain ⟨hlow, hhigh⟩ := between_iff.mp hfirst
      rw [Bool.not_eq_true, Bool.not_eq_false'] at hsecond hthird
      exact ⟨_, [second, third, fourth], others, .four hlow hhigh hsecond hthird hfourth, rfl, rfl,
        rfl⟩
  | _ => rintro ⟨⟩

/-- The code of a form is that of a character. -/
theorem Forms.isValidChar {code : Nat} {bytes : List UInt8} (hforms : Forms code bytes) :
    code.isValidChar := by
  unfold Nat.isValidChar
  cases hforms with
  | one hfirst => omega
  | two hlow hhigh hsecond =>
      rw [isContinuation_iff] at hsecond
      unfold payload
      omega
  | three hlow hhigh hsecond hthird =>
      rw [secondOfThree_iff] at hsecond
      rw [isContinuation_iff] at hthird
      unfold payload
      omega
  | four hlow hhigh hsecond hthird hfourth =>
      rw [secondOfFour_iff] at hsecond
      rw [isContinuation_iff] at hthird hfourth
      unfold payload
      omega

/-- The bytes of a form are the encoding of its character. -/
theorem Forms.eq_utf8EncodeChar {c : Char} {bytes : List UInt8} (hforms : Forms c.toNat bytes) :
    bytes = String.utf8EncodeChar c := by
  unfold String.utf8EncodeChar
  have hcode : c.val.toNat = c.toNat := rfl
  generalize c.toNat = code at hforms hcode
  rw [hcode]
  cases hforms with
  | one hfirst =>
      rw [if_pos (by omega), UInt8.ofNat_toNat]
  | two hlow hhigh hsecond =>
      rw [isContinuation_iff] at hsecond
      unfold payload
      rw [if_neg (by omega), if_pos (by omega)]
      simp only [List.cons.injEq, ← UInt8.toNat_inj, UInt8.toNat_ofNat', and_true]
      omega
  | three hlow hhigh hsecond hthird =>
      rw [secondOfThree_iff] at hsecond
      rw [isContinuation_iff] at hthird
      unfold payload
      rw [if_neg (by omega), if_neg (by omega), if_pos (by omega)]
      simp only [List.cons.injEq, ← UInt8.toNat_inj, UInt8.toNat_ofNat', and_true]
      omega
  | four hlow hhigh hsecond hthird hfourth =>
      rw [secondOfFour_iff] at hsecond
      rw [isContinuation_iff] at hthird hfourth
      unfold payload
      rw [if_neg (by omega), if_neg (by omega), if_neg (by omega)]
      simp only [List.cons.injEq, ← UInt8.toNat_inj, UInt8.toNat_ofNat', and_true]
      omega

/-- A small number as a byte. -/
theorem toNat_ofNat_of_lt {value : Nat} (hvalue : value < 256) :
    (UInt8.ofNat value).toNat = value := by
  rw [UInt8.toNat_ofNat']
  exact Nat.mod_eq_of_lt hvalue

/-- The encoding of a character is a form of it. -/
theorem forms_utf8EncodeChar (c : Char) : Forms c.toNat (String.utf8EncodeChar c) := by
  have hvalid : c.toNat.isValidChar := c.valid
  have hcode : c.val.toNat = c.toNat := rfl
  unfold Nat.isValidChar at hvalid
  unfold String.utf8EncodeChar
  rw [hcode]
  generalize c.toNat = code at hvalid
  have hform {other : Nat} {bytes : List UInt8} (hforms : Forms other bytes)
      (hsame : other = code) : Forms code bytes := hsame ▸ hforms
  have htail : code % 0x40 + 0x80 < 256 := by omega
  have hmiddle : code / 64 % 0x40 + 0x80 < 256 := by omega
  have hupper : code / 4096 % 0x40 + 0x80 < 256 := by omega
  dsimp only
  split
  case isTrue hone =>
    have hfirst : code < 256 := by omega
    exact hform (.one (by rw [toNat_ofNat_of_lt hfirst]; omega)) (toNat_ofNat_of_lt hfirst)
  case isFalse hone =>
    split
    case isTrue htwo =>
      have hfirst : code / 64 % 0x20 + 0xc0 < 256 := by omega
      refine hform (.two ?_ ?_ ?_) ?_
      all_goals
        simp only [isContinuation_iff, payload, toNat_ofNat_of_lt, hfirst, htail]
        omega
    case isFalse htwo =>
      split
      case isTrue hthree =>
        have hfirst : code / 4096 % 0x10 + 0xe0 < 256 := by omega
        refine hform (.three ?_ ?_ ?_ ?_) ?_
        all_goals
          simp only [secondOfThree_iff, isContinuation_iff, payload, toNat_ofNat_of_lt, hfirst,
            hmiddle, htail]
          omega
      case isFalse hthree =>
        have hfirst : code / 262144 % 0x08 + 0xf0 < 256 := by omega
        refine hform (.four ?_ ?_ ?_ ?_ ?_) ?_
        all_goals
          simp only [secondOfFour_iff, isContinuation_iff, payload, toNat_ofNat_of_lt, hfirst,
            hupper, hmiddle, htail]
          omega

/-- Skipped bytes do not matter. -/
theorem decodeFrom_eq (skip : Nat) (bytes : List UInt8) :
    decodeFrom skip bytes = decode (bytes.drop skip) := by
  fun_induction decodeFrom skip bytes with
  | case1 skip => rw [List.drop_nil, decode, decodeFrom]
  | case2 first rest skip ih => rw [ih, List.drop_succ_cons]
  | case3 first rest char taken hread ih => rw [List.drop_zero, decode, decodeFrom, hread]

/-- One reading, and what follows it. -/
theorem decode_cons (first : UInt8) (rest : List UInt8) :
    decode (first :: rest) =
      (decodeOne first rest).1 :: decode (rest.drop (decodeOne first rest).2) := by
  rw [← decodeFrom_eq]
  rfl

/-- A character is read off in front of anything. -/
theorem decode_utf8EncodeChar_append (c : Char) (rest : List UInt8) :
    decode (String.utf8EncodeChar c ++ rest) = some c :: decode rest := by
  have hforms := forms_utf8EncodeChar c
  obtain ⟨first, more, hbytes⟩ := hforms.exists_cons
  rw [hbytes] at hforms
  rw [hbytes, List.cons_append, decode_cons, hforms.decodeOne, Char.ofNat_toNat, List.drop_left]

/-- What was encoded is read back. -/
theorem decode_encodeChars (chars : List Char) : decode (encodeChars chars) = chars.map some := by
  induction chars with
  | nil => rfl
  | cons c chars ih =>
      rw [encodeChars, List.flatMap_cons, decode_utf8EncodeChar_append, List.map_cons]
      exact congrArg (some c :: ·) ih

/-- What is read without a defect was encoded. -/
theorem eq_encodeChars_of_decode {bytes : List UInt8} {chars : List Char}
    (hread : decode bytes = chars.map some) : bytes = encodeChars chars := by
  induction chars generalizing bytes with
  | nil =>
      cases bytes with
      | nil => rfl
      | cons first rest =>
          rw [decode_cons] at hread
          cases hread
  | cons c chars ih =>
      cases bytes with
      | nil => cases hread
      | cons first rest =>
          rw [decode_cons, List.map_cons, List.cons.injEq] at hread
          obtain ⟨hchar, hrest⟩ := hread
          have hone : decodeOne first rest = (some c, (decodeOne first rest).2) :=
            Prod.ext hchar rfl
          obtain ⟨code, more, others, hforms, rfl, htaken, hcode⟩ := forms_of_decodeOne hone
          rw [htaken, List.drop_left] at hrest
          have hvalue : c.toNat = code := by
            rw [hcode, Char.ofNat, dif_pos hforms.isValidChar]
            rfl
          have hfirst := (hvalue ▸ hforms).eq_utf8EncodeChar
          rw [encodeChars, List.flatMap_cons, ← hfirst, ← encodeChars, ← ih hrest]
          rfl

/-- The present entries of a list without a missing one. -/
theorem mapM_id_eq_some_iff {entries : List (Option Char)} {chars : List Char} :
    entries.mapM id = some chars ↔ entries = chars.map some := by
  induction entries generalizing chars with
  | nil => cases chars <;> simp
  | cons entry entries ih =>
      cases entry with
      | none => cases chars <;> simp
      | some c =>
          have hmapM : (some c :: entries).mapM id = (entries.mapM id).map (c :: ·) := by
            rw [List.mapM_cons]
            cases entries.mapM id <;> rfl
          rw [hmapM, Option.map_eq_some_iff]
          constructor
          · rintro ⟨rest, hrest, rfl⟩
            rw [ih.mp hrest, List.map_cons]
          · intro hsame
            obtain ⟨first, rest, rfl, hc, hrest⟩ := List.map_eq_cons_iff.mp hsame.symm
            obtain rfl := Option.some.inj hc
            exact ⟨rest, ih.mpr hrest.symm, rfl⟩

/-- Bytes are a text exactly if they are its encoding. -/
theorem text?_eq_some_iff {bytes : List UInt8} {text : String} :
    text? bytes = some text ↔ bytes = encode text := by
  rw [text?, encode_eq, Option.map_eq_some_iff]
  constructor
  · rintro ⟨chars, hchars, rfl⟩
    rw [String.toList_ofList]
    exact eq_encodeChars_of_decode (mapM_id_eq_some_iff.mp hchars)
  · rintro rfl
    exact ⟨text.toList, mapM_id_eq_some_iff.mpr (decode_encodeChars _), String.ofList_toList⟩

end SchemaScaffold.Text.Utf8
