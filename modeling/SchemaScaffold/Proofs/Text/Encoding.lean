import Mathlib.Algebra.Group.Nat.Defs
import SchemaScaffold.Text.Utf8

/-!
# The order of texts by their bytes

The bytes of a text are those of its characters one after another, so texts that begin alike are
ordered by what follows, and numbers that are filled up with zeros to one width are ordered like
their values.
-/

namespace SchemaScaffold.Text.Utf8

/-- The bytes of characters. -/
def encodeChars (chars : List Char) : List UInt8 := chars.flatMap String.utf8EncodeChar

/-- Bytes are read off one by one. -/
theorem toList_loop (bytes : ByteArray) (i : Nat) (read : List UInt8) :
    ByteArray.toList.loop bytes i read = read.reverse ++ bytes.data.toList.drop i := by
  fun_induction ByteArray.toList.loop bytes i read with
  | case1 i read hmore ih =>
      have hbound : i < bytes.data.toList.length := by simpa using hmore
      rw [ih, List.drop_eq_getElem_cons hbound]
      simp [ByteArray.get!, hmore]
  | case2 i read hdone =>
      rw [List.drop_eq_nil_of_le (by simpa using Nat.le_of_not_lt hdone), List.append_nil]

/-- The bytes of a text are those of its characters. -/
theorem encode_eq (text : String) : encode text = encodeChars text.toList := by
  have hbytes : text.toByteArray = (encodeChars text.toList).toByteArray := by
    rw [← String.ofList_toList (s := text), String.toByteArray_ofList, String.toList_ofList]
    rfl
  rw [encode, String.toUTF8_eq_toByteArray, hbytes, ByteArray.toList, toList_loop,
    List.toList_data_toByteArray]
  rfl

/-- Characters one after the other. -/
theorem encodeChars_append (first second : List Char) :
    encodeChars (first ++ second) = encodeChars first ++ encodeChars second :=
  List.flatMap_append

/-- The digits of a number, filled up with zeros or cut to a width. -/
def padded : Nat → Nat → List Char
  | 0, _ => []
  | width + 1, value => padded width (value / 10) ++ [Nat.digitChar (value % 10)]

/-- A number that fits into a width is filled up with zeros. -/
theorem padded_eq {width value : Nat} (hfits : value < 10 ^ (width + 1)) :
    padded (width + 1) value =
      List.replicate (width + 1 - (Nat.toDigits 10 value).length) '0' ++ Nat.toDigits 10 value := by
  induction width generalizing value with
  | zero =>
      have hsmall : value < 10 := by simpa using hfits
      rw [Nat.toDigits_of_lt_base hsmall, padded, padded, Nat.mod_eq_of_lt hsmall]
      rfl
  | succ width ih =>
      have hrest : value / 10 < 10 ^ (width + 1) := by omega
      rw [padded, ih hrest]
      by_cases hsmall : value < 10
      · rw [Nat.div_eq_of_lt hsmall, Nat.mod_eq_of_lt hsmall, Nat.toDigits_of_lt_base hsmall,
          Nat.toDigits_zero]
        simp [List.replicate_succ', List.append_assoc]
      · rw [Nat.toDigits_of_base_le (by decide) (Nat.le_of_not_lt hsmall)]
        simp

/-- A smaller digit comes first. -/
theorem digit_lt {first second : Nat} (hlt : first < second) (hsecond : second < 10)
    (rest others : List UInt8) :
    encodeChars [Nat.digitChar first] ++ rest < encodeChars [Nat.digitChar second] ++ others := by
  have hbyte : ∀ digit < 10, encodeChars [Nat.digitChar digit] = [UInt8.ofNat (48 + digit)] := by
    decide
  rw [hbyte first (Nat.lt_trans hlt hsecond), hbyte second hsecond]
  apply List.cons_lt_cons_iff.mpr
  left
  simp [UInt8.lt_iff_toNat_lt]
  omega

/-- A smaller number of the same width comes first, whatever follows. -/
theorem padded_lt {width first second : Nat} (hlt : first < second)
    (hsecond : second < 10 ^ width) (rest others : List UInt8) :
    encodeChars (padded width first) ++ rest < encodeChars (padded width second) ++ others := by
  induction width generalizing first second rest others with
  | zero => omega
  | succ width ih =>
      simp only [padded, encodeChars_append, List.append_assoc]
      rcases Nat.lt_or_ge (first / 10) (second / 10) with hfront | hfront
      · exact ih hfront (by omega) _ _
      · have hsame : first / 10 = second / 10 := by omega
        rw [hsame]
        apply List.append_left_lt
        exact digit_lt (by omega) (Nat.mod_lt _ (by decide)) rest others

end SchemaScaffold.Text.Utf8
