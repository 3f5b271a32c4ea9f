/-!
# Texts as bytes

Bytes that are meant as UTF-8 are read one character at a time. Where no character starts, or one
breaks off, the longest stretch that could still have become a character is taken as one defect,
so that bytes with defects can be shown with a mark for each of them.
-/

namespace SchemaScaffold.Text.Utf8

/-- The bytes of a text. -/
def encode (text : String) : List UInt8 := text.toUTF8.toList

/-- Whether a byte can only continue a character. -/
def isContinuation (byte : UInt8) : Bool := 0x80 ≤ byte && byte ≤ 0xbf

/-- The payload of a continuation byte. -/
def payload (byte : UInt8) : Nat := byte.toNat % 64

/-- The second byte of a character of three bytes, after its first. Shorter forms and surrogates
are kept out. -/
def secondOfThree (first second : UInt8) : Bool :=
  if first = 0xe0 then 0xa0 ≤ second && second ≤ 0xbf
  else if first = 0xed then 0x80 ≤ second && second ≤ 0x9f
  else isContinuation second

/-- The second byte of a character of four bytes, after its first. -/
def secondOfFour (first second : UInt8) : Bool :=
  if first = 0xf0 then 0x90 ≤ second && second ≤ 0xbf
  else if first = 0xf4 then 0x80 ≤ second && second ≤ 0x8f
  else isContinuation second

/-- The first character, or a defect, and how many bytes behind the first one it takes. -/
def decodeOne (first : UInt8) (rest : List UInt8) : Option Char × Nat :=
  if first < 0x80 then (some (Char.ofNat first.toNat), 0)
  else if 0xc2 ≤ first && first ≤ 0xdf then
    match rest with
    | second :: _ =>
      if isContinuation second then
        (some (Char.ofNat ((first.toNat - 0xc0) * 64 + payload second)), 1)
      else (none, 0)
    | [] => (none, 0)
  else if 0xe0 ≤ first && first ≤ 0xef then
    match rest with
    | second :: others =>
      if !secondOfThree first second then (none, 0)
      else
        match others with
        | third :: _ =>
          if isContinuation third then
            (some (Char.ofNat
              ((first.toNat - 0xe0) * 4096 + payload second * 64 + payload third)), 2)
          else (none, 1)
        | [] => (none, 1)
    | [] => (none, 0)
  else if 0xf0 ≤ first && first ≤ 0xf4 then
    match rest with
    | second :: others =>
      if !secondOfFour first second then (none, 0)
      else
        match others with
        | third :: others =>
          if !isContinuation third then (none, 1)
          else
            match others with
            | fourth :: _ =>
              if isContinuation fourth then
                (some (Char.ofNat ((first.toNat - 0xf0) * 262144 + payload second * 4096 +
                  payload third * 64 + payload fourth)), 3)
              else (none, 2)
            | [] => (none, 2)
        | [] => (none, 1)
    | [] => (none, 0)
  else (none, 0)

/-- Read bytes after skipping the ones that belong to the character before. -/
def decodeFrom : Nat → List UInt8 → List (Option Char)
  | _, [] => []
  | skip + 1, _ :: rest => decodeFrom skip rest
  | 0, first :: rest =>
    let (char, taken) := decodeOne first rest
    char :: decodeFrom taken rest

/-- The characters and defects of some bytes. -/
def decode (bytes : List UInt8) : List (Option Char) := decodeFrom 0 bytes

/-- The text of some bytes, if they have no defect. -/
def text? (bytes : List UInt8) : Option String :=
  (decode bytes).mapM id |>.map String.ofList

/-- The bytes as a text with a mark in place of each defect. -/
def shown (bytes : List UInt8) : String :=
  String.ofList ((decode bytes).map (·.getD '\ufffd'))

end SchemaScaffold.Text.Utf8
