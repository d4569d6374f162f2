/-!
# Texts as bytes

A text is stored in UTF-8.  Reading is forgiving: wherever the bytes are not the
encoding of a character, the longest start of an encoding that stands there (at
least one byte) is read as one replacement character.
-/

namespace OpcodeTables.Utf8

def encodeChars (text : List Char) : List UInt8 :=
  text.flatMap String.utf8EncodeChar

/-- The bytes of a text. -/
def encode (text : String) : List UInt8 := encodeChars text.toList

/-- What is read in place of bytes that are no character. -/
def replacement : Char := '\uFFFD'

/-- What the first byte of a longer encoding promises: the bounds of the second
byte, and how many bytes follow that one. -/
structure Lead where
  least : UInt8
  greatest : UInt8
  more : Nat

/-- Overlong forms, surrogates and values above the last code point are excluded
by the bounds of the second byte. -/
def lead? (first : UInt8) : Option Lead :=
  if first < 0xC2 then none
  else if first < 0xE0 then some ⟨0x80, 0xBF, 0⟩
  else if first = 0xE0 then some ⟨0xA0, 0xBF, 1⟩
  else if first < 0xED then some ⟨0x80, 0xBF, 1⟩
  else if first = 0xED then some ⟨0x80, 0x9F, 1⟩
  else if first < 0xF0 then some ⟨0x80, 0xBF, 1⟩
  else if first = 0xF0 then some ⟨0x90, 0xBF, 2⟩
  else if first < 0xF4 then some ⟨0x80, 0xBF, 2⟩
  else if first = 0xF4 then some ⟨0x80, 0x8F, 2⟩
  else none

def isContinuation (byte : UInt8) : Bool := 0x80 ≤ byte && byte ≤ 0xBF

/-- The low six bits of a continuation byte. -/
def payload (byte : UInt8) : Nat := byte.toNat % 64

/-- The characters that a sequence of bytes is read as. -/
def decodeChars : List UInt8 → List Char
  | [] => []
  | first :: behindFirst =>
    if first < 0x80 then Char.ofNat first.toNat :: decodeChars behindFirst
    else
      match lead? first, behindFirst with
      | none, behindFirst => replacement :: decodeChars behindFirst
      | some _, [] => [replacement]
      | some lead, second :: behindSecond =>
        if second < lead.least ∨ lead.greatest < second then
          replacement :: decodeChars (second :: behindSecond)
        else if lead.more = 0 then
          Char.ofNat (first.toNat % 32 * 64 + payload second) :: decodeChars behindSecond
        else
          match behindSecond with
          | [] => [replacement]
          | third :: behindThird =>
            if isContinuation third = false then
              replacement :: decodeChars (third :: behindThird)
            else if lead.more = 1 then
              Char.ofNat (first.toNat % 16 * 4096 + payload second * 64 + payload third)
                :: decodeChars behindThird
            else
              match behindThird with
              | [] => [replacement]
              | fourth :: behindFourth =>
                if isContinuation fourth = false then
                  replacement :: decodeChars (fourth :: behindFourth)
                else
                  Char.ofNat (first.toNat % 8 * 262144 + payload second * 4096
                      + payload third * 64 + payload fourth)
                    :: decodeChars behindFourth

/-- The text that a sequence of bytes is read as, whatever bytes they are. -/
def decode (bytes : List UInt8) : String := String.ofList (decodeChars bytes)

end OpcodeTables.Utf8
