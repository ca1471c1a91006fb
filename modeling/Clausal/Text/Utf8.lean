/-!
# UTF-8

Texts are written as one to four bytes a character and read back strictly: no byte that
cannot begin a character, no continuation byte out of its range, no shorter form, no
surrogate and no character cut off at the end is accepted.  A fault tells the bytes of
the character as far as they are right.
-/

namespace Clausal.Text.Utf8

/-- The bytes of a text. -/
def encode (text : List Char) : List UInt8 := text.flatMap String.utf8EncodeChar

/-- What is wrong with the bytes at a place. -/
inductive Reason where
  | startByte
  | continuationByte
  | endOfData
  deriving DecidableEq, Repr

/-- Bytes that are no character: their place, the first of them and their number. -/
structure Fault where
  reason : Reason
  position : Nat
  first : UInt8
  count : Nat
  deriving DecidableEq, Repr

/-- The wording of a reason. -/
def Reason.message : Reason → String
  | .startByte => "invalid start byte"
  | .continuationByte => "invalid continuation byte"
  | .endOfData => "unexpected end of data"

/-- The wording of a fault: a single byte is quoted, of several the places are told. -/
def Fault.message (fault : Fault) : String :=
  let value := fault.first.toNat
  let place :=
    if fault.count = 1 then
      "byte 0x" ++ String.ofList [Nat.digitChar (value / 16), Nat.digitChar (value % 16)] ++
        " in position " ++ toString fault.position
    else
      "bytes in position " ++ toString fault.position ++ "-" ++
        toString (fault.position + fault.count - 1)
  "'utf-8' codec can't decode " ++ place ++ ": " ++ fault.reason.message

/-- Whether a byte may continue a character. -/
def isContinuation (byte : UInt8) : Bool := 0x80 ≤ byte && byte < 0xc0

/-- The six bits that a continuation byte carries. -/
def payload (byte : UInt8) : Nat := byte.toNat % 64

/-- Whether a byte may come second after the first byte of a longer form.  The bounds
leave out shorter forms, surrogates and what is beyond the last code point. -/
def isSecond (first byte : UInt8) : Bool :=
  isContinuation byte &&
    (if first = 0xe0 then 0xa0 ≤ byte
      else if first = 0xed then byte < 0xa0
      else if first = 0xf0 then 0x90 ≤ byte
      else if first = 0xf4 then byte < 0x90
      else true)

/-- The text of bytes whose first has the given position. -/
def decodeFrom (position : Nat) : List UInt8 → Except Fault (List Char)
  | [] => .ok []
  | first :: rest =>
    if first < 0x80 then
      (Char.ofNat first.toNat :: ·) <$> decodeFrom (position + 1) rest
    else if first < 0xc2 ∨ 0xf4 < first then .error ⟨.startByte, position, first, 1⟩
    else
      match rest with
      | [] => .error ⟨.endOfData, position, first, 1⟩
      | second :: rest =>
        if !isSecond first second then .error ⟨.continuationByte, position, first, 1⟩
        else if first < 0xe0 then
          (Char.ofNat (first.toNat % 32 * 64 + payload second) :: ·) <$>
            decodeFrom (position + 2) rest
        else
          match rest with
          | [] => .error ⟨.endOfData, position, first, 2⟩
          | third :: rest =>
            if !isContinuation third then .error ⟨.continuationByte, position, first, 2⟩
            else if first < 0xf0 then
              (Char.ofNat ((first.toNat % 16 * 64 + payload second) * 64 + payload third) :: ·) <$>
                decodeFrom (position + 3) rest
            else
              match rest with
              | [] => .error ⟨.endOfData, position, first, 3⟩
              | fourth :: rest =>
                if !isContinuation fourth then .error ⟨.continuationByte, position, first, 3⟩
                else
                  (Char.ofNat (((first.toNat % 8 * 64 + payload second) * 64 + payload third) * 64 +
                    payload fourth) :: ·) <$> decodeFrom (position + 4) rest

/-- The text of bytes. -/
def decode (bytes : List UInt8) : Except Fault (List Char) := decodeFrom 0 bytes

/-! A fault tells how much of the character is right. -/

example : (decode [0x41, 0xe2, 0x82, 0x28]).mapError Fault.message =
    .error "'utf-8' codec can't decode bytes in position 1-2: invalid continuation byte" := rfl

example : (decode [0xf4, 0x90, 0x80, 0x80]).mapError Fault.message =
    .error "'utf-8' codec can't decode byte 0xf4 in position 0: invalid continuation byte" := rfl

example : (decode [0xf0, 0x9f, 0x98]).mapError Fault.message =
    .error "'utf-8' codec can't decode bytes in position 0-2: unexpected end of data" := rfl

end Clausal.Text.Utf8
