import DynLisp.Text.Hex

/-!
# Strict UTF-8

A file is decoded strictly: overlong forms, surrogates and values above U+10FFFF are refused.  The
first byte of a character says how many tail bytes are owed and between which bounds the first of
them lies, and the error names the longest stretch that could still have begun a character.
-/

namespace DynLisp
namespace Text
namespace Utf8

/-- Why a stretch of bytes is no character. -/
inductive Fault where
  /-- No character starts with this byte. -/
  | invalidStart
  /-- A tail byte is owed and another byte stands there. -/
  | invalidContinuation
  /-- A tail byte is owed and the data are at their end. -/
  | unexpectedEnd
deriving DecidableEq, Repr

/-- The wording of a fault. -/
def Fault.text : Fault → String
  | .invalidStart => "invalid start byte"
  | .invalidContinuation => "invalid continuation byte"
  | .unexpectedEnd => "unexpected end of data"

/-- A stretch of bytes that is no character. -/
structure DecodeError where
  /-- First byte of the stretch. -/
  byte : UInt8
  /-- Offset of the first byte in the data. -/
  offset : Nat
  /-- Number of bytes in the stretch. -/
  length : Nat
  /-- What is wrong with it. -/
  fault : Fault
deriving DecidableEq, Repr

/-- The wording of a decoding error.  A stretch of one byte is shown, a longer one only located. -/
def DecodeError.text (error : DecodeError) : String :=
  let place :=
    if error.length = 1 then
      "byte 0x" ++ String.ofList (hexDigits 2 error.byte.toNat) ++ " in position " ++
        error.offset.repr
    else
      "bytes in position " ++ error.offset.repr ++ "-" ++ (error.offset + error.length - 1).repr
  "'utf-8' codec can't decode " ++ place ++ ": " ++ error.fault.text

/-- What the first byte of a character of several bytes announces. -/
structure Lead where
  /-- Number of tail bytes. -/
  tails : Nat
  /-- Least value of the first tail byte. -/
  low : Nat
  /-- Greatest value of the first tail byte. -/
  high : Nat
  /-- Payload bits of the first byte. -/
  payload : Nat

/-- The announcement of a first byte above 0x7F, if a character can start with it. -/
def lead? (byte : Nat) : Option Lead :=
  if byte < 0xC2 then none
  else if byte < 0xE0 then some ⟨1, 0x80, 0xBF, byte - 0xC0⟩
  else if byte = 0xE0 then some ⟨2, 0xA0, 0xBF, 0⟩
  else if byte = 0xED then some ⟨2, 0x80, 0x9F, 0xD⟩
  else if byte < 0xF0 then some ⟨2, 0x80, 0xBF, byte - 0xE0⟩
  else if byte = 0xF0 then some ⟨3, 0x90, 0xBF, 0⟩
  else if byte = 0xF4 then some ⟨3, 0x80, 0x8F, 4⟩
  else if byte < 0xF4 then some ⟨3, 0x80, 0xBF, byte - 0xF0⟩
  else none

/-- The tail bytes at the front of the data, at most as many as are owed. -/
def tailBytes : Nat → Nat → Nat → List UInt8 → List UInt8
  | 0, _, _, _ => []
  | _ + 1, _, _, [] => []
  | owed + 1, low, high, byte :: rest =>
      if low ≤ byte.toNat ∧ byte.toNat ≤ high then
        byte :: tailBytes owed 0x80 0xBF rest
      else
        []

/-- The code point with the given payload of the first byte and tail bytes. -/
def codePoint (payload : Nat) (tails : List UInt8) : Nat :=
  tails.foldl (fun value byte => value * 64 + (byte.toNat - 0x80)) payload

/-- Decodes data whose first byte stands at the given offset. -/
def decodeFrom (offset : Nat) (data : List UInt8) : Except DecodeError (List Char) :=
  match data with
  | [] => .ok []
  | byte :: rest =>
      if byte.toNat < 0x80 then
        (decodeFrom (offset + 1) rest).map (Char.ofNat byte.toNat :: ·)
      else
        match lead? byte.toNat with
        | none => .error ⟨byte, offset, 1, .invalidStart⟩
        | some lead =>
            let tails := tailBytes lead.tails lead.low lead.high rest
            if tails.length = lead.tails then
              (decodeFrom (offset + 1 + lead.tails) (rest.drop lead.tails)).map
                (Char.ofNat (codePoint lead.payload tails) :: ·)
            else if tails.length = rest.length then
              .error ⟨byte, offset, 1 + tails.length, .unexpectedEnd⟩
            else
              .error ⟨byte, offset, 1 + tails.length, .invalidContinuation⟩
termination_by data.length
decreasing_by
  · simp
  · simp only [List.length_drop, List.length_cons]
    omega

/-- Decodes the whole of some data, or names the first stretch that is no character. -/
def decode (data : List UInt8) : Except DecodeError (List Char) :=
  decodeFrom 0 data

end Utf8
end Text
end DynLisp
