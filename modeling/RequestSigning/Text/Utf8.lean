/-!
# UTF-8

Encoding of texts, and strict decoding that says which byte stops it and why.
-/

namespace RequestSigning.Text

def utf8EncodeChar (c : Char) : List UInt8 := (String.singleton c).toUTF8.toList

def utf8Encode (s : String) : List UInt8 := s.toUTF8.toList

inductive Utf8Fault
  | invalidStart
  | invalidContinuation
  | unexpectedEnd
  deriving DecidableEq, Repr

/-- The bytes from `first` to `last`, counted from 0, are no UTF-8 text; `byte` is the first of
them. -/
structure Utf8Error where
  first : Nat
  last : Nat
  byte : UInt8
  fault : Utf8Fault
  deriving DecidableEq, Repr

/-- What a leading byte announces: the bits it holds, the continuation bytes to come, and the
range of the first of these. -/
structure Utf8Lead where
  bits : Nat
  more : Nat
  low : UInt8
  high : UInt8

def utf8Lead (b : UInt8) : Option Utf8Lead :=
  if b < 0x80 then some ⟨b.toNat, 0, 0x80, 0xbf⟩
  else if b < 0xc2 then none
  else if b < 0xe0 then some ⟨b.toNat - 0xc0, 1, 0x80, 0xbf⟩
  else if b = 0xe0 then some ⟨0, 2, 0xa0, 0xbf⟩
  else if b = 0xed then some ⟨0xd, 2, 0x80, 0x9f⟩
  else if b < 0xf0 then some ⟨b.toNat - 0xe0, 2, 0x80, 0xbf⟩
  else if b = 0xf0 then some ⟨0, 3, 0x90, 0xbf⟩
  else if b < 0xf4 then some ⟨b.toNat - 0xf0, 3, 0x80, 0xbf⟩
  else if b = 0xf4 then some ⟨4, 3, 0x80, 0x8f⟩
  else none

/-- Reads `more` continuation bytes, the next of them between `low` and `high`; a failure tells how
many were good and whether the bytes ended. -/
def utf8Continue :
    Nat → UInt8 → UInt8 → Nat → List UInt8 → Nat → Except (Nat × Utf8Fault) (Nat × List UInt8)
  | 0, _, _, bits, rest, _ => .ok (bits, rest)
  | _ + 1, _, _, _, [], good => .error (good, .unexpectedEnd)
  | more + 1, low, high, bits, b :: rest, good =>
    if low ≤ b && b ≤ high then
      utf8Continue more 0x80 0xbf (bits * 64 + (b.toNat - 0x80)) rest (good + 1)
    else .error (good, .invalidContinuation)

/-- Decodes at most `fuel` characters of the bytes from position `at` on. -/
def utf8DecodeFrom : Nat → Nat → List UInt8 → Except Utf8Error (List Char)
  | 0, _, _ => .ok []
  | _ + 1, _, [] => .ok []
  | fuel + 1, position, b :: rest =>
    match utf8Lead b with
    | none => .error ⟨position, position, b, .invalidStart⟩
    | some lead =>
      match utf8Continue lead.more lead.low lead.high lead.bits rest 0 with
      | .error (good, fault) => .error ⟨position, position + good, b, fault⟩
      | .ok (code, rest) =>
        (utf8DecodeFrom fuel (position + 1 + lead.more) rest).map (Char.ofNat code :: ·)

def utf8Decode (bytes : List UInt8) : Except Utf8Error String :=
  (utf8DecodeFrom bytes.length 0 bytes).map String.ofList

end RequestSigning.Text
