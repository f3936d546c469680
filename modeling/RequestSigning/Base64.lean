/-!
# Base64

Bytes written as characters of a 64 letter alphabet, three bytes in four characters, with padding at
the end. Reading is strict about the characters and about what may follow padding, but it lets the
unused low bits of the last digit be anything and allows padding after a full group.
-/

namespace RequestSigning.Base64

inductive Error
  | notAscii
  | leadingPadding
  | excessData
  | foreignCharacter
  | discontinuousPadding
  | loneDigit (count : Nat)
  | incompletePadding
  deriving DecidableEq, Repr

def Error.message : Error → String
  | notAscii => "string argument should contain only ASCII characters"
  | leadingPadding => "Leading padding not allowed"
  | excessData => "Excess data after padding"
  | foreignCharacter => "Only base64 data is allowed"
  | discontinuousPadding => "Discontinuous padding not allowed"
  | loneDigit count =>
    "Invalid base64-encoded string: number of data characters (" ++ toString count
      ++ ") cannot be 1 more than a multiple of 4"
  | incompletePadding => "Incorrect padding"

def digit (n : Nat) : Char :=
  if n < 26 then Char.ofNat (65 + n)
  else if n < 52 then Char.ofNat (71 + n)
  else if n < 62 then Char.ofNat (n - 4)
  else if n = 62 then '+'
  else '/'

def value? (c : Char) : Option Nat :=
  if 'A' ≤ c && c ≤ 'Z' then some (c.toNat - 65)
  else if 'a' ≤ c && c ≤ 'z' then some (c.toNat - 71)
  else if '0' ≤ c && c ≤ '9' then some (c.toNat + 4)
  else if c = '+' then some 62
  else if c = '/' then some 63
  else none

/-- Every three bytes become four digits; one or two bytes left over are padded. -/
def encodeChars : List UInt8 → List Char
  | [] => []
  | [a] => [digit (a.toNat / 4), digit (a.toNat % 4 * 16), '=', '=']
  | [a, b] =>
    [digit (a.toNat / 4), digit (a.toNat % 4 * 16 + b.toNat / 16), digit (b.toNat % 16 * 4), '=']
  | a :: b :: c :: rest =>
    digit (a.toNat / 4) :: digit (a.toNat % 4 * 16 + b.toNat / 16)
      :: digit (b.toNat % 16 * 4 + c.toNat / 64) :: digit (c.toNat % 64) :: encodeChars rest

def encode (bytes : List UInt8) : String := String.ofList (encodeChars bytes)

/-- The whole bytes in the digits of one group; spare low bits are dropped. -/
def groupBytes : List Nat → List UInt8
  | [a, b] => [UInt8.ofNat (a * 4 + b / 16)]
  | [a, b, c] => [UInt8.ofNat (a * 4 + b / 16), UInt8.ofNat (b % 16 * 16 + c / 4)]
  | [a, b, c, d] =>
    [UInt8.ofNat (a * 4 + b / 16), UInt8.ofNat (b % 16 * 16 + c / 4), UInt8.ofNat (c % 4 * 64 + d)]
  | _ => []

/-- Where a reader stands: bytes of the full groups, digits of the group begun, padding seen in it,
and whether there was padding at all. -/
structure Reader where
  done : List UInt8
  group : List Nat
  pads : Nat
  padded : Bool

namespace Reader

def push (r : Reader) (v : Nat) : Reader :=
  let group := r.group ++ [v]
  if group.length = 4 then ⟨r.done ++ groupBytes group, [], 0, r.padded⟩
  else ⟨r.done, group, 0, r.padded⟩

/-- Takes one padding character; it counts only where two digits or more stand before it. -/
def pad (r : Reader) : Reader :=
  { r with pads := if 2 ≤ r.group.length then r.pads + 1 else r.pads, padded := true }

def isFull (r : Reader) : Bool := 2 ≤ r.group.length && 4 ≤ r.group.length + r.pads

def finish (r : Reader) : Except Error (List UInt8) :=
  match r.group with
  | [] => .ok r.done
  | [_] => .error (.loneDigit (r.done.length / 3 * 4 + 1))
  | _ => .error .incompletePadding

def run (r : Reader) : List Char → Except Error (List UInt8)
  | [] => r.finish
  | c :: rest =>
    if c = '=' then
      if r.pad.isFull then
        if rest.isEmpty then .ok (r.done ++ groupBytes r.group) else .error .excessData
      else run r.pad rest
    else
      match value? c with
      | none => .error .foreignCharacter
      | some v => if r.padded then .error .discontinuousPadding else run (r.push v) rest

end Reader

def decodeChars (cs : List Char) : Except Error (List UInt8) :=
  if cs.any (fun c => 0x80 ≤ c.toNat) then .error .notAscii
  else if cs.head? = some '=' then .error .leadingPadding
  else Reader.run ⟨[], [], 0, false⟩ cs

def decode (s : String) : Except Error (List UInt8) := decodeChars s.toList

/-- Reads only the one text that `encode` writes for some bytes. -/
def decodeCanonical? (cs : List Char) : Option (List UInt8) :=
  match decodeChars cs with
  | .ok bytes => if encodeChars bytes = cs then some bytes else none
  | .error _ => none

end RequestSigning.Base64
