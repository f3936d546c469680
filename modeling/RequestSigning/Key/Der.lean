/-!
# Distinguished encoding

Elements are a tag, a length and a content. Lengths are written in the shortest form, whole numbers
with no superfluous byte; anything else is refused.
-/

namespace RequestSigning.Key

abbrev Bytes := List UInt8

structure Element where
  tag : UInt8
  content : Bytes
  deriving DecidableEq, Repr, Inhabited

namespace Der

def boolTag : UInt8 := 0x01
def integerTag : UInt8 := 0x02
def bitsTag : UInt8 := 0x03
def octetsTag : UInt8 := 0x04
def nullTag : UInt8 := 0x05
def oidTag : UInt8 := 0x06
def utcTimeTag : UInt8 := 0x17
def generalTimeTag : UInt8 := 0x18
def sequenceTag : UInt8 := 0x30
def setTag : UInt8 := 0x31

/-- The number that bytes stand for, the most significant first. -/
def natOf (bytes : Bytes) : Nat := bytes.foldl (fun n b => n * 256 + b.toNat) 0

/-- The bytes of a number, the most significant first, none for zero. -/
def bytesOf : Nat → Nat → Bytes
  | 0, _ => []
  | fuel + 1, n => if n = 0 then [] else bytesOf fuel (n / 256) ++ [UInt8.ofNat (n % 256)]

def natBytes (n : Nat) : Bytes := bytesOf (n.log2 / 8 + 1) n

/-- The bytes of a number, filled with zeros on the left up to `width`. -/
def fixedBytes (width n : Nat) : Bytes :=
  let bytes := natBytes n
  List.replicate (width - bytes.length) 0 ++ bytes

/-! ## Reading -/

def readLength : Bytes → Option (Nat × Bytes)
  | [] => none
  | b :: rest =>
    if b < 0x80 then some (b.toNat, rest)
    else
      let count := b.toNat - 0x80
      let bytes := rest.take count
      if 1 ≤ count && count ≤ 4 && bytes.length = count && bytes.head? ≠ some 0 then
        let n := natOf bytes
        if 0x80 ≤ n then some (n, rest.drop count) else none
      else none

def readElement : Bytes → Option (Element × Bytes)
  | [] => none
  | tag :: rest =>
    if tag &&& 0x1f = 0x1f then none
    else
      match readLength rest with
      | none => none
      | some (n, rest) =>
        if n ≤ rest.length then some (⟨tag, rest.take n⟩, rest.drop n) else none

/-- All elements of a content; `fuel` is more than its bytes. -/
def readElements : Nat → Bytes → Option (List Element)
  | _, [] => some []
  | 0, _ => none
  | fuel + 1, bytes =>
    match readElement bytes with
    | none => none
    | some (e, rest) => (readElements fuel rest).map (e :: ·)

def readSingle (bytes : Bytes) : Option Element :=
  match readElement bytes with
  | some (e, []) => some e
  | _ => none

end Der

namespace Element

open Der

def children? (tag : UInt8) (e : Element) : Option (List Element) :=
  if e.tag = tag then readElements e.content.length e.content else none

def items? (e : Element) : Option (List Element) := e.children? sequenceTag

/-- A content with no superfluous byte in front of its sign. -/
def isMinimal : Bytes → Bool
  | [] => false
  | [_] => true
  | a :: b :: _ => !(a = 0 && b < 0x80) && !(a = 0xff && 0x80 ≤ b)

def isInteger (e : Element) : Bool := e.tag = integerTag && isMinimal e.content

def nat? (e : Element) : Option Nat :=
  if e.isInteger && e.content.headD 0 < 0x80 then some (natOf e.content) else none

def octets? (e : Element) : Option Bytes := if e.tag = octetsTag then some e.content else none

/-- The bytes of a row of bits; unused bits of the last byte are zero. -/
def bits? (e : Element) : Option Bytes :=
  match e.content with
  | [] => none
  | unused :: bytes =>
    if e.tag ≠ bitsTag || 7 < unused then none
    else
      match bytes.getLast? with
      | none => if unused = 0 then some [] else none
      | some last => if last.toNat % Nat.pow 2 unused.toNat = 0 then some bytes else none

/-- Whether each number of an object identifier ends and starts without a superfluous byte. -/
def isIdentifier : Bool → Bytes → Bool
  | fresh, [] => fresh
  | fresh, b :: rest => !(fresh && b = 0x80) && isIdentifier (b < 0x80) rest

def oid? (e : Element) : Option Bytes :=
  if e.tag = oidTag && !e.content.isEmpty && isIdentifier true e.content then some e.content
  else none

def isNull (e : Element) : Bool := e.tag = nullTag && e.content.isEmpty

def isBool (e : Element) : Bool := e.tag = boolTag && (e.content = [0] || e.content = [0xff])

end Element

namespace Der

/-! ## Writing -/

def lengthOf (n : Nat) : Bytes :=
  if n < 0x80 then [UInt8.ofNat n]
  else
    let bytes := natBytes n
    UInt8.ofNat (0x80 + bytes.length) :: bytes

def element (tag : UInt8) (content : Bytes) : Bytes := tag :: lengthOf content.length ++ content

def sequence (parts : List Bytes) : Bytes := element sequenceTag parts.flatten

/-- A whole number; a zero byte is put before a first byte that would read as a sign. -/
def integer (n : Nat) : Bytes :=
  let bytes := natBytes n
  element integerTag (if bytes.isEmpty || 0x80 ≤ bytes.headD 0 then 0 :: bytes else bytes)

def octets (bytes : Bytes) : Bytes := element octetsTag bytes

def bits (bytes : Bytes) : Bytes := element bitsTag (0 :: bytes)

def oid (content : Bytes) : Bytes := element oidTag content

def null : Bytes := element nullTag []

end Der

end RequestSigning.Key
