import RequestSigning.Key.Der

/-!
# The shape of certificates

Which encodings are certificates. Names, times and extensions are checked for their shape only, the
key inside not at all.
-/

namespace RequestSigning.Key.Certificate

open Der

def isAlgorithm (e : Element) : Bool :=
  match e.items? with
  | some [name] => name.oid?.isSome
  | some [name, _] => name.oid?.isSome
  | _ => false

/-- One name with its value. -/
def isAttribute (e : Element) : Bool :=
  match e.items? with
  | some [name, _] => name.oid?.isSome
  | _ => false

/-- Sets of attributes, none of them empty. -/
def isName (e : Element) : Bool :=
  match e.items? with
  | some sets => sets.all fun s =>
      match s.children? setTag with
      | some attributes => !attributes.isEmpty && attributes.all isAttribute
      | none => false
  | none => false

def isDigit (b : UInt8) : Bool := 0x30 ≤ b && b ≤ 0x39

/-- Two digits of year or four, then month, day, hour, minute and second in their ranges, then
`Z`. -/
def isTime (e : Element) : Bool :=
  let width := if e.tag = utcTimeTag then 2 else 4
  let digits := e.content.dropLast
  let pair (i : Nat) : Nat :=
    ((digits.drop (width + 2 * i)).take 2).foldl (fun n b => n * 10 + (b.toNat - 48)) 0
  (e.tag = utcTimeTag || e.tag = generalTimeTag) && e.content.getLast? = some 0x5a
    && digits.length = width + 10 && digits.all isDigit
    && 1 ≤ pair 0 && pair 0 ≤ 12 && 1 ≤ pair 1 && pair 1 ≤ 31 && pair 2 < 24 && pair 3 < 60 &&
      pair 4 < 60

def isValidity (e : Element) : Bool :=
  match e.items? with
  | some [first, last] => isTime first && isTime last
  | _ => false

def isKeyInfo (e : Element) : Bool :=
  match e.items? with
  | some [algorithm, key] => isAlgorithm algorithm && key.bits?.isSome
  | _ => false

/-- A name, a mark that is not written when it is false, and a value. -/
def isExtension (e : Element) : Bool :=
  match e.items? with
  | some [name, value] => name.oid?.isSome && value.octets?.isSome
  | some [name, critical, value] =>
    name.oid?.isSome && critical.isBool && critical.content = [0xff] && value.octets?.isSome
  | _ => false

def isExtensions (e : Element) : Bool :=
  match readSingle e.content with
  | some list =>
    match list.items? with
    | some es => !es.isEmpty && es.all isExtension
    | none => false
  | none => false

/-- The unique identifiers and extensions at the end, in this order, each at most once. -/
def areOptionalParts (es : List Element) : Bool :=
  let (a, es) := match es with
    | e :: rest =>
      if e.tag = 0x81 then (Element.bits? ⟨bitsTag, e.content⟩ |>.isSome, rest) else (true, es)
    | [] => (true, [])
  let (b, es) := match es with
    | e :: rest =>
      if e.tag = 0x82 then (Element.bits? ⟨bitsTag, e.content⟩ |>.isSome, rest) else (true, es)
    | [] => (true, [])
  a && b && match es with
    | [] => true
    | [e] => e.tag = 0xa3 && isExtensions e
    | _ => false

/-- The version, which is the first when it is not written; then the parts behind it. -/
def splitVersion? (es : List Element) : Option (List Element) :=
  match es with
  | e :: rest =>
    if e.tag = 0xa0 then
      match readSingle e.content with
      | some v => if v.nat? = some 2 then some rest else none
      | none => none
    else some es
  | [] => none

def isBody (e : Element) : Bool :=
  match e.items?.bind splitVersion? with
  | some (serial :: algorithm :: issuer :: validity :: subject :: key :: rest) =>
    serial.isInteger && isAlgorithm algorithm && isName issuer && isValidity validity
      && isName subject && isKeyInfo key && areOptionalParts rest
  | _ => false

/-- Whether bytes are a certificate: body, algorithm and signature. -/
def isCertificate (bytes : Bytes) : Bool :=
  match (readSingle bytes).bind Element.items? with
  | some [body, algorithm, signature] =>
    isBody body && isAlgorithm algorithm && signature.bits?.isSome
  | _ => false

end RequestSigning.Key.Certificate
