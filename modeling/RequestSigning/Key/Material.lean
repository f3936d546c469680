import RequestSigning.Key.Curve

/-!
# Keys and certificates

The kinds of keys, how they are written, and how they are read from any of their encodings.
-/

namespace RequestSigning.Key

/-- The kinds of keys that are a row of bytes of fixed length. -/
inductive RawKind
  | ed25519
  | ed448
  | x25519
  | x448
  deriving DecidableEq, Repr

namespace RawKind

def size : RawKind → Nat
  | ed25519 => 32
  | ed448 => 57
  | x25519 => 32
  | x448 => 56

def oid : RawKind → Bytes
  | x25519 => [0x2b, 0x65, 0x6e]
  | x448 => [0x2b, 0x65, 0x6f]
  | ed25519 => [0x2b, 0x65, 0x70]
  | ed448 => [0x2b, 0x65, 0x71]

def name : RawKind → String
  | ed25519 => "Ed25519"
  | ed448 => "Ed448"
  | x25519 => "X25519"
  | x448 => "X448"

def all : List RawKind := [ed25519, ed448, x25519, x448]

def ofOid? (oid : Bytes) : Option RawKind := all.find? fun k => k.oid = oid

end RawKind

structure DsaParameters where
  p : Nat
  q : Nat
  g : Nat
  deriving DecidableEq, Repr

/-- The eight numbers of a private key with two primes. -/
structure RsaNumbers where
  n : Nat
  e : Nat
  d : Nat
  p : Nat
  q : Nat
  dp : Nat
  dq : Nat
  qi : Nat
  deriving DecidableEq, Repr

inductive PrivateKey
  | rsa (numbers : RsaNumbers)
  | ec (curve : Curve) (secret : Nat) (point : Point)
  | dsa (parameters : DsaParameters) (secret : Nat)
  | raw (kind : RawKind) (bytes : Bytes)
  deriving DecidableEq, Repr

inductive PublicKey
  | rsa (n e : Nat)
  | ec (curve : Curve) (point : Point)
  | dsa (parameters : DsaParameters) (y : Nat)
  | raw (kind : RawKind) (bytes : Bytes)
  deriving DecidableEq, Repr

/-- Key material of one of the three kinds; a certificate is kept in its encoding. -/
inductive Material
  | privateKey (k : PrivateKey)
  | publicKey (k : PublicKey)
  | certificate (encoding : Bytes)
  deriving DecidableEq, Repr

def rsaOid : Bytes := [0x2a, 0x86, 0x48, 0x86, 0xf7, 0x0d, 0x01, 0x01, 0x01]

def ecOid : Bytes := [0x2a, 0x86, 0x48, 0xce, 0x3d, 0x02, 0x01]

def dsaOid : Bytes := [0x2a, 0x86, 0x48, 0xce, 0x38, 0x04, 0x01]

/-! ## Writing -/

open Der

def rsaAlgorithm : Bytes := sequence [oid rsaOid, null]

def ecAlgorithm (c : Curve) : Bytes := sequence [oid ecOid, oid c.oid]

def dsaAlgorithm (d : DsaParameters) : Bytes :=
  sequence [oid dsaOid, sequence [integer d.p, integer d.q, integer d.g]]

def rawAlgorithm (k : RawKind) : Bytes := sequence [oid k.oid]

namespace RsaNumbers

def encode (k : RsaNumbers) : Bytes :=
  sequence [integer 0, integer k.n, integer k.e, integer k.d, integer k.p, integer k.q,
    integer k.dp, integer k.dq, integer k.qi]

/-- Whether the numbers belong together: two odd primes with their product, exponents inverse to
each other, and the three numbers that speed up the use of the key. -/
def isSound (k : RsaNumbers) : Bool :=
  let m := Nat.lcm (k.p - 1) (k.q - 1)
  1 < k.e && k.e % 2 = 1 && Modular.isPrime k.p && Modular.isPrime k.q && k.p % 2 = 1 && k.q % 2 = 1
    && k.n = k.p * k.q && k.d * k.e % m = 1 && k.dp = k.d % (k.p - 1) && k.dq = k.d % (k.q - 1)
    && k.q * k.qi % k.p = 1 && k.qi < k.p

end RsaNumbers

namespace PrivateKey

def kindName : PrivateKey → String
  | rsa _ => "RSA"
  | ec .. => "EllipticCurve"
  | dsa .. => "DSA"
  | raw k _ => k.name

/-- The key in the form that tells its algorithm. -/
def encode : PrivateKey → Bytes
  | rsa k => sequence [integer 0, rsaAlgorithm, octets k.encode]
  | ec c secret point =>
    sequence [integer 0, ecAlgorithm c,
      octets (sequence [integer 1, octets (fixedBytes c.size secret),
        element 0xa1 (bits (c.pointBytes point))])]
  | dsa parameters secret => sequence [integer 0, dsaAlgorithm parameters, octets (integer secret)]
  | raw k bytes => sequence [integer 0, rawAlgorithm k, octets (octets bytes)]

end PrivateKey

namespace PublicKey

def kindName : PublicKey → String
  | rsa .. => "RSA"
  | ec .. => "EllipticCurve"
  | dsa .. => "DSA"
  | raw k _ => k.name

def encode : PublicKey → Bytes
  | rsa n e => sequence [rsaAlgorithm, bits (sequence [integer n, integer e])]
  | ec c point => sequence [ecAlgorithm c, bits (c.pointBytes point)]
  | dsa parameters y => sequence [dsaAlgorithm parameters, bits (integer y)]
  | raw k bytes => sequence [rawAlgorithm k, bits bytes]

end PublicKey

/-! ## Reading -/

/-- An algorithm with its parameters. -/
inductive Algorithm
  | rsa
  | ec (c : Curve)
  | dsa (parameters : DsaParameters)
  | raw (k : RawKind)
  deriving DecidableEq, Repr

def readCurve? (e : Element) : Option Curve := do Curve.ofOid? (← e.oid?)

def readDsaParameters? (e : Element) : Option DsaParameters := do
  match ← e.items? with
  | [p, q, g] => some ⟨← p.nat?, ← q.nat?, ← g.nat?⟩
  | _ => none

def readAlgorithm? (e : Element) : Option Algorithm := do
  match ← e.items? with
  | [] => none
  | name :: parameters =>
    let name ← name.oid?
    if name = rsaOid then
      match parameters with
      | [] => some .rsa
      | [p] => if p.isNull then some .rsa else none
      | _ => none
    else if name = ecOid then
      match parameters with
      | [p] => (readCurve? p).map .ec
      | _ => none
    else if name = dsaOid then
      match parameters with
      | [p] => (readDsaParameters? p).map .dsa
      | _ => none
    else if parameters.isEmpty then (RawKind.ofOid? name).map .raw
    else none

def readRsaPrivate? (bytes : Bytes) : Option PrivateKey := do
  match ← (← readSingle bytes).items? with
  | [v, n, e, d, p, q, dp, dq, qi] =>
    if (← v.nat?) = 0 then
      let k : RsaNumbers :=
        ⟨← n.nat?, ← e.nat?, ← d.nat?, ← p.nat?, ← q.nat?, ← dp.nat?, ← dq.nat?, ← qi.nat?⟩
      if k.isSound then some (.rsa k) else none
    else none
  | _ => none

/-- The optional parts of a curve key: elements with two tags in this order, each at most once. -/
def splitTagged (es : List Element) : Option (Option Element × Option Element) :=
  match es with
  | [] => some (none, none)
  | [e] =>
    if e.tag = 0xa0 then some (some e, none) else if e.tag = 0xa1 then some (none, some e) else none
  | [e, f] => if e.tag = 0xa0 && f.tag = 0xa1 then some (some e, some f) else none
  | _ => none

/-- The curve named outside the key or inside; both must agree. -/
def agreeCurve? : Option Curve → Option Curve → Option Curve
  | some a, some b => if a = b then some a else none
  | some a, none => some a
  | none, some b => some b
  | none, none => none

/-- Reads a curve key. A point that is not given is computed, one that is given must belong to the
secret. -/
def readEcPrivate? (outer : Option Curve) (bytes : Bytes) : Option PrivateKey := do
  match ← (← readSingle bytes).items? with
  | version :: secret :: rest =>
    if (← version.nat?) ≠ 1 then none
    else
      let secret := natOf (← secret.octets?)
      let (parameters, point) ← splitTagged rest
      let inner ← match parameters with
        | none => some none
        | some e => do some (some (← readCurve? (← readSingle e.content)))
      let curve ← agreeCurve? outer inner
      let given ← match point with
        | none => some none
        | some e => do some (some (← curve.readPoint? (← (← readSingle e.content).bits?)))
      if secret < curve.order then
        let computed ← curve.mulGenerator? secret
        if given.getD computed = computed then some (.ec curve secret computed) else none
      else none
  | _ => none

def readDsaPrivate? (bytes : Bytes) : Option PrivateKey := do
  match ← (← readSingle bytes).items? with
  | [v, p, q, g, y, x] =>
    if (← v.nat?) = 0 then
      let _ ← y.nat?
      some (.dsa ⟨← p.nat?, ← q.nat?, ← g.nat?⟩ (← x.nat?))
    else none
  | _ => none

def readRaw? (k : RawKind) (bytes : Bytes) : Option Bytes :=
  if bytes.length = k.size then some bytes else none

def readPrivateFor? (a : Algorithm) (bytes : Bytes) : Option PrivateKey :=
  match a with
  | .rsa => readRsaPrivate? bytes
  | .ec c => readEcPrivate? (some c) bytes
  | .dsa parameters => do some (.dsa parameters (← (← readSingle bytes).nat?))
  | .raw k => do some (.raw k (← readRaw? k (← (← readSingle bytes).octets?)))

/-- Reads a private key that tells its algorithm; attributes after it are not kept. -/
def readPrivate? (bytes : Bytes) : Option PrivateKey := do
  match ← (← readSingle bytes).items? with
  | version :: algorithm :: key :: attributes =>
    let plain ← match attributes with
      | [] => some true
      | [e] => (e.children? 0xa0).map fun _ => true
      | _ => none
    if plain && (← version.nat?) = 0 then
      readPrivateFor? (← readAlgorithm? algorithm) (← key.octets?)
    else none
  | _ => none

def readRsaPublic? (bytes : Bytes) : Option PublicKey := do
  match ← (← readSingle bytes).items? with
  | [n, e] => some (.rsa (← n.nat?) (← e.nat?))
  | _ => none

def readPublicFor? (a : Algorithm) (bytes : Bytes) : Option PublicKey :=
  match a with
  | .rsa => readRsaPublic? bytes
  | .ec c => (c.readPoint? bytes).map (.ec c)
  | .dsa parameters => do some (.dsa parameters (← (← readSingle bytes).nat?))
  | .raw k => (readRaw? k bytes).map (.raw k)

def readPublic? (bytes : Bytes) : Option PublicKey := do
  match ← (← readSingle bytes).items? with
  | [algorithm, key] => readPublicFor? (← readAlgorithm? algorithm) (← key.bits?)
  | _ => none

/-- Reads a plain pair of numbers, or the form that tells its algorithm if that is the same one. -/
def readRsaPublicAnyForm? (bytes : Bytes) : Option PublicKey :=
  match readRsaPublic? bytes with
  | some k => some k
  | none =>
    match readPublic? bytes with
    | some (.rsa n e) => some (.rsa n e)
    | _ => none

end RequestSigning.Key
