import RequestSigning.Key.Der
import RequestSigning.Key.Modular

/-!
# Elliptic curves

Points of curves `y ^ 2 = x ^ 3 + a x + b` over a prime field, for the curves that keys may name.
-/

namespace RequestSigning.Key

/-- A curve by its object identifier, with its generator and the generator's order. -/
structure Curve where
  oid : Bytes
  /-- Length of a coordinate in bytes. -/
  size : Nat
  p : Nat
  a : Nat
  b : Nat
  gx : Nat
  gy : Nat
  order : Nat
  deriving DecidableEq, Repr

namespace Curve

/-- The number of these words of 256 bits, the highest first. -/
def words (ws : List Nat) : Nat := ws.foldl (fun n w => n <<< 256 ||| w) 0

def p256 : Curve :=
  { oid := [0x2a, 0x86, 0x48, 0xce, 0x3d, 0x03, 0x01, 0x07]
    size := 32
    p := 0xffffffff00000001000000000000000000000000ffffffffffffffffffffffff
    a := 0xffffffff00000001000000000000000000000000fffffffffffffffffffffffc
    b := 0x5ac635d8aa3a93e7b3ebbd55769886bc651d06b0cc53b0f63bce3c3e27d2604b
    gx := 0x6b17d1f2e12c4247f8bce6e563a440f277037d812deb33a0f4a13945d898c296
    gy := 0x4fe342e2fe1a7f9b8ee7eb4a7c0f9e162bce33576b315ececbb6406837bf51f5
    order := 0xffffffff00000000ffffffffffffffffbce6faada7179e84f3b9cac2fc632551 }

def p384 : Curve :=
  { oid := [0x2b, 0x81, 0x04, 0x00, 0x22]
    size := 48
    p := words [0xffffffffffffffffffffffffffffffff,
      0xfffffffffffffffffffffffffffffffeffffffff0000000000000000ffffffff]
    a := words [0xffffffffffffffffffffffffffffffff,
      0xfffffffffffffffffffffffffffffffeffffffff0000000000000000fffffffc]
    b := words [0xb3312fa7e23ee7e4988e056be3f82d19,
      0x181d9c6efe8141120314088f5013875ac656398d8a2ed19d2a85c8edd3ec2aef]
    gx := words [0xaa87ca22be8b05378eb1c71ef320ad74,
      0x6e1d3b628ba79b9859f741e082542a385502f25dbf55296c3a545e3872760ab7]
    gy := words [0x3617de4a96262c6f5d9e98bf9292dc29,
      0xf8f41dbd289a147ce9da3113b5f0b8c00a60b1ce1d7e819d7a431d7c90ea0e5f]
    order := words [0xffffffffffffffffffffffffffffffff,
      0xffffffffffffffffc7634d81f4372ddf581a0db248b0a77aecec196accc52973] }

def p521 : Curve :=
  { oid := [0x2b, 0x81, 0x04, 0x00, 0x23]
    size := 66
    p := Nat.pow 2 521 - 1
    a := Nat.pow 2 521 - 4
    b := words [0x0051, 0x953eb9618e1c9a1f929a21a0b68540eea2da725b99b315f3b8b489918ef109e1,
      0x56193951ec7e937b1652c0bd3bb1bf073573df883d2c34f1ef451fd46b503f00]
    gx := words [0x00c6, 0x858e06b70404e9cd9e3ecb662395b4429c648139053fb521f828af606b4d3dba,
      0xa14b5e77efe75928fe1dc127a2ffa8de3348b3c1856a429bf97e7e31c2e5bd66]
    gy := words [0x0118, 0x39296a789a3bc0045c8a5fb42c7d1bd998f54449579b446817afbd17273e662c,
      0x97ee72995ef42640c550b9013fad0761353c7086a272c24088be94769fd16650]
    order := words [0x01ffff, 0xfffffffffffffffffffffffffffffffffffffffffffffffffffffffffffffffa,
      0x51868783bf2f966b7fcc0148f709a5d03bb5c9b8899c47aebb6fb71e91386409] }

def k256 : Curve :=
  { oid := [0x2b, 0x81, 0x04, 0x00, 0x0a]
    size := 32
    p := 0xfffffffffffffffffffffffffffffffffffffffffffffffffffffffefffffc2f
    a := 0
    b := 7
    gx := 0x79be667ef9dcbbac55a06295ce870b07029bfcdb2dce28d959f2815b16f81798
    gy := 0x483ada7726a3c4655da4fbfc0e1108a8fd17b448a68554199c47d08ffb10d4b8
    order := 0xfffffffffffffffffffffffffffffffebaaedce6af48a03bbfd25e8cd0364141 }

def p192 : Curve :=
  { oid := [0x2a, 0x86, 0x48, 0xce, 0x3d, 0x03, 0x01, 0x01]
    size := 24
    p := 0xfffffffffffffffffffffffffffffffeffffffffffffffff
    a := 0xfffffffffffffffffffffffffffffffefffffffffffffffc
    b := 0x64210519e59c80e70fa7e9ab72243049feb8deecc146b9b1
    gx := 0x188da80eb03090f67cbf20eb43a18800f4ff0afd82ff1012
    gy := 0x7192b95ffc8da78631011ed6b24cdd573f977a11e794811
    order := 0xffffffffffffffffffffffff99def836146bc9b1b4d22831 }

def p224 : Curve :=
  { oid := [0x2b, 0x81, 0x04, 0x00, 0x21]
    size := 28
    p := 0xffffffffffffffffffffffffffffffff000000000000000000000001
    a := 0xfffffffffffffffffffffffffffffffefffffffffffffffffffffffe
    b := 0xb4050a850c04b3abf54132565044b0b7d7bfd8ba270b39432355ffb4
    gx := 0xb70e0cbd6bb4bf7f321390b94a03c1d356c21122343280d6115c1d21
    gy := 0xbd376388b5f723fb4c22dfe6cd4375a05a07476444d5819985007e34
    order := 0xffffffffffffffffffffffffffff16a2e0b8f03e13dd29455c5c2a3d }

def b256 : Curve :=
  { oid := [0x2b, 0x24, 0x03, 0x03, 0x02, 0x08, 0x01, 0x01, 0x07]
    size := 32
    p := 0xa9fb57dba1eea9bc3e660a909d838d726e3bf623d52620282013481d1f6e5377
    a := 0x7d5a0975fc2c3057eef67530417affe7fb8055c126dc5c6ce94a4b44f330b5d9
    b := 0x26dc5c6ce94a4b44f330b5d9bbd77cbf958416295cf7e1ce6bccdc18ff8c07b6
    gx := 0x8bd2aeb9cb7e57cb2c4b482ffc81b7afb9de27e1e3bd23c23a4453bd9ace3262
    gy := 0x547ef835c3dac4fd97f8461a14611dc9c27745132ded8e545c1d54c72f046997
    order := 0xa9fb57dba1eea9bc3e660a909d838d718c397aa3b561a6f7901e0e82974856a7 }

def b384 : Curve :=
  { oid := [0x2b, 0x24, 0x03, 0x03, 0x02, 0x08, 0x01, 0x01, 0x0b]
    size := 48
    p := words [0x8cb91e82a3386d280f5d6f7e50e641df,
      0x152f7109ed5456b412b1da197fb71123acd3a729901d1a71874700133107ec53]
    a := words [0x7bc382c63d8c150c3c72080ace05afa0,
      0xc2bea28e4fb22787139165efba91f90f8aa5814a503ad4eb04a8c7dd22ce2826]
    b := words [0x4a8c7dd22ce28268b39b55416f0447c,
      0x2fb77de107dcd2a62e880ea53eeb62d57cb4390295dbc9943ab78696fa504c11]
    gx := words [0x1d1c64f068cf45ffa2a63a81b7c13f6b,
      0x8847a3e77ef14fe3db7fcafe0cbd10e8e826e03436d646aaef87b2e247d4af1e]
    gy := words [0x8abe1d7520f9c2a45cb1eb8e95cfd552,
      0x62b70b29feec5864e19c054ff99129280e4646217791811142820341263c5315]
    order := words [0x8cb91e82a3386d280f5d6f7e50e641df,
      0x152f7109ed5456b31f166e6cac0425a7cf3ab6af6b7fc3103b883202e9046565] }

def b512 : Curve :=
  { oid := [0x2b, 0x24, 0x03, 0x03, 0x02, 0x08, 0x01, 0x01, 0x0d]
    size := 64
    p := words [0xaadd9db8dbe9c48b3fd4e6ae33c9fc07cb308db3b3c9d20ed6639cca70330871,
      0x7d4d9b009bc66842aecda12ae6a380e62881ff2f2d82c68528aa6056583a48f3]
    a := words [0x7830a3318b603b89e2327145ac234cc594cbdd8d3df91610a83441caea9863bc,
      0x2ded5d5aa8253aa10a2ef1c98b9ac8b57f1117a72bf2c7b9e7c1ac4d77fc94ca]
    b := words [0x3df91610a83441caea9863bc2ded5d5aa8253aa10a2ef1c98b9ac8b57f1117a7,
      0x2bf2c7b9e7c1ac4d77fc94cadc083e67984050b75ebae5dd2809bd638016f723]
    gx := words [0x81aee4bdd82ed9645a21322e9c4c6a9385ed9f70b5d916c1b43b62eef4d0098e,
      0xff3b1f78e2d0d48d50d1687b93b97d5f7c6d5047406a5e688b352209bcb9f822]
    gy := words [0x7dde385d566332ecc0eabfa9cf7822fdf209f70024a57b1aa000c55b881f8111,
      0xb2dcde494a5f485e5bca4bd88a2763aed1ca2b2fa8f0540678cd1e0f3ad80892]
    order := words [0xaadd9db8dbe9c48b3fd4e6ae33c9fc07cb308db3b3c9d20ed6639cca70330870,
      0x553e5c414ca92619418661197fac10471db1d381085ddaddb58796829ca90069] }

def all : List Curve := [p256, p384, p521, k256, p192, p224, b256, b384, b512]

def ofOid? (oid : Bytes) : Option Curve := all.find? fun c => c.oid = oid

end Curve

/-- A point other than the one at infinity. -/
structure Point where
  x : Nat
  y : Nat
  deriving DecidableEq, Repr

/-- A point `(x / z ^ 2, y / z ^ 3)`, at infinity when `z` is zero. -/
structure ProjectivePoint where
  x : Nat
  y : Nat
  z : Nat

namespace Curve

variable (c : Curve)

def contains (q : Point) : Bool :=
  q.x < c.p && q.y < c.p && q.y * q.y % c.p = (q.x * q.x * q.x + c.a * q.x + c.b) % c.p

def double (q : ProjectivePoint) : ProjectivePoint :=
  let p := c.p
  let yy := q.y * q.y % p
  let s := 4 * q.x * yy % p
  let zz := q.z * q.z % p
  let m := (3 * q.x * q.x + c.a * (zz * zz % p)) % p
  let x := Modular.sub p (m * m % p) (2 * s % p)
  let y := Modular.sub p (m * Modular.sub p s x % p) (8 * (yy * yy % p) % p)
  ⟨x, y, 2 * q.y * q.z % p⟩

def add (q r : ProjectivePoint) : ProjectivePoint :=
  if q.z = 0 then r
  else if r.z = 0 then q
  else
    let p := c.p
    let qzz := q.z * q.z % p
    let rzz := r.z * r.z % p
    let u := q.x * rzz % p
    let v := r.x * qzz % p
    let s := q.y * (r.z * rzz % p) % p
    let t := r.y * (q.z * qzz % p) % p
    if u = v then if s = t then c.double q else ⟨1, 1, 0⟩
    else
      let h := Modular.sub p v u
      let k := Modular.sub p t s
      let hh := h * h % p
      let hhh := h * hh % p
      let uhh := u * hh % p
      let x := Modular.sub p (Modular.sub p (k * k % p) hhh) (2 * uhh % p)
      let y := Modular.sub p (k * Modular.sub p uhh x % p) (s * hhh % p)
      ⟨x, y, h * q.z % p * r.z % p⟩

/-- Adds `n` times `q` to `acc`, for `n` of at most `bits` binary digits. -/
def mulLoop : Nat → Nat → ProjectivePoint → ProjectivePoint → ProjectivePoint
  | 0, _, _, acc => acc
  | bits + 1, n, q, acc =>
    if n = 0 then acc
    else mulLoop bits (n / 2) (c.double q) (if n % 2 = 1 then c.add acc q else acc)

/-- `n` times the generator; none at infinity. -/
def mulGenerator? (n : Nat) : Option Point :=
  let q := c.mulLoop (n.log2 + 1) n ⟨c.gx, c.gy, 1⟩ ⟨1, 1, 0⟩
  if q.z = 0 then none
  else
    let i := Modular.inverse c.p q.z
    let ii := i * i % c.p
    some ⟨q.x * ii % c.p, q.y * (i * ii % c.p) % c.p⟩

/-- The point of the curve in bytes: both coordinates, or the first and the parity of the second. -/
def readPoint? (bytes : Bytes) : Option Point := do
  let form ← bytes.head?
  let x := Der.natOf ((bytes.drop 1).take c.size)
  let y := Der.natOf (bytes.drop (1 + c.size))
  if form = 0x04 || form = 0x06 || form = 0x07 then
    let q : Point := ⟨x, y⟩
    if bytes.length = 1 + 2 * c.size && c.contains q &&
      (form = 0x04 || y % 2 = form.toNat % 2) then some q
    else none
  else if form = 0x02 || form = 0x03 then
    if bytes.length = 1 + c.size && x < c.p then
      let root ← Modular.sqrt? c.p ((x * x * x + c.a * x + c.b) % c.p)
      let y := if root % 2 = form.toNat % 2 then root else (c.p - root) % c.p
      if y % 2 = form.toNat % 2 then some ⟨x, y⟩ else none
    else none
  else none

def pointBytes (q : Point) : Bytes := 0x04 :: Der.fixedBytes c.size q.x ++ Der.fixedBytes c.size q.y

end Curve

end RequestSigning.Key
