/-!
# SHA-1 and HMAC

The message is padded to whole blocks of 64 bytes; each block is spread to 80 words, which stir a
state of five words in 80 rounds. The keyed digest digests twice, each time behind a block made from
the key.
-/

namespace RequestSigning.Digest

/-- A 32 bit word as four bytes, the most significant first. -/
def wordBytes (w : UInt32) : List UInt8 :=
  [(w >>> 24).toUInt8, (w >>> 16).toUInt8, (w >>> 8).toUInt8, w.toUInt8]

/-- The low 64 bits of a number as eight bytes, the most significant first. -/
def lengthBytes (n : Nat) : List UInt8 :=
  wordBytes (UInt32.ofNat (n / Nat.pow 2 32)) ++ wordBytes (UInt32.ofNat n)

/-- Words of four bytes, the most significant first. -/
def bytesToWords : List UInt8 → List UInt32
  | a :: b :: c :: d :: rest =>
    (a.toUInt32 <<< 24 ||| b.toUInt32 <<< 16 ||| c.toUInt32 <<< 8 ||| d.toUInt32) ::
      bytesToWords rest
  | _ => []

def rotateLeft (w : UInt32) (n : UInt32) : UInt32 := w <<< n ||| w >>> (32 - n)

namespace Sha1

/-- The message, a set bit, zeros up to the last eight bytes of a block, and the length in bits. -/
def pad (message : List UInt8) : List UInt8 :=
  message ++ 0x80 :: List.replicate ((119 - message.length % 64) % 64) 0 ++
    lengthBytes (8 * message.length)

structure State where
  a : UInt32
  b : UInt32
  c : UInt32
  d : UInt32
  e : UInt32
  deriving DecidableEq, Repr

def start : State := ⟨0x67452301, 0xefcdab89, 0x98badcfe, 0x10325476, 0xc3d2e1f0⟩

/-- Lengthens a schedule of at least sixteen words by one. -/
def extend (w : Array UInt32) : Array UInt32 :=
  let word (back : Nat) : UInt32 := w.getD (w.size - back) 0
  w.push (rotateLeft (word 3 ^^^ word 8 ^^^ word 14 ^^^ word 16) 1)

def schedule (block : List UInt8) : List UInt32 :=
  (Nat.repeat extend 64 (bytesToWords block).toArray).toList

/-- The mixing function of a round and its constant. -/
def mix (round : Nat) (s : State) : UInt32 × UInt32 :=
  if round < 20 then ((s.b &&& s.c) ||| (~~~ s.b &&& s.d), 0x5a827999)
  else if round < 40 then (s.b ^^^ s.c ^^^ s.d, 0x6ed9eba1)
  else if round < 60 then ((s.b &&& s.c) ||| (s.b &&& s.d) ||| (s.c &&& s.d), 0x8f1bbcdc)
  else (s.b ^^^ s.c ^^^ s.d, 0xca62c1d6)

def round (i : Nat) (s : State) (w : UInt32) : State :=
  let (f, k) := mix i s
  ⟨rotateLeft s.a 5 + f + s.e + k + w, s.a, rotateLeft s.b 30, s.c, s.d⟩

def rounds : Nat → State → List UInt32 → State
  | _, s, [] => s
  | i, s, w :: ws => rounds (i + 1) (round i s w) ws

def compress (s : State) (block : List UInt8) : State :=
  let t := rounds 0 s (schedule block)
  ⟨s.a + t.a, s.b + t.b, s.c + t.c, s.d + t.d, s.e + t.e⟩

def absorb : Nat → State → List UInt8 → State
  | 0, s, _ => s
  | n + 1, s, bytes => absorb n (compress s (bytes.take 64)) (bytes.drop 64)

end Sha1

def sha1 (message : List UInt8) : List UInt8 :=
  let padded := Sha1.pad message
  let s := Sha1.absorb (padded.length / 64) Sha1.start padded
  wordBytes s.a ++ wordBytes s.b ++ wordBytes s.c ++ wordBytes s.d ++ wordBytes s.e

/-! ## Keyed digests -/

/-- The key as one block: digested if it is longer, then filled with zeros. -/
def keyBlock (key : List UInt8) : List UInt8 :=
  let short := if 64 < key.length then sha1 key else key
  short ++ List.replicate (64 - short.length) 0

def hmacSha1 (key message : List UInt8) : List UInt8 :=
  let block := keyBlock key
  sha1 (block.map (· ^^^ 0x5c) ++ sha1 (block.map (· ^^^ 0x36) ++ message))

end RequestSigning.Digest
