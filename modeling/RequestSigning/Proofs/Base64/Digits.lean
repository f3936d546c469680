import Mathlib.Algebra.Group.Nat.Defs
import Mathlib.Data.List.Basic
import RequestSigning.Base64

/-!
# Digits and bytes

Four digits of six bits each hold three bytes. Digits give their bytes back in encoding, but for the
bits of the last one that no byte takes up: two bits for each padding character that belongs behind
the digits.
-/

namespace RequestSigning.Base64

/-! ## Characters -/

theorem value?_digit : ∀ v < 64, value? (digit v) = some v := by decide

theorem digit_ne_padding : ∀ v < 64, digit v ≠ '=' := by decide

theorem toNat_digit_lt : ∀ v < 64, (digit v).toNat < 0x80 := by decide

theorem value?_eq_none {c : Char} (h : 0x80 ≤ c.toNat) : value? c = none := by
  have hle : ∀ x : Char, x.toNat < 0x80 → ¬ c ≤ x := by
    intro x hx hc
    have hcx : c.toNat ≤ x.toNat := UInt32.le_iff_toNat_le.1 hc
    omega
  have hne : ∀ x : Char, x.toNat < 0x80 → c ≠ x := by
    rintro x hx rfl
    exact absurd hx (Nat.not_lt.2 h)
  unfold value?
  simp [hle 'Z' (by decide), hle 'z' (by decide), hle '9' (by decide), hne '+' (by decide),
    hne '/' (by decide)]

theorem value?_eq_some_iff {c : Char} {v : Nat} : value? c = some v ↔ v < 64 ∧ digit v = c := by
  constructor
  · intro h
    have hlt : c.toNat < 0x80 := by
      by_contra hge
      rw [value?_eq_none (Nat.le_of_not_lt hge)] at h
      cases h
    have hall : ∀ n < 0x80, ∀ v ∈ value? (Char.ofNat n), v < 64 ∧ digit v = Char.ofNat n := by
      decide
    rw [← Char.ofNat_toNat c] at h ⊢
    exact hall c.toNat hlt v h
  · rintro ⟨hv, rfl⟩
    exact value?_digit v hv

theorem map_digit_injective {vs ws : List Nat} (hvs : ∀ v ∈ vs, v < 64) (hws : ∀ w ∈ ws, w < 64)
    (h : vs.map digit = ws.map digit) : vs = ws := by
  have hvalues : ∀ us : List Nat, (∀ u ∈ us, u < 64) → (us.map digit).map value? = us.map some := by
    intro us hus
    rw [List.map_map]
    exact List.map_congr_left fun u hu => value?_digit u (hus u hu)
  have hsome := congrArg (List.map value?) h
  rw [hvalues vs hvs, hvalues ws hws] at hsome
  exact List.map_inj_right (fun _ _ => Option.some.inj) |>.1 hsome

/-! ## Bytes of digits and digits of bytes -/

/-- The bytes in digits: those of each group of four, then those of the digits left over. -/
def bytesOf : List Nat → List UInt8
  | a :: b :: c :: d :: rest => groupBytes [a, b, c, d] ++ bytesOf rest
  | vs => groupBytes vs

/-- The digits of the encoding of bytes. -/
def digitsOf : List UInt8 → List Nat
  | [] => []
  | [a] => [a.toNat / 4, a.toNat % 4 * 16]
  | [a, b] => [a.toNat / 4, a.toNat % 4 * 16 + b.toNat / 16, b.toNat % 16 * 4]
  | a :: b :: c :: rest =>
    a.toNat / 4 :: (a.toNat % 4 * 16 + b.toNat / 16) :: (b.toNat % 16 * 4 + c.toNat / 64)
      :: c.toNat % 64 :: digitsOf rest

/-- How many padding characters belong behind the digits of this many bytes. -/
def padding (bytes : Nat) : Nat := (3 - bytes % 3) % 3

/-- How many padding characters complete this many digits. -/
def missing (digits : Nat) : Nat := (4 - digits % 4) % 4

/-- The digits with the bits of the last one cleared that no byte takes up. -/
def clearSpare : List Nat → List Nat
  | [] => []
  | [a] => [a]
  | [a, b] => [a, b / 16 * 16]
  | [a, b, c] => [a, b, c / 4 * 4]
  | a :: b :: c :: d :: rest => a :: b :: c :: d :: clearSpare rest

theorem encodeChars_eq (bytes : List UInt8) :
    encodeChars bytes = (digitsOf bytes).map digit ++
      List.replicate (padding bytes.length) '=' := by
  fun_induction digitsOf bytes with
  | case1 => rfl
  | case2 a => rfl
  | case3 a b => rfl
  | case4 a b c rest ih =>
    have hpadding : padding (a :: b :: c :: rest).length = padding rest.length := by
      simp only [padding, List.length_cons]
      omega
    rw [encodeChars, ih, hpadding]
    rfl

theorem length_digitsOf (bytes : List UInt8) :
    missing (digitsOf bytes).length = padding bytes.length := by
  fun_induction digitsOf bytes with
  | case1 => rfl
  | case2 a => rfl
  | case3 a b => rfl
  | case4 a b c rest ih =>
    simp only [missing, padding, List.length_cons] at ih ⊢
    omega

theorem digitsOf_lt (bytes : List UInt8) : ∀ v ∈ digitsOf bytes, v < 64 := by
  fun_induction digitsOf bytes with
  | case1 => exact fun v hv => absurd hv List.not_mem_nil
  | case2 a =>
    have ha := a.toNat_lt
    simp only [List.forall_mem_cons]
    exact ⟨by omega, by omega, fun v hv => absurd hv List.not_mem_nil⟩
  | case3 a b =>
    have ha := a.toNat_lt
    have hb := b.toNat_lt
    simp only [List.forall_mem_cons]
    exact ⟨by omega, by omega, by omega, fun v hv => absurd hv List.not_mem_nil⟩
  | case4 a b c rest ih =>
    have ha := a.toNat_lt
    have hb := b.toNat_lt
    have hc := c.toNat_lt
    simp only [List.forall_mem_cons]
    exact ⟨by omega, by omega, by omega, by omega, ih⟩

theorem toNat_ofNat {n : Nat} (h : n < 256) : (UInt8.ofNat n).toNat = n := by
  rw [UInt8.toNat_ofNat']
  exact Nat.mod_eq_of_lt h

theorem ofNat_eq {a : UInt8} {n : Nat} (h : n = a.toNat) : UInt8.ofNat n = a := by
  rw [h]
  exact UInt8.ofNat_toNat

/-- The digits of an encoding hold the bytes that were encoded. -/
theorem bytesOf_digitsOf (bytes : List UInt8) : bytesOf (digitsOf bytes) = bytes := by
  fun_induction digitsOf bytes with
  | case1 => rfl
  | case2 a =>
    change [UInt8.ofNat _] = _
    rw [ofNat_eq (a := a) (by omega)]
  | case3 a b =>
    change [UInt8.ofNat _, UInt8.ofNat _] = _
    have hb := b.toNat_lt
    rw [ofNat_eq (a := a) (by omega), ofNat_eq (a := b) (by omega)]
  | case4 a b c rest ih =>
    change [UInt8.ofNat _, UInt8.ofNat _, UInt8.ofNat _] ++ bytesOf (digitsOf rest) = _
    have hb := b.toNat_lt
    have hc := c.toNat_lt
    rw [ih, ofNat_eq (a := a) (by omega), ofNat_eq (a := b) (by omega),
      ofNat_eq (a := c) (by omega)]
    rfl

/-- Digits that end with no digit on its own are the digits of their bytes, but for spare bits. -/
theorem digitsOf_bytesOf {vs : List Nat} (hvs : ∀ v ∈ vs, v < 64) (hlength : vs.length % 4 ≠ 1) :
    digitsOf (bytesOf vs) = clearSpare vs := by
  fun_induction clearSpare vs with
  | case1 => rfl
  | case2 a => exact absurd rfl hlength
  | case3 a b =>
    simp only [List.forall_mem_cons] at hvs
    change digitsOf [_] = _
    rw [digitsOf, toNat_ofNat (by omega)]
    simp only [List.cons.injEq, and_true]
    omega
  | case4 a b c =>
    simp only [List.forall_mem_cons] at hvs
    change digitsOf [_, _] = _
    rw [digitsOf, toNat_ofNat (by omega), toNat_ofNat (by omega)]
    simp only [List.cons.injEq, and_true]
    omega
  | case5 a b c d rest ih =>
    simp only [List.forall_mem_cons] at hvs
    obtain ⟨ha, hb, hc, hd, hrest⟩ := hvs
    have hlater : rest.length % 4 ≠ 1 := by
      simp only [List.length_cons] at hlength
      omega
    change digitsOf (_ :: _ :: _ :: bytesOf rest) = _
    rw [digitsOf, ih hrest hlater, toNat_ofNat (by omega), toNat_ofNat (by omega),
      toNat_ofNat (by omega)]
    simp only [List.cons.injEq, and_true]
    omega

/-- Spare bits hold nothing of the bytes. -/
theorem bytesOf_clearSpare (vs : List Nat) : bytesOf (clearSpare vs) = bytesOf vs := by
  fun_induction clearSpare vs with
  | case1 => rfl
  | case2 a => rfl
  | case3 a b =>
    change [UInt8.ofNat _] = [UInt8.ofNat _]
    rw [Nat.mul_div_cancel _ (by decide)]
  | case4 a b c =>
    change [UInt8.ofNat _, UInt8.ofNat _] = [UInt8.ofNat _, UInt8.ofNat _]
    rw [Nat.mul_div_cancel _ (by decide)]
  | case5 a b c d rest ih =>
    change groupBytes [a, b, c, d] ++ bytesOf (clearSpare rest) = _
    rw [ih]
    rfl

/-- Only the last digit has spare bits. -/
theorem clearSpare_concat (front : List Nat) (last : Nat) (h : (front ++ [last]).length % 4 ≠ 1) :
    clearSpare (front ++ [last]) =
      front ++ [last / 4 ^ missing (front ++ [last]).length *
        4 ^ missing (front ++ [last]).length] := by
  fun_induction clearSpare front with
  | case1 => exact absurd rfl h
  | case2 a => rfl
  | case3 a b => rfl
  | case4 a b c =>
    have hmissing : missing ([a, b, c] ++ [last]).length = 0 := by
      simp [missing]
    rw [hmissing, Nat.pow_zero, Nat.div_one, Nat.mul_one]
    rfl
  | case5 a b c d rest ih =>
    have hlength : (a :: b :: c :: d :: rest ++ [last]).length = (rest ++ [last]).length + 4 := by
      simp only [List.length_append, List.length_cons]
      omega
    have hmissing : missing (a :: b :: c :: d :: rest ++ [last]).length =
        missing (rest ++ [last]).length := by
      rw [hlength, missing, missing, Nat.add_mod_right]
    rw [hmissing]
    rw [hlength, Nat.add_mod_right] at h
    exact congrArg (a :: b :: c :: d :: ·) (ih h)

end RequestSigning.Base64
