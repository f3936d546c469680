import RequestSigning.Text.Utf8

/-!
# Bytes that are decoded

Decoding takes exactly the bytes that a text is encoded as. A leading byte and the range of the byte
after it keep out longer spellings of a character, halves of surrogate pairs and codes beyond the
last character.
-/

namespace RequestSigning.Text

variable {b low high : UInt8} {c : Char} {bits code fuel good more position x y z w : Nat}
  {bytes rest : List UInt8}

/-! ## Encoding by blocks of six bits -/

theorem encodeChar_one (h : c.toNat < 0x80) : String.utf8EncodeChar c = [UInt8.ofNat c.toNat] :=
  if_pos (Nat.le_of_lt_succ h)

theorem encodeChar_two (h : c.toNat = x * 64 + y) (hx : 2 ≤ x ∧ x < 0x20) (hy : y < 64) :
    String.utf8EncodeChar c = [UInt8.ofNat (0xc0 + x), UInt8.ofNat (0x80 + y)] := by
  have hc : c.val.toNat = x * 64 + y := h
  have h₁ : (x * 64 + y) / 64 % 32 + 192 = 0xc0 + x := by omega
  have h₂ : (x * 64 + y) % 64 + 128 = 0x80 + y := by omega
  simp only [String.utf8EncodeChar, hc, h₁, h₂]
  rw [if_neg (by omega), if_pos (by omega)]

theorem encodeChar_three (h : c.toNat = (x * 64 + y) * 64 + z) (hx : x < 16) (hy : y < 64)
    (hz : z < 64) (hlow : 0x20 ≤ x * 64 + y) : String.utf8EncodeChar c =
      [UInt8.ofNat (0xe0 + x), UInt8.ofNat (0x80 + y), UInt8.ofNat (0x80 + z)] := by
  have hc : c.val.toNat = (x * 64 + y) * 64 + z := h
  have h₁ : ((x * 64 + y) * 64 + z) / 4096 % 16 + 224 = 0xe0 + x := by omega
  have h₂ : ((x * 64 + y) * 64 + z) / 64 % 64 + 128 = 0x80 + y := by omega
  have h₃ : ((x * 64 + y) * 64 + z) % 64 + 128 = 0x80 + z := by omega
  simp only [String.utf8EncodeChar, hc, h₁, h₂, h₃]
  rw [if_neg (by omega), if_neg (by omega), if_pos (by omega)]

theorem encodeChar_four (h : c.toNat = ((x * 64 + y) * 64 + z) * 64 + w) (hx : x < 5) (hy : y < 64)
    (hz : z < 64) (hw : w < 64) (hlow : 0x10 ≤ x * 64 + y) : String.utf8EncodeChar c =
      [UInt8.ofNat (0xf0 + x), UInt8.ofNat (0x80 + y), UInt8.ofNat (0x80 + z),
       UInt8.ofNat (0x80 + w)] := by
  have hc : c.val.toNat = ((x * 64 + y) * 64 + z) * 64 + w := h
  have h₁ : (((x * 64 + y) * 64 + z) * 64 + w) / 262144 % 8 + 240 = 0xf0 + x := by omega
  have h₂ : (((x * 64 + y) * 64 + z) * 64 + w) / 4096 % 64 + 128 = 0x80 + y := by omega
  have h₃ : (((x * 64 + y) * 64 + z) * 64 + w) / 64 % 64 + 128 = 0x80 + z := by omega
  have h₄ : (((x * 64 + y) * 64 + z) * 64 + w) % 64 + 128 = 0x80 + w := by omega
  simp only [String.utf8EncodeChar, hc, h₁, h₂, h₃, h₄]
  rw [if_neg (by omega), if_neg (by omega), if_neg (by omega)]

/-! ## Leading bytes -/

theorem utf8Lead_one (h : b.toNat < 0x80) : utf8Lead b = some ⟨b.toNat, 0, 0x80, 0xbf⟩ :=
  if_pos (UInt8.lt_iff_toNat_lt.2 h)

theorem utf8Lead_two (h : 0xc2 ≤ b.toNat) (h' : b.toNat < 0xe0) :
    utf8Lead b = some ⟨b.toNat - 0xc0, 1, 0x80, 0xbf⟩ := by
  simp only [utf8Lead, UInt8.lt_iff_toNat_lt, UInt8.reduceToNat]
  rw [if_neg (by omega), if_neg (by omega), if_pos h']

/-- After the leading byte of three, the next byte keeps out shorter characters and surrogates. -/
theorem utf8Lead_three (h : 0xe0 ≤ b.toNat) (h' : b.toNat < 0xf0) :
    ∃ low high, utf8Lead b = some ⟨b.toNat - 0xe0, 2, low, high⟩ ∧ ∀ d : UInt8,
      (low ≤ d && d ≤ high) = true ↔ 0x80 ≤ d.toNat ∧ d.toNat ≤ 0xbf ∧
        0x20 ≤ (b.toNat - 0xe0) * 64 + (d.toNat - 0x80) ∧
        ¬ (0x360 ≤ (b.toNat - 0xe0) * 64 + (d.toNat - 0x80) ∧
          (b.toNat - 0xe0) * 64 + (d.toNat - 0x80) < 0x380) := by
  simp only [utf8Lead, UInt8.lt_iff_toNat_lt, ← UInt8.toNat_inj, UInt8.reduceToNat]
  rw [if_neg (by omega), if_neg (by omega), if_neg (by omega)]
  by_cases he0 : b.toNat = 0xe0
  · refine ⟨0xa0, 0xbf, by rw [if_pos he0, he0], fun d => ?_⟩
    simp only [Bool.and_eq_true, decide_eq_true_eq, UInt8.le_iff_toNat_le, UInt8.reduceToNat, he0]
    omega
  by_cases hed : b.toNat = 0xed
  · refine ⟨0x80, 0x9f, by rw [if_neg he0, if_pos hed, hed], fun d => ?_⟩
    simp only [Bool.and_eq_true, decide_eq_true_eq, UInt8.le_iff_toNat_le, UInt8.reduceToNat, hed]
    omega
  · refine ⟨0x80, 0xbf, by rw [if_neg he0, if_neg hed, if_pos h'], fun d => ?_⟩
    simp only [Bool.and_eq_true, decide_eq_true_eq, UInt8.le_iff_toNat_le, UInt8.reduceToNat]
    omega

/-- After the leading byte of four, the next byte keeps out shorter characters and codes that are
too large. -/
theorem utf8Lead_four (h : 0xf0 ≤ b.toNat) (h' : b.toNat < 0xf5) :
    ∃ low high, utf8Lead b = some ⟨b.toNat - 0xf0, 3, low, high⟩ ∧ ∀ d : UInt8,
      (low ≤ d && d ≤ high) = true ↔ 0x80 ≤ d.toNat ∧ d.toNat ≤ 0xbf ∧
        0x10 ≤ (b.toNat - 0xf0) * 64 + (d.toNat - 0x80) ∧
          (b.toNat - 0xf0) * 64 + (d.toNat - 0x80) < 0x110 := by
  simp only [utf8Lead, UInt8.lt_iff_toNat_lt, ← UInt8.toNat_inj, UInt8.reduceToNat]
  rw [if_neg (by omega), if_neg (by omega), if_neg (by omega), if_neg (by omega), if_neg (by omega),
    if_neg (by omega)]
  by_cases hf0 : b.toNat = 0xf0
  · refine ⟨0x90, 0xbf, by rw [if_pos hf0, hf0], fun d => ?_⟩
    simp only [Bool.and_eq_true, decide_eq_true_eq, UInt8.le_iff_toNat_le, UInt8.reduceToNat, hf0]
    omega
  by_cases hf4 : b.toNat = 0xf4
  · refine ⟨0x80, 0x8f, by rw [if_neg hf0, if_neg (by omega), if_pos hf4, hf4], fun d => ?_⟩
    simp only [Bool.and_eq_true, decide_eq_true_eq, UInt8.le_iff_toNat_le, UInt8.reduceToNat, hf4]
    omega
  · refine ⟨0x80, 0xbf, by rw [if_neg hf0, if_pos (by omega)], fun d => ?_⟩
    simp only [Bool.and_eq_true, decide_eq_true_eq, UInt8.le_iff_toNat_le, UInt8.reduceToNat]
    omega

theorem utf8Lead_eq_some {lead : Utf8Lead} (h : utf8Lead b = some lead) : b.toNat < 0x80 ∨
    0xc2 ≤ b.toNat ∧ b.toNat < 0xe0 ∨ 0xe0 ≤ b.toNat ∧ b.toNat < 0xf0 ∨
      0xf0 ≤ b.toNat ∧ b.toNat < 0xf5 := by
  refine Decidable.byContradiction fun hnot => ?_
  simp only [utf8Lead, UInt8.lt_iff_toNat_lt, ← UInt8.toNat_inj, UInt8.reduceToNat] at h
  by_cases hsecond : b.toNat < 0xc2
  · rw [if_neg (by omega), if_pos hsecond] at h
    cases h
  · rw [if_neg (by omega), if_neg hsecond, if_neg (by omega), if_neg (by omega), if_neg (by omega),
      if_neg (by omega), if_neg (by omega), if_neg (by omega), if_neg (by omega)] at h
    cases h

/-! ## One character -/

theorem utf8Continue_zero_eq_ok_iff :
    utf8Continue 0 low high bits bytes good = .ok (code, rest) ↔ code = bits ∧ rest = bytes := by
  simp only [utf8Continue, Except.ok.injEq, Prod.mk.injEq, eq_comm]

theorem utf8Continue_succ_eq_ok_iff :
    utf8Continue (more + 1) low high bits bytes good = .ok (code, rest) ↔
      ∃ d left, bytes = d :: left ∧ (low ≤ d && d ≤ high) = true ∧
        utf8Continue more 0x80 0xbf (bits * 64 + (d.toNat - 0x80)) left (good + 1) =
          .ok (code, rest) := by
  cases bytes with
  | nil => simp [utf8Continue]
  | cons d left =>
    rw [utf8Continue]
    by_cases hd : (low ≤ d && d ≤ high) = true
    · rw [if_pos hd]
      constructor
      · exact fun h => ⟨d, left, rfl, hd, h⟩
      · rintro ⟨_, _, ⟨⟩, -, h⟩
        exact h
    · rw [if_neg hd]
      constructor
      · intro h
        cases h
      · rintro ⟨_, _, ⟨⟩, hd', -⟩
        exact absurd hd' hd

/-- A byte of six bits, as follows a leading byte. -/
theorem isTail_iff {d : UInt8} :
    (0x80 ≤ d && d ≤ 0xbf) = true ↔ 0x80 ≤ d.toNat ∧ d.toNat ≤ 0xbf := by
  simp only [Bool.and_eq_true, decide_eq_true_eq, UInt8.le_iff_toNat_le, UInt8.reduceToNat]

theorem exists_char {n : Nat} (h : n < 0xd800 ∨ 0xdfff < n ∧ n < 0x110000) :
    ∃ c : Char, c.toNat = n :=
  ⟨Char.ofNat n, by rw [Char.ofNat, dif_pos h]; rfl⟩

theorem ofNat_add_sub {n : Nat} (h : n ≤ b.toNat) : UInt8.ofNat (n + (b.toNat - n)) = b := by
  rw [Nat.add_sub_cancel' h, UInt8.ofNat_toNat]

/-- What a leading byte and the bytes after it stand for. -/
def ReadsChar (bytes : List UInt8) (code : Nat) (rest : List UInt8) : Prop :=
  ∃ b left lead, bytes = b :: left ∧ utf8Lead b = some lead ∧
    utf8Continue lead.more lead.low lead.high lead.bits left 0 = .ok (code, rest)

theorem exists_encodeChar_of_readsChar (h : ReadsChar bytes code rest) :
    ∃ c : Char, c.toNat = code ∧ bytes = String.utf8EncodeChar c ++ rest := by
  obtain ⟨b, left, lead, rfl, hlead, hcontinue⟩ := h
  rcases utf8Lead_eq_some hlead with hb | ⟨hb, hb'⟩ | ⟨hb, hb'⟩ | ⟨hb, hb'⟩
  · rw [utf8Lead_one hb] at hlead
    obtain rfl := Option.some.inj hlead
    dsimp only at hcontinue
    obtain ⟨hcode, rfl⟩ := utf8Continue_zero_eq_ok_iff.1 hcontinue
    obtain ⟨c, hc⟩ := exists_char (n := code) (by omega)
    refine ⟨c, hc, ?_⟩
    rw [encodeChar_one (by omega), hc, hcode, UInt8.ofNat_toNat]
    rfl
  · rw [utf8Lead_two hb hb'] at hlead
    obtain rfl := Option.some.inj hlead
    obtain ⟨d₁, _, rfl, hd₁, hcontinue⟩ := utf8Continue_succ_eq_ok_iff.1 hcontinue
    dsimp only at hcontinue
    obtain ⟨hcode, rfl⟩ := utf8Continue_zero_eq_ok_iff.1 hcontinue
    have h₁ := isTail_iff.1 hd₁
    obtain ⟨c, hc⟩ := exists_char (n := code) (by omega)
    refine ⟨c, hc, ?_⟩
    rw [encodeChar_two (hc.trans hcode) (by omega) (by omega), ofNat_add_sub (by omega),
      ofNat_add_sub h₁.1]
    rfl
  · obtain ⟨low, high, heq, hrange⟩ := utf8Lead_three hb hb'
    rw [heq] at hlead
    obtain rfl := Option.some.inj hlead
    obtain ⟨d₁, _, rfl, hd₁, hcontinue⟩ := utf8Continue_succ_eq_ok_iff.1 hcontinue
    obtain ⟨d₂, _, rfl, hd₂, hcontinue⟩ := utf8Continue_succ_eq_ok_iff.1 hcontinue
    dsimp only at hcontinue
    obtain ⟨hcode, rfl⟩ := utf8Continue_zero_eq_ok_iff.1 hcontinue
    have h₁ := (hrange d₁).1 hd₁
    have h₂ := isTail_iff.1 hd₂
    obtain ⟨c, hc⟩ := exists_char (n := code) (by omega)
    refine ⟨c, hc, ?_⟩
    rw [encodeChar_three (hc.trans hcode) (by omega) (by omega) (by omega) (by omega),
      ofNat_add_sub hb, ofNat_add_sub h₁.1, ofNat_add_sub h₂.1]
    rfl
  · obtain ⟨low, high, heq, hrange⟩ := utf8Lead_four hb hb'
    rw [heq] at hlead
    obtain rfl := Option.some.inj hlead
    obtain ⟨d₁, _, rfl, hd₁, hcontinue⟩ := utf8Continue_succ_eq_ok_iff.1 hcontinue
    obtain ⟨d₂, _, rfl, hd₂, hcontinue⟩ := utf8Continue_succ_eq_ok_iff.1 hcontinue
    obtain ⟨d₃, _, rfl, hd₃, hcontinue⟩ := utf8Continue_succ_eq_ok_iff.1 hcontinue
    dsimp only at hcontinue
    obtain ⟨hcode, rfl⟩ := utf8Continue_zero_eq_ok_iff.1 hcontinue
    have h₁ := (hrange d₁).1 hd₁
    have h₂ := isTail_iff.1 hd₂
    have h₃ := isTail_iff.1 hd₃
    obtain ⟨c, hc⟩ := exists_char (n := code) (by omega)
    refine ⟨c, hc, ?_⟩
    rw [encodeChar_four (hc.trans hcode) (by omega) (by omega) (by omega) (by omega) (by omega),
      ofNat_add_sub hb, ofNat_add_sub h₁.1, ofNat_add_sub h₂.1, ofNat_add_sub h₃.1]
    rfl

theorem readsChar_encodeChar (c : Char) (rest : List UInt8) :
    ReadsChar (String.utf8EncodeChar c ++ rest) c.toNat rest := by
  have hvalid : c.toNat < 0xd800 ∨ 0xdfff < c.toNat ∧ c.toNat < 0x110000 := c.valid
  by_cases hone : c.toNat < 0x80
  · have hb := @UInt8.toNat_ofNat_of_lt' c.toNat (by rw [UInt8.size]; omega)
    rw [encodeChar_one hone]
    refine ⟨_, _, _, rfl, utf8Lead_one (by omega), ?_⟩
    rw [hb]
    exact utf8Continue_zero_eq_ok_iff.2 ⟨rfl, rfl⟩
  by_cases htwo : c.toNat < 0x800
  · obtain ⟨x, y, hc, hy⟩ : ∃ x y, c.toNat = x * 64 + y ∧ y < 64 :=
      ⟨c.toNat / 64, c.toNat % 64, by omega, by omega⟩
    have hb := @UInt8.toNat_ofNat_of_lt' (0xc0 + x) (by rw [UInt8.size]; omega)
    have hd₁ := @UInt8.toNat_ofNat_of_lt' (0x80 + y) (by rw [UInt8.size]; omega)
    rw [encodeChar_two hc (by omega) hy]
    refine ⟨_, _, _, rfl, utf8Lead_two (by omega) (by omega), ?_⟩
    refine utf8Continue_succ_eq_ok_iff.2 ⟨_, _, rfl, isTail_iff.2 (by omega), ?_⟩
    exact utf8Continue_zero_eq_ok_iff.2 ⟨by dsimp only; omega, rfl⟩
  by_cases hthree : c.toNat < 0x10000
  · obtain ⟨x, y, z, hc, hy, hz⟩ : ∃ x y z, c.toNat = (x * 64 + y) * 64 + z ∧ y < 64 ∧ z < 64 :=
      ⟨c.toNat / 64 / 64, c.toNat / 64 % 64, c.toNat % 64, by omega, by omega, by omega⟩
    have hb := @UInt8.toNat_ofNat_of_lt' (0xe0 + x) (by rw [UInt8.size]; omega)
    have hd₁ := @UInt8.toNat_ofNat_of_lt' (0x80 + y) (by rw [UInt8.size]; omega)
    have hd₂ := @UInt8.toNat_ofNat_of_lt' (0x80 + z) (by rw [UInt8.size]; omega)
    obtain ⟨low, high, hlead, hrange⟩ :=
      utf8Lead_three (b := UInt8.ofNat (0xe0 + x)) (by omega) (by omega)
    rw [encodeChar_three hc (by omega) hy hz (by omega)]
    refine ⟨_, _, _, rfl, hlead, ?_⟩
    refine utf8Continue_succ_eq_ok_iff.2 ⟨_, _, rfl, (hrange _).2 (by omega), ?_⟩
    refine utf8Continue_succ_eq_ok_iff.2 ⟨_, _, rfl, isTail_iff.2 (by omega), ?_⟩
    exact utf8Continue_zero_eq_ok_iff.2 ⟨by dsimp only; omega, rfl⟩
  · obtain ⟨x, y, z, w, hc, hy, hz, hw⟩ :
        ∃ x y z w, c.toNat = ((x * 64 + y) * 64 + z) * 64 + w ∧ y < 64 ∧ z < 64 ∧ w < 64 :=
      ⟨c.toNat / 64 / 64 / 64, c.toNat / 64 / 64 % 64, c.toNat / 64 % 64, c.toNat % 64,
       by omega, by omega,
        by omega, by omega⟩
    have hb := @UInt8.toNat_ofNat_of_lt' (0xf0 + x) (by rw [UInt8.size]; omega)
    have hd₁ := @UInt8.toNat_ofNat_of_lt' (0x80 + y) (by rw [UInt8.size]; omega)
    have hd₂ := @UInt8.toNat_ofNat_of_lt' (0x80 + z) (by rw [UInt8.size]; omega)
    have hd₃ := @UInt8.toNat_ofNat_of_lt' (0x80 + w) (by rw [UInt8.size]; omega)
    obtain ⟨low, high, hlead, hrange⟩ :=
      utf8Lead_four (b := UInt8.ofNat (0xf0 + x)) (by omega) (by omega)
    rw [encodeChar_four hc (by omega) hy hz hw (by omega)]
    refine ⟨_, _, _, rfl, hlead, ?_⟩
    refine utf8Continue_succ_eq_ok_iff.2 ⟨_, _, rfl, (hrange _).2 (by omega), ?_⟩
    refine utf8Continue_succ_eq_ok_iff.2 ⟨_, _, rfl, isTail_iff.2 (by omega), ?_⟩
    refine utf8Continue_succ_eq_ok_iff.2 ⟨_, _, rfl, isTail_iff.2 (by omega), ?_⟩
    exact utf8Continue_zero_eq_ok_iff.2 ⟨by dsimp only; omega, rfl⟩

/-! ## Texts -/

theorem utf8DecodeFrom_of_readsChar (fuel position : Nat) (h : ReadsChar bytes code rest) : ∃ next,
    utf8DecodeFrom (fuel + 1) position bytes =
      (utf8DecodeFrom fuel next rest).map (Char.ofNat code :: ·) := by
  obtain ⟨b, left, lead, rfl, hlead, hcontinue⟩ := h
  refine ⟨position + 1 + lead.more, ?_⟩
  rw [utf8DecodeFrom, hlead]
  dsimp only
  rw [hcontinue]

theorem utf8DecodeFrom_encode (cs : List Char)
    (h : (cs.flatMap String.utf8EncodeChar).length ≤ fuel) :
    utf8DecodeFrom fuel position (cs.flatMap String.utf8EncodeChar) = .ok cs := by
  induction cs generalizing fuel position with
  | nil => cases fuel <;> rfl
  | cons c cs ih =>
    have hpos := String.length_utf8EncodeChar c ▸ c.utf8Size_pos
    rw [List.flatMap_cons, List.length_append] at h
    obtain ⟨fuel, rfl⟩ := Nat.exists_eq_succ_of_ne_zero (n := fuel) (by omega)
    obtain ⟨next, hstep⟩ := utf8DecodeFrom_of_readsChar fuel position
      (readsChar_encodeChar c (cs.flatMap String.utf8EncodeChar))
    rw [List.flatMap_cons, hstep, ih (by omega), Char.ofNat_toNat]
    rfl

theorem eq_encode_of_utf8DecodeFrom {cs : List Char} (hfuel : bytes.length ≤ fuel)
    (h : utf8DecodeFrom fuel position bytes = .ok cs) :
    bytes = cs.flatMap String.utf8EncodeChar := by
  induction fuel generalizing position bytes cs with
  | zero =>
    cases List.eq_nil_of_length_eq_zero (Nat.le_zero.1 hfuel)
    cases h
    rfl
  | succ fuel ih =>
    cases bytes with
    | nil =>
      cases h
      rfl
    | cons b left =>
      unfold utf8DecodeFrom at h
      split at h
      · cases h
      · next lead hlead =>
        split at h
        · cases h
        · next code rest hcontinue =>
          obtain ⟨c, hc, hbytes⟩ :=
            exists_encodeChar_of_readsChar ⟨b, left, lead, rfl, hlead, hcontinue⟩
          have hpos := String.length_utf8EncodeChar c ▸ c.utf8Size_pos
          have hlength := congrArg List.length hbytes
          rw [List.length_append] at hlength
          cases hrest : utf8DecodeFrom fuel (position + 1 + lead.more) rest with
          | error e =>
            rw [hrest] at h
            cases h
          | ok cs' =>
            rw [hrest, ← hc, Char.ofNat_toNat] at h
            cases h
            rw [hbytes, List.flatMap_cons, ← ih (by omega) hrest]

theorem byteArray_toList_loop (bs : ByteArray) (i : Nat) (taken : List UInt8) :
    ByteArray.toList.loop bs i taken = taken.reverse ++ bs.data.toList.drop i := by
  fun_induction ByteArray.toList.loop bs i taken with
  | case1 i taken hi ih =>
    have hget : bs.data.toList.drop i = bs.get! i :: bs.data.toList.drop (i + 1) := by
      rw [List.drop_eq_getElem_cons (by simpa using hi)]
      exact congrArg (· :: _) (getElem!_pos bs.data i hi).symm
    rw [ih, hget, List.reverse_cons, List.append_assoc]
    rfl
  | case2 i taken hi =>
    rw [List.drop_eq_nil_of_le (by simpa using hi), List.append_nil]

theorem byteArray_toList (bs : ByteArray) : bs.toList = bs.data.toList :=
  byteArray_toList_loop bs 0 []

theorem utf8Encode_eq (s : String) : utf8Encode s = s.toList.flatMap String.utf8EncodeChar := by
  rw [utf8Encode, byteArray_toList, String.toUTF8, ← String.utf8Encode_toList, List.utf8Encode,
    List.data_toByteArray]

/-- Exactly the bytes of a text are decoded, to that text. -/
theorem utf8Decode_eq_ok_iff {s : String} : utf8Decode bytes = .ok s ↔ bytes = utf8Encode s := by
  rw [utf8Encode_eq]
  constructor
  · intro h
    cases hdecode : utf8DecodeFrom bytes.length 0 bytes with
    | error e =>
      rw [utf8Decode, hdecode] at h
      cases h
    | ok cs =>
      rw [utf8Decode, hdecode] at h
      cases h
      rw [String.toList_ofList]
      exact eq_encode_of_utf8DecodeFrom (Nat.le_refl _) hdecode
  · rintro rfl
    rw [utf8Decode, utf8DecodeFrom_encode _ (Nat.le_refl _)]
    exact congrArg Except.ok String.ofList_toList

end RequestSigning.Text
