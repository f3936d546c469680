import RequestSigning.Proofs.Base64.Digits

/-!
# The reader of base64

A reader takes digits into groups of four until padding comes, and nothing but padding from there
on. So the texts it accepts are digits with padding behind them, and their bytes are those of the
digits: no character is passed over and no byte is made up. Behind a group of two or three digits
the padding has to complete the group. Behind full groups only, it may be of any length, as it
counts for no group.
-/

namespace RequestSigning.Base64

/-- Padding of this length may end a text with this many digits. -/
def Complete (digits pads : Nat) : Prop := digits % 4 = 0 ∨ 2 ≤ digits % 4 ∧ digits % 4 + pads = 4

theorem complete_iff {digits pads : Nat} :
    Complete digits pads ↔ digits % 4 ≠ 1 ∧ (digits % 4 = 0 ∨ pads = missing digits) := by
  unfold Complete missing
  omega

theorem complete_add_four {digits pads : Nat} :
    Complete (digits + 4) pads ↔ Complete digits pads := by
  rw [Complete, Complete, Nat.add_mod_right]

theorem bytesOf_group {vs : List Nat} (h : vs.length < 4) : bytesOf vs = groupBytes vs := by
  match vs, h with
  | [], _ | [_], _ | [_, _], _ | [_, _, _], _ => rfl

theorem bytesOf_group_append {group vs : List Nat} (h : group.length = 4) :
    bytesOf (group ++ vs) = groupBytes group ++ bytesOf vs := by
  match group, h with
  | [_, _, _, _], _ => rfl

/-- Any digits hold a byte, where none stands on its own behind the full groups. -/
theorem bytesOf_eq_nil_iff {vs : List Nat} (h : vs.length % 4 ≠ 1) : bytesOf vs = [] ↔ vs = [] := by
  match vs, h with
  | [], _ => exact iff_of_true rfl rfl
  | [a], h => exact absurd rfl h
  | [a, b], _ | [a, b, c], _ | a :: b :: c :: d :: rest, _ =>
    exact iff_of_false (List.cons_ne_nil _ _) (List.cons_ne_nil _ _)

namespace Reader

variable {r : Reader} {cs : List Char} {vs : List Nat} {n v : Nat} {key : List UInt8}

/-! ## Padding -/

/-- The group begun is not complete. -/
def IsOpen (r : Reader) : Prop := r.group.length + r.pads < 4 ∨ r.group.length < 2

theorem isFull_pad : r.pad.isFull = true ↔ 2 ≤ r.group.length ∧ 3 ≤ r.group.length + r.pads := by
  unfold isFull pad
  split
  · simp only [Bool.and_eq_true, decide_eq_true_eq]
    omega
  · simp only [Bool.and_eq_true, decide_eq_true_eq]
    omega

theorem pads_pad (h : 2 ≤ r.group.length) : r.pad.pads = r.pads + 1 := if_pos h

theorem finish_eq_ok_iff : r.finish = .ok key ↔ r.group = [] ∧ key = r.done := by
  obtain ⟨done, group, pads, padded⟩ := r
  unfold finish
  match group with
  | [] => exact ⟨fun h => ⟨rfl, (Except.ok.inj h).symm⟩, fun h => h.2 ▸ rfl⟩
  | [_] | _ :: _ :: _ => exact ⟨fun h => (by cases h), fun h => absurd h.1 (List.cons_ne_nil _ _)⟩

/-- Padding that completes a group ends the text. -/
theorem run_pad_of_full (hfull : r.pad.isFull = true) :
    r.run ('=' :: cs) = .ok key ↔ cs = [] ∧ key = r.done ++ groupBytes r.group := by
  rw [run, if_pos rfl, if_pos hfull]
  cases cs with
  | nil => exact ⟨fun h => ⟨rfl, (Except.ok.inj h).symm⟩, fun h => h.2 ▸ rfl⟩
  | cons c rest =>
    exact iff_of_false (fun h => by cases h) fun h => absurd h.1 (List.cons_ne_nil c rest)

theorem run_pad_of_not_full (hfull : ¬ r.pad.isFull = true) : r.run ('=' :: cs) = r.pad.run cs := by
  rw [run, if_pos rfl, if_neg hfull]

/-- Padding to the end completes the group begun, or it stands behind full groups. -/
theorem run_padding (hopen : r.IsOpen) :
    r.run (List.replicate n '=') = .ok key ↔
      r.group = [] ∧ key = r.done ∨
        2 ≤ r.group.length ∧ r.group.length + r.pads + n = 4 ∧
          key = r.done ++ groupBytes r.group := by
  induction n generalizing r with
  | zero =>
    rw [List.replicate_zero, run, finish_eq_ok_iff]
    unfold IsOpen at hopen
    refine (or_iff_left ?_).symm
    rintro ⟨htwo, hfour, -⟩
    omega
  | succ n ih =>
    have hnonempty : r.group = [] → ¬ 2 ≤ r.group.length := by
      intro hnil
      rw [hnil, List.length_nil]
      omega
    rw [List.replicate_succ]
    unfold IsOpen at hopen
    by_cases hfull : r.pad.isFull = true
    · obtain ⟨htwo, hthree⟩ := isFull_pad.1 hfull
      rw [run_pad_of_full hfull, List.replicate_eq_nil_iff,
        or_iff_right fun h => hnonempty h.1 htwo, ← and_assoc]
      exact and_congr_left fun _ => by omega
    · rw [run_pad_of_not_full hfull]
      rw [isFull_pad] at hfull
      by_cases htwo : 2 ≤ r.group.length
      · have hstill : r.pad.IsOpen := by
          left
          rw [pads_pad htwo]
          change r.group.length + (r.pads + 1) < 4
          omega
        have hcount : r.group.length + (r.pads + 1) + n = r.group.length + r.pads + (n + 1) := by
          omega
        rw [ih hstill, pads_pad htwo, ← hcount]
        rfl
      · rw [ih (show r.pad.IsOpen from .inr (Nat.lt_of_not_le htwo))]
        change r.group = [] ∧ key = r.done ∨ 2 ≤ r.group.length ∧ _ ↔ _
        rw [or_iff_left fun h => htwo h.1, or_iff_left fun h => htwo h.1]

/-- Behind padding stands nothing but padding. -/
theorem eq_replicate_of_run (h : r.run ('=' :: cs) = .ok key) :
    cs = List.replicate cs.length '=' := by
  induction cs generalizing r with
  | nil => rfl
  | cons c rest ih =>
    by_cases hfull : r.pad.isFull = true
    · exact absurd ((run_pad_of_full hfull).1 h).1 (List.cons_ne_nil c rest)
    · rw [run_pad_of_not_full hfull] at h
      by_cases hc : c = '='
      · rw [List.length_cons, List.replicate_succ, hc, ← ih (hc ▸ h)]
      · rw [run, if_neg hc] at h
        split at h <;> cases h

/-! ## Digits -/

/-- There was no padding yet. -/
structure InDigits (r : Reader) : Prop where
  unpadded : r.padded = false
  pads_eq : r.pads = 0
  length_group : r.group.length < 4

theorem push_of_three (h : r.group.length = 3) (v : Nat) :
    r.push v = ⟨r.done ++ groupBytes (r.group ++ [v]), [], 0, r.padded⟩ := by
  rw [push, if_pos (by rw [List.length_append, h, List.length_singleton])]

theorem push_of_ne_three (h : r.group.length ≠ 3) (v : Nat) :
    r.push v = ⟨r.done, r.group ++ [v], 0, r.padded⟩ := by
  rw [push, if_neg (by rw [List.length_append, List.length_singleton]; omega)]

theorem InDigits.push (hr : r.InDigits) (v : Nat) : (r.push v).InDigits := by
  by_cases hthree : r.group.length = 3
  · rw [push_of_three hthree]
    exact ⟨hr.unpadded, rfl, Nat.zero_lt_succ 3⟩
  · rw [push_of_ne_three hthree]
    refine ⟨hr.unpadded, rfl, ?_⟩
    have hlt := hr.length_group
    simp only [List.length_append, List.length_singleton]
    omega

theorem InDigits.run_digit (hr : r.InDigits) (hv : v < 64) (rest : List Char) :
    r.run (digit v :: rest) = (r.push v).run rest := by
  rw [run, if_neg (digit_ne_padding v hv), value?_digit v hv]
  simp only [hr.unpadded, Bool.false_eq_true, if_false]

/-- A digit is one more digit to complete, wherever the reader keeps it. -/
theorem complete_push (r : Reader) (v digits pads : Nat) :
    Complete ((r.push v).group.length + digits) pads ↔
      Complete (r.group.length + (digits + 1)) pads := by
  by_cases hthree : r.group.length = 3
  · rw [push_of_three hthree, hthree, ← complete_add_four]
    simp only [List.length_nil]
    rw [show 0 + digits + 4 = 3 + (digits + 1) by omega]
  · rw [push_of_ne_three hthree, List.length_append, List.length_singleton, Nat.add_assoc,
      Nat.add_comm 1]

theorem bytes_push (r : Reader) (v : Nat) (vs : List Nat) :
    (r.push v).done ++ bytesOf ((r.push v).group ++ vs) =
      r.done ++ bytesOf (r.group ++ v :: vs) := by
  by_cases hthree : r.group.length = 3
  · have hfour : (r.group ++ [v]).length = 4 := by
      rw [List.length_append, hthree, List.length_singleton]
    rw [push_of_three hthree, List.append_cons r.group v vs, bytesOf_group_append hfour,
      List.nil_append, List.append_assoc]
  · rw [push_of_ne_three hthree, List.append_assoc, List.singleton_append]

theorem InDigits.run_digits_append (hr : r.InDigits) (hvs : ∀ v ∈ vs, v < 64) :
    r.run (vs.map digit ++ List.replicate n '=') = .ok key ↔
      Complete (r.group.length + vs.length) n ∧ key = r.done ++ bytesOf (r.group ++ vs) := by
  induction vs generalizing r with
  | nil =>
    have hlt := hr.length_group
    rw [List.map_nil, List.nil_append, run_padding (.inl (by rw [hr.pads_eq]; omega)),
      List.append_nil, bytesOf_group hlt, List.length_nil, hr.pads_eq, Complete, Nat.add_zero,
      Nat.mod_eq_of_lt hlt, List.length_eq_zero_iff, or_and_right, and_assoc]
    refine or_congr_left (and_congr_right fun hnil => ?_)
    rw [hnil, show groupBytes [] = [] from rfl, List.append_nil]
  | cons v vs ih =>
    rw [List.forall_mem_cons] at hvs
    rw [List.map_cons, List.cons_append, hr.run_digit hvs.1, ih (hr.push v) hvs.2,
      complete_push, bytes_push, List.length_cons]

/-- What a reader accepts is digits with padding behind them. -/
theorem InDigits.exists_of_run (hr : r.InDigits) (h : r.run cs = .ok key) :
    ∃ (vs : List Nat) (n : Nat), (∀ v ∈ vs, v < 64) ∧
      cs = vs.map digit ++ List.replicate n '=' := by
  induction cs generalizing r with
  | nil => exact ⟨[], 0, fun v hv => absurd hv List.not_mem_nil, rfl⟩
  | cons c rest ih =>
    by_cases hc : c = '='
    · subst hc
      refine ⟨[], rest.length + 1, fun v hv => absurd hv List.not_mem_nil, ?_⟩
      rw [List.map_nil, List.nil_append, List.replicate_succ, ← eq_replicate_of_run h]
    · cases hvalue : value? c with
      | none =>
        rw [run, if_neg hc, hvalue] at h
        cases h
      | some v =>
        obtain ⟨hv, rfl⟩ := value?_eq_some_iff.1 hvalue
        rw [hr.run_digit hv] at h
        obtain ⟨vs, n, hvs, rfl⟩ := ih (hr.push v) h
        exact ⟨v :: vs, n, List.forall_mem_cons.2 ⟨hv, hvs⟩, rfl⟩

end Reader

/-! ## Whole texts -/

variable {cs : List Char} {vs : List Nat} {n : Nat} {key : List UInt8}

theorem Reader.inDigits_start : InDigits ⟨[], [], 0, false⟩ := ⟨rfl, rfl, Nat.zero_lt_succ 3⟩

theorem ascii_digits_append (hvs : ∀ v ∈ vs, v < 64) :
    ((vs.map digit ++ List.replicate n '=').any fun c => 0x80 ≤ c.toNat) = false := by
  simp only [List.any_eq_false, List.mem_append, List.mem_map, List.mem_replicate,
    decide_eq_true_eq, Nat.not_le]
  rintro c (⟨v, hv, rfl⟩ | ⟨-, rfl⟩)
  · exact toNat_digit_lt v (hvs v hv)
  · decide

theorem head?_digits_append (hvs : ∀ v ∈ vs, v < 64) :
    (vs.map digit ++ List.replicate n '=').head? = some '=' ↔ vs = [] ∧ n ≠ 0 := by
  cases vs with
  | nil =>
    cases n with
    | zero => exact iff_of_false (fun h => by cases h) fun h => h.2 rfl
    | succ n => exact iff_of_true rfl ⟨rfl, Nat.succ_ne_zero n⟩
  | cons v vs =>
    refine iff_of_false (fun h => ?_) fun h => absurd h.1 (List.cons_ne_nil v vs)
    exact digit_ne_padding v (hvs v List.mem_cons_self) (Option.some.inj h)

theorem decodeChars_digits_append (hvs : ∀ v ∈ vs, v < 64) :
    decodeChars (vs.map digit ++ List.replicate n '=') = .ok key ↔
      Complete vs.length n ∧ (vs = [] → n = 0) ∧ key = bytesOf vs := by
  have hrun : Reader.run _ (vs.map digit ++ List.replicate n '=') = .ok key ↔ _ :=
    Reader.inDigits_start.run_digits_append hvs
  rw [decodeChars, ascii_digits_append hvs, if_neg Bool.false_ne_true]
  by_cases hhead : vs = [] ∧ n ≠ 0
  · rw [if_pos ((head?_digits_append hvs).2 hhead)]
    exact iff_of_false (fun h => by cases h) fun h => hhead.2 (h.2.1 hhead.1)
  · rw [if_neg (mt (head?_digits_append hvs).1 hhead), hrun, List.length_nil, Nat.zero_add,
      List.nil_append, List.nil_append, and_iff_right (not_and_not_right.1 hhead)]

/-- The texts that are read are digits with padding behind them, and the bytes read are those of the
digits. -/
theorem decodeChars_eq_ok_iff :
    decodeChars cs = .ok key ↔
      ∃ (vs : List Nat) (n : Nat), (∀ v ∈ vs, v < 64) ∧ cs = vs.map digit ++ List.replicate n '=' ∧
        Complete vs.length n ∧ (vs = [] → n = 0) ∧ key = bytesOf vs := by
  constructor
  · intro h
    have hrun : Reader.run ⟨[], [], 0, false⟩ cs = .ok key := by
      unfold decodeChars at h
      split at h
      · cases h
      · split at h
        · cases h
        · exact h
    obtain ⟨vs, n, hvs, rfl⟩ := Reader.inDigits_start.exists_of_run hrun
    exact ⟨vs, n, hvs, rfl, (decodeChars_digits_append hvs).1 h⟩
  · rintro ⟨vs, n, hvs, rfl, h⟩
    exact (decodeChars_digits_append hvs).2 h

/-- Only the empty text is read as no bytes. -/
theorem decodeChars_eq_ok_nil (h : decodeChars cs = .ok []) : cs = [] := by
  obtain ⟨vs, n, -, rfl, hcomplete, hempty, hnil⟩ := decodeChars_eq_ok_iff.1 h
  obtain rfl := (bytesOf_eq_nil_iff (complete_iff.1 hcomplete).1).1 hnil.symm
  rw [hempty rfl]
  rfl

/-! ## Encodings -/

/-- The characters are the digits of the encoding of `key`, but for the spare bits of the last
digit, with padding behind them: that of the encoding, or any padding where no group is left
incomplete. -/
def Spells (cs : List Char) (key : List UInt8) : Prop :=
  ∃ (front : List Nat) (last canonical pads : Nat),
    (∀ v ∈ front, v < 64) ∧ last < 64 ∧ canonical < 64 ∧
      cs = (front ++ [last]).map digit ++ List.replicate pads '=' ∧
      encodeChars key = (front ++ [canonical]).map digit ++
        List.replicate (padding key.length) '=' ∧
      last / 4 ^ padding key.length = canonical / 4 ^ padding key.length ∧
      (pads = padding key.length ∨ key.length % 3 = 0)

theorem encodeChars_eq_iff (hvs : ∀ v ∈ vs, v < 64) :
    encodeChars key = vs.map digit ++ List.replicate (padding key.length) '=' ↔
      digitsOf key = vs := by
  rw [encodeChars_eq, List.append_cancel_right_eq]
  exact ⟨map_digit_injective (digitsOf_lt key) hvs, congrArg _⟩

theorem length_concat_congr (front : List Nat) (a b : Nat) :
    (front ++ [a]).length = (front ++ [b]).length := by
  rw [List.length_append, List.length_append, List.length_singleton, List.length_singleton]

theorem missing_of_length_eq (h : vs.length = (digitsOf key).length) :
    missing vs.length = padding key.length := by
  rw [h, length_digitsOf]

theorem complete_of_length_eq (h : vs.length = (digitsOf key).length) :
    Complete vs.length n ↔ n = padding key.length ∨ key.length % 3 = 0 := by
  have hmissing := missing_of_length_eq h
  rw [complete_iff, hmissing]
  unfold missing padding at *
  omega

/-- Digits that differ in spare bits hold the same bytes. -/
theorem bytesOf_concat_congr {front : List Nat} {a b : Nat} (hone : (front ++ [a]).length % 4 ≠ 1)
    (h : a / 4 ^ missing (front ++ [a]).length = b / 4 ^ missing (front ++ [a]).length) :
    bytesOf (front ++ [a]) = bytesOf (front ++ [b]) := by
  have hlength := length_concat_congr front a b
  have hone' := hlength ▸ hone
  rw [← bytesOf_clearSpare (front ++ [a]), ← bytesOf_clearSpare (front ++ [b]),
    clearSpare_concat front a hone, clearSpare_concat front b hone', h, hlength]

/-- The encoding of a key spells it. -/
theorem spells_encodeChars (hkey : key ≠ []) : Spells (encodeChars key) key := by
  obtain hnil | ⟨front, last, hdigits⟩ := List.eq_nil_or_concat' (digitsOf key)
  · exact absurd (by rw [← bytesOf_digitsOf key, hnil]; rfl) hkey
  have hlt := digitsOf_lt key
  rw [hdigits, List.forall_mem_append, List.forall_mem_singleton] at hlt
  have hchars := (encodeChars_eq_iff (hdigits ▸ digitsOf_lt key)).2 hdigits
  exact ⟨front, last, last, padding key.length, hlt.1, hlt.2, hlt.2, hchars, hchars, rfl, .inl rfl⟩

/-- The texts read as a key of at least one byte are those that spell it. -/
theorem decodeChars_eq_ok_iff_spells (hkey : key ≠ []) :
    decodeChars cs = .ok key ↔ Spells cs key := by
  rw [decodeChars_eq_ok_iff]
  constructor
  · rintro ⟨vs, n, hvs, rfl, hcomplete, -, hbytes⟩
    obtain rfl | ⟨front, last, rfl⟩ := List.eq_nil_or_concat' vs
    · exact absurd hbytes hkey
    have hone := (complete_iff.1 hcomplete).1
    have hdigits := digitsOf_bytesOf hvs hone
    rw [← hbytes, clearSpare_concat front last hone] at hdigits
    have hlength : (front ++ [last]).length = (digitsOf key).length := by
      rw [hdigits]
      exact length_concat_congr front last _
    rw [missing_of_length_eq hlength] at hdigits
    have hlt := digitsOf_lt key
    have hchars := (encodeChars_eq_iff (hdigits ▸ hlt)).2 hdigits
    rw [hdigits, List.forall_mem_append, List.forall_mem_singleton] at hlt
    rw [List.forall_mem_append, List.forall_mem_singleton] at hvs
    have hpads := (complete_of_length_eq hlength).1 hcomplete
    refine ⟨front, last, _, n, hvs.1, hvs.2, hlt.2, rfl, hchars, ?_, hpads⟩
    rw [Nat.mul_div_cancel _ (Nat.pow_pos (Nat.zero_lt_succ 3))]
  · rintro ⟨front, last, canonical, pads, hfront, hlast, hcanonical, rfl, hchars, hspare, hpads⟩
    have hlt : ∀ v < 64, ∀ w ∈ front ++ [v], w < 64 := by
      intro v hv
      exact List.forall_mem_append.2 ⟨hfront, List.forall_mem_singleton.2 hv⟩
    have hdigits := (encodeChars_eq_iff (hlt canonical hcanonical)).1 hchars
    have hlength : (front ++ [last]).length = (digitsOf key).length := by
      rw [hdigits]
      exact length_concat_congr front last canonical
    have hcomplete := (complete_of_length_eq hlength).2 hpads
    have hone := (complete_iff.1 hcomplete).1
    have hne : front ++ [last] ≠ [] :=
      List.append_ne_nil_of_right_ne_nil front (List.cons_ne_nil last [])
    refine ⟨front ++ [last], pads, hlt last hlast, rfl, hcomplete, fun h => absurd h hne, ?_⟩
    calc key = bytesOf (digitsOf key) := (bytesOf_digitsOf key).symm
      _ = bytesOf (front ++ [canonical]) := by rw [hdigits]
      _ = bytesOf (front ++ [last]) := by
        refine (bytesOf_concat_congr hone ?_).symm
        rw [missing_of_length_eq hlength, hspare]

end RequestSigning.Base64
