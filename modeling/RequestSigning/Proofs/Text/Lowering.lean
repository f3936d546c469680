import RequestSigning.Text.Case

/-!
# Characters that lower case leaves alone

Below the capital letters no character is moved, and none from above is moved there. So lower case
brings neither a line feed nor a colon into a text that has none. No character is dropped either, so
only the empty text is empty in lower case. How many characters come of one does not depend on where
it stands.
-/

namespace RequestSigning.Text

/-- A code point above zero and below the capital letters. -/
def BelowLetters (c : Char) : Prop := 0 < c.toNat ∧ c.toNat < 0x41

instance (c : Char) : Decidable (BelowLetters c) :=
  inferInstanceAs (Decidable (0 < c.toNat ∧ c.toNat < 0x41))

/-- A code point from the capital letters on gives no such character, nor does a surrogate. -/
theorem not_belowLetters_ofNat {n : Nat} (hn : 0x41 ≤ n) : ¬ BelowLetters (Char.ofNat n) := by
  rintro ⟨hpos, hlt⟩
  unfold Char.ofNat at hpos hlt
  by_cases hv : n.isValidChar
  · rw [dif_pos hv] at hlt
    change n < 0x41 at hlt
    omega
  · rw [dif_neg hv] at hpos
    exact Nat.lt_irrefl 0 hpos

theorem eq_of_toLower_eq {c x : Char} (hx : BelowLetters x) (h : c.toLower = x) : c = x := by
  unfold Char.toLower at h
  split at h
  · next hc =>
    exfalso
    have hle : 0x41 ≤ c.toNat := UInt32.le_iff_toNat_le.1 hc.1
    have hge : c.toNat ≤ 0x5a := UInt32.le_iff_toNat_le.1 hc.2
    have hn : (c.val + 32).toNat = x.toNat := congrArg Char.toNat h
    rw [UInt32.toNat_add] at hn
    change (c.toNat + 32) % 2 ^ 32 = x.toNat at hn
    have hlt := hx.2
    omega
  · exact h

theorem letter_le_apply {r : CaseRun} (hr : r ∈ lowerRuns) {n : Nat} (hn : r.contains n) :
    0x41 ≤ r.apply n := by
  have hstart : ∀ r ∈ lowerRuns, (0x41 : Int) ≤ r.first + r.shift := by decide +kernel
  have hle := hstart r hr
  simp only [CaseRun.contains, Bool.and_eq_true, decide_eq_true_eq] at hn
  have hfirst := hn.1.1
  unfold CaseRun.apply
  omega

theorem mem_of_lookup_eq_some {sequences : List (Nat × List Nat)} {n : Nat} {s : List Nat}
    (h : sequences.lookup n = some s) : (n, s) ∈ sequences := by
  obtain ⟨before, after, heq, _⟩ := List.lookup_eq_some_iff.1 h
  exact heq ▸ List.mem_append_right _ List.mem_cons_self

theorem letter_le_of_lookup {n : Nat} {s : List Nat} (hs : lowerSequences.lookup n = some s) :
    ∀ k ∈ s, 0x41 ≤ k := by
  have hall : ∀ e ∈ lowerSequences, ∀ k ∈ e.2, 0x41 ≤ k := by decide +kernel
  exact hall (n, s) (mem_of_lookup_eq_some hs)

theorem eq_of_mem_mapCase {c x : Char} (hx : BelowLetters x)
    (h : x ∈ mapCase lowerRuns lowerSequences c) : c = x := by
  unfold mapCase at h
  split at h
  · next s hs =>
    obtain ⟨n, hn, rfl⟩ := List.mem_map.1 h
    exact absurd hx (not_belowLetters_ofNat (letter_le_of_lookup hs n hn))
  · split at h
    · next r hr =>
      have hc := List.find?_some hr
      rw [List.mem_singleton] at h
      subst h
      exact absurd hx (not_belowLetters_ofNat (letter_le_apply (List.mem_of_find?_eq_some hr) hc))
    · exact (List.mem_singleton.1 h).symm

theorem eq_of_mem_lowerChar {c x : Char} (hx : BelowLetters x) (h : x ∈ lowerChar c) : c = x := by
  unfold lowerChar at h
  split at h
  · exact eq_of_toLower_eq hx (List.mem_singleton.1 h).symm
  · exact eq_of_mem_mapCase hx h

theorem mem_of_mem_lowerFrom {x : Char} (hx : BelowLetters x) (before cs : List Char)
    (h : x ∈ lowerFrom before cs) : x ∈ cs := by
  induction cs generalizing before with
  | nil => exact h
  | cons c rest ih =>
    rcases List.mem_append.1 h with hc | hr
    · by_cases hs : c = 'Σ'
      · -- Both forms of a small sigma lie above the letters.
        rw [if_pos hs, List.mem_singleton] at hc
        subst hc
        split at hx <;> exact absurd hx (by decide)
      · rw [if_neg hs] at hc
        rw [eq_of_mem_lowerChar hx hc]
        exact List.mem_cons_self
    · exact List.mem_cons_of_mem _ (ih _ hr)

theorem not_mem_lower {x : Char} (hx : BelowLetters x) {s : String} (h : x ∉ s.toList) :
    x ∉ (lower s).toList := by
  rw [toList_lower]
  exact fun hl => h (mem_of_mem_lowerFrom hx [] s.toList hl)

/-! ## Lower case drops no character -/

theorem lowerChar_ne_nil (c : Char) : lowerChar c ≠ [] := by
  unfold lowerChar mapCase
  split
  · exact List.cons_ne_nil _ _
  · split
    · next s hs =>
      have hall : ∀ e ∈ lowerSequences, e.2 ≠ [] := by decide +kernel
      exact fun hnil => hall _ (mem_of_lookup_eq_some hs) (List.map_eq_nil_iff.1 hnil)
    · split <;> exact List.cons_ne_nil _ _

/-- How many characters a character has in lower case, wherever it stands. -/
def lowerLength (c : Char) : Nat := if c = 'Σ' then 1 else (lowerChar c).length

theorem length_lowerFrom_cons (before : List Char) (c : Char) (rest : List Char) :
    (lowerFrom before (c :: rest)).length =
      lowerLength c + (lowerFrom (c :: before) rest).length := by
  rw [lowerFrom, List.length_append]
  unfold lowerLength
  split <;> rfl

theorem length_lowerFrom_congr (before before' cs : List Char) :
    (lowerFrom before cs).length = (lowerFrom before' cs).length := by
  induction cs generalizing before before' with
  | nil => rfl
  | cons c rest ih => rw [length_lowerFrom_cons, length_lowerFrom_cons, ih]

theorem length_lowerFrom_append (before cs cs' : List Char) :
    (lowerFrom before (cs ++ cs')).length =
      (lowerFrom before cs).length + (lowerFrom [] cs').length := by
  induction cs generalizing before with
  | nil =>
    rw [List.nil_append, length_lowerFrom_congr before []]
    exact (Nat.zero_add _).symm
  | cons c rest ih =>
    rw [List.cons_append, length_lowerFrom_cons, length_lowerFrom_cons, ih, Nat.add_assoc]

theorem length_lowerChars_append (cs cs' : List Char) :
    (lowerChars (cs ++ cs')).length = (lowerChars cs).length + (lowerChars cs').length :=
  length_lowerFrom_append [] cs cs'

theorem lower_eq_empty_iff {s : String} : lower s = "" ↔ s = "" := by
  rw [← String.toList_eq_nil_iff, toList_lower, ← String.toList_eq_nil_iff]
  unfold lowerChars
  cases s.toList with
  | nil => exact iff_of_true rfl rfl
  | cons c rest =>
    refine iff_of_false (fun h => ?_) (List.cons_ne_nil c rest)
    have hfirst := (List.append_eq_nil_iff.1 h).1
    split at hfirst
    · exact List.cons_ne_nil _ _ hfirst
    · exact lowerChar_ne_nil c hfirst

end RequestSigning.Text
