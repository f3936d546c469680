import RequestSigning.Proofs.Json.Reader

/-!
# Documents that are read

The reader accepts exactly what the grammar writes, with blanks around it: what is written it takes,
however the text goes on behind it. It breaks off to count digits exactly where the first thing that
is no document is a whole number with too many of them.
-/

namespace RequestSigning.Json

open Json.Text (ofChars)

variable {α : Type} {fuel count : Nat} {c : Char} {s close : Symbol} {as : List α}
  {bs p rest t : Text} {v : Json} {more : Text → Reading (List α)} {stop : Stop}

/-! ## What is written is read -/

theorem Written.length_pos (h : Written p v) : 0 < p.length := by
  obtain ⟨c, q, rfl, -⟩ := h.starts
  exact Nat.succ_pos _

theorem WrittenMember.length_pos {member : Text × Json} (h : WrittenMember p member) :
    0 < p.length := by
  cases h
  exact Nat.succ_pos _

theorem readValue_of_startsScalar (h : startsScalar c = true) :
    readValue (fuel + 1) (.char c :: t) = readScalar (.char c :: t) := by
  have hne : ∀ d : Char, startsScalar d = false → Symbol.char c ≠ .char d := by
    rintro d hd ⟨⟩
    rw [h] at hd
    cases hd
  exact readValue_scalar fuel (hne _ rfl) (hne _ rfl) (hne _ rfl)

theorem readValue_of_scalar {p : List Char} (h : Scalar p v) (hrest : EndsNumber rest) :
    readValue (fuel + 1) (ofChars p ++ rest) = .ok (v, rest) := by
  have hread := readScalar_of_scalar h hrest
  obtain ⟨c, q, rfl, hc⟩ := h.starts
  exact (readValue_of_startsScalar hc).trans hread

theorem readValue_of_spells {ps : List Piece} (h : Spells p ps) :
    readValue (fuel + 1) (.char '"' :: p ++ [.char '"'] ++ rest) =
      .ok (.text (joinPairs ps), rest) := by
  have hread : readString (p ++ .char '"' :: rest) = .ok (joinPairs ps, rest) :=
    readString_eq_ok_iff.2 ⟨p, ps, rfl, h, rfl⟩
  rw [List.append_assoc, List.cons_append, readValue_text, List.singleton_append, hread]
  rfl

theorem readMember_of_spells {ps : List Piece} {bs₁ bs₂ q : Text} (h : Spells p ps)
    (hbs₁ : AllBlank bs₁) (hbs₂ : AllBlank bs₂) (hq : startsValue c = true) :
    readMember fuel (.char '"' :: p ++ .char '"' :: bs₁ ++ .char ':' :: bs₂ ++ .char c :: q) =
      (readValue fuel (.char c :: q)).map fun (value, rest) => ((joinPairs ps, value), rest) := by
  have hname : readString (p ++ .char '"' :: (bs₁ ++ .char ':' :: (bs₂ ++ .char c :: q))) =
      .ok (joinPairs ps, bs₁ ++ .char ':' :: (bs₂ ++ .char c :: q)) :=
    readString_eq_ok_iff.2 ⟨p, ps, rfl, h, rfl⟩
  have hcolon : skipBlanks (bs₁ ++ .char ':' :: (bs₂ ++ .char c :: q)) =
      .char ':' :: (bs₂ ++ .char c :: q) := skipBlanks_of_stop hbs₁ rfl
  simp only [List.append_assoc, List.cons_append, readMember_name, hname, readNamed_colon hcolon,
    skipBlanks_of_stop hbs₂ (isBlank_of_startsValue hq)]

mutual

theorem Written.read {p : Text} {v : Json} : Written p v → ∀ fuel rest, 2 * p.length ≤ fuel + 1 →
    EndsNumber rest → readValue fuel (p ++ rest) = .ok (v, rest)
  | .scalar hscalar, fuel, rest, hfuel, hrest => by
    have hlength := (Written.scalar hscalar).length_pos
    obtain ⟨fuel, rfl⟩ := Nat.exists_eq_succ_of_ne_zero (n := fuel) (by omega)
    exact readValue_of_scalar hscalar hrest
  | .text hspells, fuel, rest, hfuel, _ => by
    obtain ⟨fuel, rfl⟩ := Nat.exists_eq_succ_of_ne_zero (n := fuel) (by simp at hfuel; omega)
    exact readValue_of_spells hspells
  | .emptyList hbs, fuel, rest, hfuel, _ => by
    obtain ⟨fuel, rfl⟩ := Nat.exists_eq_succ_of_ne_zero (n := fuel) (by simp at hfuel; omega)
    rw [List.append_assoc, List.cons_append, readValue_list]
    exact readEnclosed_empty hbs rfl
  | .list hbs hitems, fuel, rest, hfuel, _ => by
    obtain ⟨fuel, rfl⟩ := Nat.exists_eq_succ_of_ne_zero (n := fuel) (by simp at hfuel; omega)
    have hread := hitems.read fuel rest (by simp at hfuel; omega)
    obtain ⟨c, q, rfl, hc⟩ := hitems.starts
    rw [List.append_assoc, List.cons_append, readValue_list]
    refine readEnclosed_full hbs (isBlank_of_startsValue hc) ?_ hread
    rintro ⟨⟩
    cases hc
  | .emptyObject hbs, fuel, rest, hfuel, _ => by
    obtain ⟨fuel, rfl⟩ := Nat.exists_eq_succ_of_ne_zero (n := fuel) (by simp at hfuel; omega)
    rw [List.append_assoc, List.cons_append, readValue_object]
    exact readEnclosed_empty hbs rfl
  | .object hbs hmembers, fuel, rest, hfuel, _ => by
    obtain ⟨fuel, rfl⟩ := Nat.exists_eq_succ_of_ne_zero (n := fuel) (by simp at hfuel; omega)
    have hread := hmembers.read fuel rest (by simp at hfuel; omega)
    obtain ⟨q, rfl⟩ := hmembers.starts
    rw [List.append_assoc, List.cons_append, readValue_object]
    exact readEnclosed_full hbs rfl (by decide) hread

theorem WrittenItems.read {p : Text} {items : List Json} : WrittenItems p items → ∀ fuel rest,
    2 * p.length ≤ fuel + 2 → readItems fuel (p ++ rest) = .ok (items, rest)
  | @WrittenItems.last q bs _ hitem hbs, fuel, rest, hfuel => by
    have hlength := hitem.length_pos
    obtain ⟨fuel, rfl⟩ := Nat.exists_eq_succ_of_ne_zero (n := fuel) (by simp at hfuel; omega)
    have hread := hitem.read fuel (bs ++ .char ']' :: rest) (by simp at hfuel; omega)
      (endsNumber_append hbs (endsNumber_cons rfl))
    rw [List.append_assoc, List.append_assoc, List.singleton_append, readItems_succ, hread,
      readSeries_last hbs rfl]
  | @WrittenItems.more q bs₁ bs₂ q' _ _ hitem hbs₁ hbs₂ hitems, fuel, rest, hfuel => by
    have hlength := hitem.length_pos
    obtain ⟨fuel, rfl⟩ := Nat.exists_eq_succ_of_ne_zero (n := fuel) (by simp at hfuel; omega)
    have hread :=
      hitem.read fuel (bs₁ ++ .char ',' :: (bs₂ ++ (q' ++ rest))) (by simp at hfuel; omega)
      (endsNumber_append hbs₁ (endsNumber_cons rfl))
    have hmore := hitems.read fuel rest (by simp at hfuel; omega)
    obtain ⟨c, q', rfl, hc⟩ := hitems.starts
    simp only [List.append_assoc, List.cons_append] at hread hmore ⊢
    rw [readItems_succ, hread, readSeries_more hbs₁ (by decide),
      skipBlanks_of_stop hbs₂ (isBlank_of_startsValue hc), hmore]
    rfl

theorem WrittenMember.read {p : Text} {member : Text × Json} : WrittenMember p member → ∀ fuel rest,
    2 * p.length ≤ fuel + 1 → EndsNumber rest → readMember fuel (p ++ rest) = .ok (member, rest)
  | .mk hspells hbs₁ hbs₂ hvalue, fuel, rest, hfuel, hrest => by
    have hread := hvalue.read fuel rest (by simp at hfuel; omega) hrest
    obtain ⟨c, q, rfl, hc⟩ := hvalue.starts
    rw [List.append_assoc]
    exact (readMember_of_spells hspells hbs₁ hbs₂ hc).trans (congrArg (Except.map _) hread)

theorem WrittenMembers.read {p : Text} {entries : List (Text × Json)} : WrittenMembers p entries →
    ∀ fuel rest, 2 * p.length ≤ fuel + 2 → readMembers fuel (p ++ rest) = .ok (entries, rest)
  | @WrittenMembers.last q bs _ hmember hbs, fuel, rest, hfuel => by
    have hlength := hmember.length_pos
    obtain ⟨fuel, rfl⟩ := Nat.exists_eq_succ_of_ne_zero (n := fuel) (by simp at hfuel; omega)
    have hread := hmember.read fuel (bs ++ .char '\x7d' :: rest) (by simp at hfuel; omega)
      (endsNumber_append hbs (endsNumber_cons rfl))
    rw [List.append_assoc, List.append_assoc, List.singleton_append, readMembers_succ, hread,
      readSeries_last hbs rfl]
  | @WrittenMembers.more q bs₁ bs₂ q' _ _ hmember hbs₁ hbs₂ hmembers, fuel, rest, hfuel => by
    have hlength := hmember.length_pos
    obtain ⟨fuel, rfl⟩ := Nat.exists_eq_succ_of_ne_zero (n := fuel) (by simp at hfuel; omega)
    have hread := hmember.read fuel (bs₁ ++ .char ',' :: (bs₂ ++ (q' ++ rest)))
      (by simp at hfuel; omega) (endsNumber_append hbs₁ (endsNumber_cons rfl))
    have hmore := hmembers.read fuel rest (by simp at hfuel; omega)
    obtain ⟨q', rfl⟩ := hmembers.starts
    simp only [List.append_assoc, List.cons_append] at hread hmore ⊢
    rw [readMembers_succ, hread, readSeries_more hbs₁ (by decide), skipBlanks_of_stop hbs₂ rfl,
      hmore]
    rfl

end

/-! ## Where digits are counted -/

theorem readEnclosed_error {empty : Json} {f : List α → Json} (hbs : AllBlank bs)
    (hs : isBlank s = false) (hclose : s ≠ close) (hmore : more (s :: t) = .error stop) :
    readEnclosed close empty f more (bs ++ s :: t) = .error stop := by
  simp only [readEnclosed, skipBlanks_of_stop hbs hs, if_neg hclose, hmore, Except.map]

theorem readValue_of_longWhole (h : LongWhole count t) :
    readValue (fuel + 1) t = .error (.tooManyDigits count) := by
  have hread := readScalar_of_longWhole h
  obtain ⟨c, rest, rfl, hc⟩ := h.startsScalar
  exact (readValue_of_startsScalar hc).trans hread

theorem Overlong.length_pos (h : Overlong count t) : 0 < t.length := by
  obtain ⟨c, rest, rfl, -⟩ := h.starts
  exact Nat.succ_pos _

theorem OverlongMember.length_pos (h : OverlongMember count t) : 0 < t.length := by
  cases h
  exact Nat.succ_pos _

mutual

theorem Overlong.read {count : Nat} {t : Text} :
    Overlong count t → ∀ fuel, 2 * t.length ≤ fuel + 1 →
      readValue fuel t = .error (.tooManyDigits count)
  | .number hnumber, fuel, hfuel => by
    have hlength := (Overlong.number hnumber).length_pos
    obtain ⟨fuel, rfl⟩ := Nat.exists_eq_succ_of_ne_zero (n := fuel) (by omega)
    exact readValue_of_longWhole hnumber
  | .list hbs hitems, fuel, hfuel => by
    obtain ⟨fuel, rfl⟩ := Nat.exists_eq_succ_of_ne_zero (n := fuel) (by simp at hfuel; omega)
    have hread := hitems.read fuel (by simp at hfuel; omega)
    obtain ⟨c, rest, rfl, hc⟩ := hitems.starts
    rw [List.cons_append, readValue_list]
    refine readEnclosed_error hbs (isBlank_of_startsValue hc) ?_ hread
    rintro ⟨⟩
    cases hc
  | .object hbs hmembers, fuel, hfuel => by
    obtain ⟨fuel, rfl⟩ := Nat.exists_eq_succ_of_ne_zero (n := fuel) (by simp at hfuel; omega)
    have hread := hmembers.read fuel (by simp at hfuel; omega)
    obtain ⟨rest, rfl⟩ := hmembers.starts
    rw [List.cons_append, readValue_object]
    exact readEnclosed_error hbs rfl (by decide) hread

theorem OverlongItems.read {count : Nat} {t : Text} : OverlongItems count t → ∀ fuel,
    2 * t.length ≤ fuel → readItems fuel t = .error (.tooManyDigits count)
  | .first hitem, fuel, hfuel => by
    have hlength := hitem.length_pos
    obtain ⟨fuel, rfl⟩ := Nat.exists_eq_succ_of_ne_zero (n := fuel) (by omega)
    rw [readItems_succ, hitem.read fuel (by omega)]
    rfl
  | @OverlongItems.more _ p bs₁ bs₂ t _ hitem hbs₁ hbs₂ hitems, fuel, hfuel => by
    have hlength := hitem.length_pos
    obtain ⟨fuel, rfl⟩ := Nat.exists_eq_succ_of_ne_zero (n := fuel) (by simp at hfuel; omega)
    have hread := hitem.read fuel (bs₁ ++ .char ',' :: (bs₂ ++ t)) (by simp at hfuel; omega)
      (endsNumber_append hbs₁ (endsNumber_cons rfl))
    have hmore := hitems.read fuel (by simp at hfuel; omega)
    obtain ⟨c, t, rfl, hc⟩ := hitems.starts
    simp only [List.append_assoc, List.cons_append] at hread hmore ⊢
    rw [readItems_succ, hread, readSeries_more hbs₁ (by decide),
      skipBlanks_of_stop hbs₂ (isBlank_of_startsValue hc), hmore]
    rfl

theorem OverlongMember.read {count : Nat} {t : Text} : OverlongMember count t → ∀ fuel,
    2 * t.length ≤ fuel + 1 → readMember fuel t = .error (.tooManyDigits count)
  | .mk hspells hbs₁ hbs₂ hvalue, fuel, hfuel => by
    have hread := hvalue.read fuel (by simp at hfuel; omega)
    obtain ⟨c, q, rfl, hc⟩ := hvalue.starts
    rw [readMember_of_spells hspells hbs₁ hbs₂ hc, hread]
    rfl

theorem OverlongMembers.read {count : Nat} {t : Text} : OverlongMembers count t → ∀ fuel,
    2 * t.length ≤ fuel → readMembers fuel t = .error (.tooManyDigits count)
  | .first hmember, fuel, hfuel => by
    have hlength := hmember.length_pos
    obtain ⟨fuel, rfl⟩ := Nat.exists_eq_succ_of_ne_zero (n := fuel) (by omega)
    rw [readMembers_succ, hmember.read fuel (by omega)]
    rfl
  | @OverlongMembers.more _ p bs₁ bs₂ t _ hmember hbs₁ hbs₂ hmembers, fuel, hfuel => by
    have hlength := hmember.length_pos
    obtain ⟨fuel, rfl⟩ := Nat.exists_eq_succ_of_ne_zero (n := fuel) (by simp at hfuel; omega)
    have hread := hmember.read fuel (bs₁ ++ .char ',' :: (bs₂ ++ t)) (by simp at hfuel; omega)
      (endsNumber_append hbs₁ (endsNumber_cons rfl))
    have hmore := hmembers.read fuel (by simp at hfuel; omega)
    obtain ⟨t, rfl⟩ := hmembers.starts
    simp only [List.append_assoc, List.cons_append] at hread hmore ⊢
    rw [readMembers_succ, hread, readSeries_more hbs₁ (by decide), skipBlanks_of_stop hbs₂ rfl,
      hmore]
    rfl

end

/-! ## Whole documents -/

/-- No mark of the byte order stands in front of blanks and a value. -/
theorem head?_ne_mark (hbs : AllBlank bs) (hc : startsValue c = true) :
    (bs ++ .char c :: rest).head? ≠ some (.char '\ufeff') := by
  cases bs with
  | nil =>
    rintro ⟨⟩
    cases hc
  | cons b bs =>
    rintro ⟨⟩
    cases hbs _ List.mem_cons_self

/-- A document is a written value with nothing but blanks around it. -/
theorem readDocument_eq_ok_iff : readDocument t = .ok v ↔ ∃ before p after,
    t = before ++ p ++ after ∧ AllBlank before ∧ AllBlank after ∧ Written p v := by
  constructor
  · intro h
    unfold readDocument at h
    split at h
    · cases h
    obtain ⟨before, hbefore, ht⟩ := exists_blanks t
    cases hread : readValue (2 * t.length + 1) (skipBlanks t) with
    | error e =>
      rw [hread] at h
      cases h
    | ok read =>
      obtain ⟨value, left⟩ := read
      rw [hread] at h
      dsimp only at h
      split at h
      · next hend =>
        cases h
        obtain ⟨p, hp, hwritten⟩ := (sound_read _).1.takes hread
        exact ⟨before, p, left, by rw [ht, hp, List.append_assoc], hbefore,
          skipBlanks_eq_nil_iff.1 hend, hwritten⟩
      · cases h
  · rintro ⟨before, p, after, rfl, hbefore, hafter, hwritten⟩
    have hread := hwritten.read (2 * (before ++ p ++ after).length + 1) after
      (by simp; omega) (by simpa using endsNumber_append hafter endsNumber_nil)
    obtain ⟨c, q, rfl, hc⟩ := hwritten.starts
    rw [List.append_assoc, List.cons_append] at hread ⊢
    rw [readDocument, if_neg (head?_ne_mark hbefore hc),
      skipBlanks_of_stop hbefore (isBlank_of_startsValue hc), hread]
    dsimp only
    rw [skipBlanks_eq_nil_iff.2 hafter]

/-- The first thing that is no document is a whole number of `count` digits, more than it may
have. -/
def MeetsLongNumber (count : Nat) (t : Text) : Prop :=
  ∃ before left, t = before ++ left ∧ AllBlank before ∧ Overlong count left

theorem readDocument_eq_tooManyDigits_iff :
    readDocument t = .error (.tooManyDigits count) ↔ MeetsLongNumber count t := by
  constructor
  · intro h
    unfold readDocument at h
    split at h
    · cases h
    obtain ⟨before, hbefore, ht⟩ := exists_blanks t
    cases hread : readValue (2 * t.length + 1) (skipBlanks t) with
    | error e =>
      rw [hread] at h
      cases h
      exact ⟨before, _, ht, hbefore, (sound_read _).1.counts hread⟩
    | ok read =>
      rw [hread] at h
      dsimp only at h
      split at h <;> cases h
  · rintro ⟨before, left, rfl, hbefore, hleft⟩
    have hread := hleft.read (2 * (before ++ left).length + 1) (by simp; omega)
    obtain ⟨c, rest, rfl, hc⟩ := hleft.starts
    rw [readDocument, if_neg (head?_ne_mark hbefore hc),
      skipBlanks_of_stop hbefore (isBlank_of_startsValue hc), hread]

theorem parse_eq_ok_iff : parse t = .ok v ↔ ∃ before p after,
    t = before ++ p ++ after ∧ AllBlank before ∧ AllBlank after ∧ Written p v := by
  rw [← readDocument_eq_ok_iff]
  unfold parse
  split <;> next hread => simp [hread]

theorem parse_eq_tooManyDigits_iff :
    parse t = .error (.tooManyDigits count) ↔ MeetsLongNumber count t := by
  rw [← readDocument_eq_tooManyDigits_iff]
  unfold parse
  split <;> next hread => simp [hread]

/-- Digits are counted only where more stand in a row than a whole number may have. -/
theorem MeetsLongNumber.hasLongRun (h : MeetsLongNumber count t) : HasLongRun count t := by
  obtain ⟨before, left, rfl, -, hleft⟩ := h
  exact hleft.hasLongRun.append before

theorem meetsLongNumber_of_isWhole {ds : List Char} (hds : IsWhole ds)
    (hlong : maxDigits < ds.length) : MeetsLongNumber ds.length (ofChars ds) := by
  have hnumber : LongWhole ds.length (ofChars ([] ++ ds) ++ []) :=
    @LongWhole.mk false ds [] hds hlong endsWhole_nil
  exact ⟨[], ofChars ds, rfl, allBlank_nil, .number (by simpa using hnumber)⟩

end RequestSigning.Json
