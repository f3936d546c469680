import RequestSigning.Proofs.Date.Reading

/-!
# Dates in universal time

With the offset zero behind it a date is read in universal time, if it has a time. A date without a
time is not: the sign of the offset is the character between date and time then, and what follows is
the time. An offset of its own that stands in front of the zero can only count if a null character
ends the text there.
-/

namespace RequestSigning.Date

variable {colons ends : Bool} {count n micros : Nat} {cs rest read : List Char} {values : List Nat}
  {clock : Clock} {offset : Option Int}

/-! ## What is read in front of a sign -/

/-- No digit is read from behind a sign. -/
theorem exists_suffix_of_readDigits {start : Nat}
    (h : readDigits count start (cs ++ '+' :: rest) = some (n, read)) :
    ∃ cs', cs' <:+ cs ∧ read = cs' ++ '+' :: rest := by
  obtain ⟨ds, hds, happend, -⟩ := readDigits_from_eq_some_iff.1 h
  rcases List.append_eq_append_iff.1 happend with ⟨more, rfl, hmore⟩ | ⟨cs', rfl, rfl⟩
  · cases more with
    | nil => exact ⟨[], List.nil_suffix, hmore.symm⟩
    | cons c more =>
      obtain ⟨rfl, -⟩ := List.cons.inj hmore
      cases hds.isDigit '+' (List.mem_append_right _ List.mem_cons_self)
  · exact ⟨cs', List.suffix_append _ _, rfl⟩

/-- A fraction does not end the text in front of a sign, unless a null character does. -/
theorem null_mem_of_readFraction (h : readFraction (cs ++ '+' :: rest) = some (micros, true)) :
    '\x00' ∈ cs := by
  simp only [readFraction, Option.bind_eq_bind, Option.bind_eq_some_iff, Prod.exists] at h
  obtain ⟨value, read, hread, h⟩ := h
  obtain ⟨cs', hsuffix, rfl⟩ := exists_suffix_of_readDigits hread
  have hends := (Prod.mk.inj (Option.some.inj h)).2
  rw [List.dropWhile_append] at hends
  split at hends
  · cases hends
  · next hne =>
    cases hdrop : cs'.dropWhile Char.isDigit with
    | nil => simp [hdrop] at hne
    | cons c cs'' =>
      rw [hdrop] at hends
      obtain rfl : c = '\x00' := by simpa [endsHere] using hends
      have hmem : '\x00' ∈ cs'.dropWhile Char.isDigit := hdrop ▸ List.mem_cons_self
      exact hsuffix.subset (List.dropWhile_subset _ hmem)

theorem following?_cons (c : Char) (hne : cs ≠ []) : following? colons (c :: cs) =
    if colons && c = ':' then some (.group cs)
    else if c = '.' || c = ',' then some (.fraction cs)
    else if colons then none
    else some (.group (c :: cs)) := by
  obtain ⟨d, cs, rfl⟩ := List.exists_cons_of_ne_nil hne
  rfl

/-- In front of a sign with something behind it, no character is the last one. -/
theorem exists_suffix_of_following {f : Following} (hne : rest ≠ [])
    (h : following? colons (cs ++ '+' :: rest) = some f) : ∃ cs', cs' <:+ cs ∧
      (f = .fraction (cs' ++ '+' :: rest) ∨ f = .group (cs' ++ '+' :: rest)) := by
  cases cs with
  | nil =>
    rw [List.nil_append, following?_cons '+' hne] at h
    cases colons with
    | true => cases h
    | false =>
      cases h
      exact ⟨[], List.nil_suffix, .inr rfl⟩
  | cons c cs =>
    rw [List.cons_append, following?_cons c (by simp)] at h
    split at h
    · cases h
      exact ⟨cs, List.suffix_cons c cs, .inr rfl⟩
    · split at h
      · cases h
        exact ⟨cs, List.suffix_cons c cs, .inl rfl⟩
      · split at h
        · cases h
        · cases h
          exact ⟨c :: cs, List.suffix_refl _, .inr rfl⟩

theorem null_mem_of_readGroups (hne : rest ≠ [])
    (h : readGroups colons count (cs ++ '+' :: rest) = some (values, micros, true)) :
    '\x00' ∈ cs := by
  induction count generalizing cs values with
  | zero =>
    obtain ⟨fraction, hfraction, heq⟩ := Option.map_eq_some_iff.1 h
    cases heq
    exact null_mem_of_readFraction hfraction
  | succ count ih =>
    simp only [readGroups, Option.bind_eq_bind, Option.bind_eq_some_iff, Prod.exists] at h
    obtain ⟨value, read, hread, f, hfollowing, h⟩ := h
    obtain ⟨cs', hsuffix, rfl⟩ := exists_suffix_of_readDigits hread
    obtain ⟨cs'', hsuffix', rfl | rfl⟩ := exists_suffix_of_following hne hfollowing
    · obtain ⟨fraction, hfraction, heq⟩ := Option.map_eq_some_iff.1 h
      cases heq
      exact hsuffix.subset (hsuffix'.subset (null_mem_of_readFraction hfraction))
    · obtain ⟨⟨values', micros', ends'⟩, hgroups, heq⟩ := Option.map_eq_some_iff.1 h
      cases heq
      exact hsuffix.subset (hsuffix'.subset (ih hgroups))

theorem null_mem_of_readClock (hne : rest ≠ [])
    (h : readClock (cs ++ '+' :: rest) = some (clock, true)) :
    '\x00' ∈ cs := by
  obtain ⟨⟨values, micros, ends⟩, hgroups, heq⟩ := Option.map_eq_some_iff.1 h
  cases heq
  exact null_mem_of_readGroups hne hgroups

/-! ## Times in universal time -/

theorem readOffset_universal :
    readOffset ['+', '0', '0', ':', '0', '0'] = some (some 0) := by decide

theorem exists_of_readOffset_cons {sign : Char} (h : readOffset (sign :: cs) = some offset) :
    offset = some 0 ∨ ∃ clock distance, readClock cs = some (clock, true) ∧
      offset = some distance := by
  unfold readOffset at h
  split at h
  · next heq => cases heq
  · split at h
    · exact .inl (Option.some.inj h).symm
    · cases h
  · next heq =>
    obtain ⟨rfl, rfl⟩ := List.cons.inj heq
    obtain ⟨⟨clock, ends⟩, hclock, h⟩ := Option.bind_eq_some_iff.1 h
    cases ends with
    | false => cases h
    | true => exact .inr ⟨clock, _, hclock, (Option.some.inj h).symm⟩

/-- Behind a time the zero is the offset, unless a null character cuts it off. -/
theorem offset_of_readTime_append
    (h : readTime (cs ++ ['+', '0', '0', ':', '0', '0']) = some (clock, offset)) :
    offset = some 0 ∨ '\x00' ∈ cs := by
  simp only [readTime, Option.bind_eq_bind, Option.bind_eq_some_iff, Prod.exists] at h
  obtain ⟨clock', ends, -, offset', hoffset, h⟩ := h
  obtain rfl : offset' = offset := by
    split at h
    · exact (Prod.mk.inj (Option.some.inj h)).2
    · cases h
  rw [List.dropWhile_append] at hoffset
  cases hdrop : cs.dropWhile (!startsOffset ·) with
  | nil =>
    rw [hdrop, List.isEmpty_nil, if_pos rfl] at hoffset
    exact .inl (Option.some.inj (hoffset.symm.trans readOffset_universal))
  | cons sign ds =>
    have hds : ds ⊆ cs := fun c hc => List.dropWhile_subset _ (hdrop ▸ List.mem_cons_of_mem sign hc)
    rw [hdrop, List.isEmpty_cons, if_neg Bool.false_ne_true, List.cons_append] at hoffset
    refine (exists_of_readOffset_cons hoffset).imp_right fun ⟨_, _, hclock, _⟩ => hds ?_
    exact null_mem_of_readClock (List.cons_ne_nil _ _) hclock

theorem readTime_append (hcs : ∀ c ∈ cs, startsOffset c = false)
    (hrest : ∀ c ∈ rest.head?, startsOffset c = true) (hclock : readClock cs = some (clock, true))
    (hoffset : readOffset rest = some offset) :
    readTime (cs ++ rest) = some (clock, offset) := by
  have hbefore : ∀ c ∈ cs, (!startsOffset c) = true := by simpa using hcs
  have hbehind : ∀ c ∈ rest.head?, (!startsOffset c) = false := by simpa using hrest
  rw [readTime, Text.takeWhile_append_stop hbefore hbehind,
    Text.dropWhile_append_stop hbefore hbehind, hclock, hoffset]
  rfl

/-- A time of no known offset is the whole text. -/
theorem of_readTime_eq_none (h : readTime cs = some (clock, none)) :
    (∀ c ∈ cs, startsOffset c = false) ∧ readClock cs = some (clock, true) := by
  simp only [readTime, Option.bind_eq_bind, Option.bind_eq_some_iff, Prod.exists] at h
  obtain ⟨clock', ends, hclock, offset, hoffset, h⟩ := h
  split at h
  · next hends =>
    cases h
    obtain rfl : ends = true := by simpa using hends
    cases hdrop : cs.dropWhile (!startsOffset ·) with
    | nil =>
      have hcs := List.dropWhile_eq_nil_iff.1 hdrop
      rw [List.takeWhile_eq_self_iff.2 hcs] at hclock
      exact ⟨fun c hc => by simpa using hcs c hc, hclock⟩
    | cons sign ds =>
      rw [hdrop] at hoffset
      obtain h | ⟨_, _, -, h⟩ := exists_of_readOffset_cons hoffset <;> cases h
  · cases h

/-! ## Dates with a time -/

/-- A day with a time of day and an offset. -/
def Day.at (d : Day) (clock : Clock) (offset : Option Int) : DateTime :=
  ⟨d, clock.hour, clock.minute, clock.second, clock.microsecond, offset⟩

/-- The first moment of a day, of no known offset. -/
def Day.midnight (d : Day) : DateTime := d.at ⟨0, 0, 0, 0⟩ none

variable {t : DateTime}

/-- A date stands in front, and what is behind it is its time. -/
theorem ofChars?_eq_some_iff :
    DateTime.ofChars? cs = some t ↔ t.isValid = true ∧ ∃ length d clock offset,
      dateLength? cs = some length ∧ SpellsDate (cs.take length) d ∧
        readBehindDate (cs.drop length) = some (clock, offset) ∧ t = d.at clock offset := by
  have hguard : ∀ {t'}, (if DateTime.isValid t' then some t' else none) = some t ↔
      t.isValid = true ∧ t = t' := by
    intro t'
    split
    · next h => exact ⟨fun h' => by cases h'; exact ⟨h, rfl⟩, fun h' => by rw [h'.2]⟩
    · next h => exact iff_of_false (by simp) fun h' => h (h'.2 ▸ h'.1)
  simp only [← readDate_eq_some_iff]
  constructor
  · intro h
    simp only [DateTime.ofChars?, Option.bind_eq_bind, Option.bind_eq_some_iff] at h
    obtain ⟨length, hlength, d, hdate, ⟨clock, offset⟩, htime, h⟩ := h
    obtain ⟨hvalid, rfl⟩ := hguard.1 h
    exact ⟨hvalid, length, d, clock, offset, hlength, hdate, htime, rfl⟩
  · rintro ⟨hvalid, length, d, clock, offset, hlength, hdate, htime, rfl⟩
    simp only [DateTime.ofChars?, hlength, hdate, htime, Option.bind_eq_bind, Option.bind_some]
    exact hguard.2 ⟨hvalid, rfl⟩

/-- A plus behind a date and a time does not change where the date ends. -/
theorem dateLength?_append_plus (h : 10 ≤ cs.length) (rest : List Char) :
    dateLength? (cs ++ '+' :: rest) = dateLength? cs := by
  have hindex : ∀ {i}, i < cs.length → (cs ++ '+' :: rest)[i]? = cs[i]? := List.getElem?_append_left
  have hdigits : ((cs ++ '+' :: rest).drop 7).takeWhile Char.isDigit =
      (cs.drop 7).takeWhile Char.isDigit := by
    rw [List.drop_append_of_le_length (by omega), Text.takeWhile_append_cons rfl]
  have hten : ((cs ++ '+' :: rest)[10]?.map Char.isDigit).getD false =
      (cs[10]?.map Char.isDigit).getD false := by
    rcases h.eq_or_lt with hcs | hcs
    · simp [hcs]
    · rw [hindex hcs]
  have hlength : ¬ cs.length < 7 ∧ cs.length ≠ 7 ∧ cs.length ≠ 9 := by omega
  have hlonger : ¬ (cs ++ '+' :: rest).length < 7 ∧ (cs ++ '+' :: rest).length ≠ 7 ∧
      (cs ++ '+' :: rest).length ≠ 9 := by
    rw [List.length_append, List.length_cons]
    omega
  unfold dateLength?
  simp only [if_neg hlength.1, if_neg hlength.2.1, if_neg hlength.2.2, if_neg hlonger.1,
    if_neg hlonger.2.1, if_neg hlonger.2.2, hindex (i := 4) (by omega), hindex (i := 5) (by omega),
    hindex (i := 8) (by omega), hdigits, hten]

theorem two_le_length_of_readClock (h : readClock cs = some (clock, ends)) : 2 ≤ cs.length := by
  obtain ⟨⟨values, micros, ends⟩, hgroups, -⟩ := Option.map_eq_some_iff.1 h
  simp only [readGroups, Option.bind_eq_bind, Option.bind_eq_some_iff, Prod.exists] at hgroups
  obtain ⟨value, read, hread, -⟩ := hgroups
  obtain ⟨ds, hds, rfl, -⟩ := readDigits_eq_some_iff.1 hread
  rw [List.length_append, hds.length_eq]
  exact Nat.le_add_right _ _

theorem isValid_at_zero {d : Day} (h : (d.at clock none).isValid = true) :
    (d.at clock (some 0)).isValid = true := by
  unfold DateTime.isValid at h ⊢
  rw [Bool.and_eq_true] at h ⊢
  exact ⟨h.1, rfl⟩

/-- A date with a time but no known offset is read in universal time if a plus and zeros stand
behind it. -/
theorem ofChars?_append_universal_of_eq_none (h : DateTime.ofChars? cs = some t)
    (hoffset : t.offset = none) (hdate : ∀ d, ¬ SpellsDate cs d) :
    DateTime.ofChars? (cs ++ ['+', '0', '0', ':', '0', '0']) =
      some { t with offset := some 0 } := by
  obtain ⟨hvalid, length, d, clock, offset, hlength, hd, htime, rfl⟩ := ofChars?_eq_some_iff.1 h
  obtain rfl : offset = none := hoffset
  have hseven := seven_le_of_dateLength? hlength
  rcases Nat.lt_or_ge length cs.length with hlt | hle
  · rw [List.drop_eq_getElem_cons hlt] at htime
    obtain ⟨hcs, hclock⟩ := of_readTime_eq_none htime
    have htwo := two_le_length_of_readClock hclock
    rw [List.length_drop] at htwo
    refine ofChars?_eq_some_iff.2 ⟨?_, length, d, clock, some 0, ?_, ?_, ?_, rfl⟩
    · exact isValid_at_zero hvalid
    · rw [dateLength?_append_plus (by omega), hlength]
    · rwa [List.take_append_of_le_length hlt.le]
    · rw [List.drop_append_of_le_length hlt.le, List.drop_eq_getElem_cons hlt]
      have hsign : ∀ c ∈ ['+', '0', '0', ':', '0', '0'].head?, startsOffset c = true := by
        rintro _ ⟨⟩
        rfl
      exact readTime_append hcs hsign hclock readOffset_universal
  · rw [List.take_of_length_le hle] at hd
    exact absurd hd (hdate d)

theorem readBehindDate_universal :
    readBehindDate ['+', '0', '0', ':', '0', '0'] = some (⟨0, 0, 0, 0⟩, none) := by decide

/-- With a plus and zeros behind it a text is read as a date in universal time, unless it is a date
only. Then the plus counts as the character before the time. -/
theorem ofChars?_append_universal {body : List Char}
    (h : DateTime.ofChars? (body ++ ['+', '0', '0', ':', '0', '0']) = some t) :
    (SpellsDate body t.day ∧ t = t.day.midnight) ∨
      ((∀ d, ¬ SpellsDate body d) ∧ (t.offset = some 0 ∨ '\x00' ∈ body)) := by
  obtain ⟨-, length, d, clock, offset, hlength, hdate, htime, rfl⟩ := ofChars?_eq_some_iff.1 h
  rcases Nat.lt_trichotomy body.length length with hlt | rfl | hlt
  · obtain ⟨k, hk⟩ := Nat.exists_eq_add_of_lt hlt
    refine absurd ?_ (hdate.not_mem (c := '+') rfl (by decide) (by decide))
    rw [hk, Nat.add_assoc, List.take_length_add_append]
    exact List.mem_append_right _ List.mem_cons_self
  · rw [List.take_left] at hdate
    rw [List.drop_left] at htime
    cases readBehindDate_universal.symm.trans htime
    exact .inl ⟨hdate, rfl⟩
  · rw [List.drop_append_of_le_length hlt.le, List.drop_eq_getElem_cons hlt] at htime
    refine .inr ⟨fun d' hbody => ?_, (offset_of_readTime_append htime).imp_right
      (List.drop_subset _ _ ·)⟩
    have hwhole : dateLength? (body ++ ['+', '0', '0', ':', '0', '0']) = some body.length :=
      hbody.dateLength?_append (by simp) (by simp)
    exact hlt.ne (Option.some.inj (hlength.symm.trans hwhole))

end RequestSigning.Date
