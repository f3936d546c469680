import RequestSigning.Proofs.Date.UniversalTime
import RequestSigning.Proofs.Decimal.Digits

/-!
# Dates that are read back

A date is written as one of its own spellings, in every part: numbers of fixed width, fractions and
offsets left out where they are zero or unknown. So it is read back as it was.
-/

namespace RequestSigning.Date

open Decimal (paddedText)
open Json (digitsValue)

/-! ## Numbers of fixed width -/

variable {width n : Nat}

theorem toList_paddedText (width n : Nat) : (paddedText width n).toList =
    List.replicate (width - (Decimal.natText n).toList.length) '0' ++
      (Decimal.natText n).toList := by
  rw [paddedText, String.toList_append, String.toList_ofList, String.length_toList]

theorem digitsValue_replicate_append (count : Nat) (ds : List Char) :
    digitsValue (List.replicate count '0' ++ ds) = digitsValue ds := by
  induction count with
  | zero => rfl
  | succ count ih => exact ih

theorem digitsValue_paddedText (width n : Nat) : digitsValue (paddedText width n).toList = n := by
  rw [toList_paddedText, digitsValue_replicate_append, Json.digitsValue_natText]

theorem isDigit_of_mem_paddedText {c : Char} (h : c ∈ (paddedText width n).toList) :
    c.isDigit = true := by
  rw [toList_paddedText] at h
  rcases List.mem_append.1 h with h | h
  · rw [List.eq_of_mem_replicate h]
    rfl
  · exact Decimal.isDigit_of_mem_natText h

theorem areDigits_paddedText (hwidth : 0 < width) (h : n < 10 ^ width) :
    AreDigits width (paddedText width n).toList := by
  have hlength := (Decimal.length_natText_le_iff hwidth).2 h
  refine ⟨?_, fun c => isDigit_of_mem_paddedText⟩
  rw [toList_paddedText, List.length_append, List.length_replicate]
  omega

/-! ## The parts of a date -/

variable {d : Day} {clock : Clock} {colons : Bool} {count : Nat} {ds rest : List Char}

theorem hyphen_true_append (cs : List Char) : hyphen true ++ cs = '-' :: cs := rfl

theorem daysInMonth_le (year : Int) (month : Nat) : daysInMonth year month ≤ 31 := by
  unfold daysInMonth
  split
  · split <;> omega
  all_goals omega

/-- A day by month, with hyphens. -/
def Day.text (d : Day) : String :=
  paddedText 4 d.year.toNat ++ "-" ++ paddedText 2 d.month ++ "-" ++ paddedText 2 d.day

theorem spellsDate_text (hvalid : d.isValid = true) : SpellsDate d.text.toList d := by
  simp only [Day.isValid, Bool.and_eq_true, decide_eq_true_eq] at hvalid
  obtain ⟨⟨⟨⟨⟨hfirst, hlast⟩, -⟩, hmonth⟩, -⟩, hday⟩ := hvalid
  have hdays := daysInMonth_le d.year d.month
  have hys : AreDigits 4 (paddedText 4 d.year.toNat).toList :=
    areDigits_paddedText (by decide) (by omega)
  have hms : AreDigits 2 (paddedText 2 d.month).toList :=
    areDigits_paddedText (by decide) (by omega)
  have hds : AreDigits 2 (paddedText 2 d.day).toList := areDigits_paddedText (by decide) (by omega)
  have h := SpellsDate.month true hys hms hds
  simp only [digitsValue_paddedText, hyphen_true_append] at h
  rw [Int.toNat_of_nonneg (Int.le_trans Int.one_nonneg hfirst)] at h
  simpa only [Day.text, String.toList_append, String.reduceToList, List.append_assoc,
    List.cons_append, List.nil_append] using h

/-- The numbers of a time of day have the widths that they are written with. -/
structure Clock.Fits (clock : Clock) : Prop where
  hour : clock.hour < 10 ^ 2
  minute : clock.minute < 10 ^ 2
  second : clock.second < 10 ^ 2
  microsecond : clock.microsecond < 10 ^ 6

/-- What is written of a fraction of a second. -/
def fractionText (micros : Nat) : String := if micros ≠ 0 then "." ++ paddedText 6 micros else ""

/-- A time of day in its whole length. -/
def Clock.text (clock : Clock) : String :=
  paddedText 2 clock.hour ++ ":" ++ paddedText 2 clock.minute ++ ":" ++ paddedText 2 clock.second
    ++ fractionText clock.microsecond

theorem readFraction_six (h : AreDigits 6 ds) : readFraction ds = some (digitsValue ds, true) := by
  rw [readFraction, h.length_eq]
  dsimp only
  rw [Nat.min_self, h.readDigits]
  exact congrArg (fun value => some (value, true)) (Nat.mul_one _)

theorem readGroups_last (h : AreDigits 2 ds) :
    readGroups colons (count + 1) ds = some ([digitsValue ds], 0, true) := by
  rw [readGroups, h.readDigits]
  rfl

theorem readGroups_colon (h : AreDigits 2 ds) (hne : rest ≠ []) :
    readGroups true (count + 1) (ds ++ ':' :: rest) =
      (readGroups true count rest).map fun (values, more) => (digitsValue ds :: values, more) := by
  rw [readGroups, readDigits_append h]
  simp only [Option.bind_eq_bind, Option.bind_some, following?_cons ':' hne]
  rfl

theorem readGroups_point (h : AreDigits 2 ds) (hne : rest ≠ []) :
    readGroups true (count + 1) (ds ++ '.' :: rest) =
      (readFraction rest).map ([digitsValue ds], ·) := by
  rw [readGroups, readDigits_append h]
  simp only [Option.bind_eq_bind, Option.bind_some, following?_cons '.' hne]
  rfl

/-- The last digits that are written, with the fraction behind them. -/
theorem readGroups_fractionText (h : AreDigits 2 ds) (hn : n < 10 ^ 6) :
    readGroups true (count + 1) (ds ++ (fractionText n).toList) =
      some ([digitsValue ds], n, true) := by
  unfold fractionText
  by_cases hzero : n = 0
  · subst hzero
    exact (congrArg _ (List.append_nil ds)).trans (readGroups_last h)
  · have hfraction : AreDigits 6 (paddedText 6 n).toList := areDigits_paddedText (by decide) hn
    have hne : (paddedText 6 n).toList ≠ [] := List.ne_nil_of_length_eq_add_one hfraction.length_eq
    rw [if_pos hzero, String.toList_append]
    refine (readGroups_point h hne).trans ?_
    rw [readFraction_six hfraction, digitsValue_paddedText]
    rfl

theorem readClock_colon (h : AreDigits 2 ds) (hne : rest ≠ []) : readClock (ds ++ ':' :: rest) =
    (readGroups true 2 rest).map fun (values, micros, ends) =>
      (⟨digitsValue ds, values.getD 0 0, values.getD 1 0, micros⟩, ends) := by
  have hcolon : (ds ++ ':' :: rest)[2]? = some ':' := by
    rw [← h.length_eq, List.getElem?_append_right le_rfl, Nat.sub_self]
    rfl
  rw [readClock, hcolon, decide_eq_true rfl, readGroups_colon h hne, Option.map_map]
  rfl

theorem Clock.toList_text (clock : Clock) : clock.text.toList = (paddedText 2 clock.hour).toList ++
    ':' :: ((paddedText 2 clock.minute).toList ++ ':' :: ((paddedText 2 clock.second).toList ++
      (fractionText clock.microsecond).toList)) := by
  simp only [Clock.text, String.toList_append, String.reduceToList, List.append_assoc,
    List.cons_append, List.nil_append]

theorem Clock.Fits.readClock_text (h : clock.Fits) :
    readClock clock.text.toList = some (clock, true) := by
  have hhour : AreDigits 2 (paddedText 2 clock.hour).toList :=
    areDigits_paddedText (by decide) h.hour
  have hminute : AreDigits 2 (paddedText 2 clock.minute).toList :=
    areDigits_paddedText (by decide) h.minute
  have hsecond : AreDigits 2 (paddedText 2 clock.second).toList :=
    areDigits_paddedText (by decide) h.second
  have hne : (paddedText 2 clock.second).toList ++ (fractionText clock.microsecond).toList ≠ [] :=
    List.append_ne_nil_of_left_ne_nil (List.ne_nil_of_length_eq_add_one hsecond.length_eq) _
  rw [clock.toList_text, readClock_colon hhour (by simp), readGroups_colon hminute hne,
    readGroups_fractionText hsecond h.microsecond]
  simp only [digitsValue_paddedText]
  rfl

theorem Clock.Fits.readClock_minutes (h : clock.Fits) (hsecond : clock.second = 0)
    (hmicro : clock.microsecond = 0) :
    readClock (paddedText 2 clock.hour ++ ":" ++ paddedText 2 clock.minute).toList =
      some (clock, true) := by
  have hhour : AreDigits 2 (paddedText 2 clock.hour).toList :=
    areDigits_paddedText (by decide) h.hour
  have hminute : AreDigits 2 (paddedText 2 clock.minute).toList :=
    areDigits_paddedText (by decide) h.minute
  have htext : (paddedText 2 clock.hour ++ ":" ++ paddedText 2 clock.minute).toList =
      (paddedText 2 clock.hour).toList ++ ':' :: (paddedText 2 clock.minute).toList := by
    simp only [String.toList_append, String.reduceToList, List.append_assoc, List.cons_append,
      List.nil_append]
  rw [htext, readClock_colon hhour (List.ne_nil_of_length_eq_add_one hminute.length_eq),
    readGroups_last hminute]
  simp only [digitsValue_paddedText]
  obtain ⟨hour, minute, second, micros⟩ := clock
  obtain rfl : second = 0 := hsecond
  obtain rfl : micros = 0 := hmicro
  rfl

/-! ## Offsets -/

/-- A distance of so many microseconds. -/
def Clock.ofMicroseconds (micros : Nat) : Clock :=
  ⟨micros / 1000000 / 3600, micros / 1000000 / 60 % 60, micros / 1000000 % 60, micros % 1000000⟩

/-- No microsecond is lost, unless there is less than a second of them. -/
theorem distance_ofMicroseconds {micros : Nat} (h : micros = 0 ∨ 1000000 ≤ micros) :
    (Clock.ofMicroseconds micros).distance = micros := by
  unfold Clock.distance Clock.ofMicroseconds
  dsimp only
  split <;> omega

theorem fits_ofMicroseconds {micros : Nat} (h : micros < 86400 * 1000000) :
    (Clock.ofMicroseconds micros).Fits := by
  unfold Clock.ofMicroseconds
  constructor <;> dsimp only <;> omega

/-- The distance of an offset, as it is written behind the sign: whole minutes in short. -/
def distanceText (distance : Clock) : String :=
  if distance.second = 0 ∧ distance.microsecond = 0 then
    paddedText 2 distance.hour ++ ":" ++ paddedText 2 distance.minute
  else distance.text

theorem offsetText_eq (offset : Int) : DateTime.offsetText offset =
    (if offset < 0 then "-" else "+") ++ distanceText (Clock.ofMicroseconds offset.natAbs) := by
  unfold DateTime.offsetText distanceText Clock.text fractionText Clock.ofMicroseconds
  dsimp only
  by_cases hseconds : offset.natAbs / 1000000 % 60 = 0
  · by_cases hmicros : offset.natAbs % 1000000 = 0
    · simp [hseconds, hmicros, String.append_assoc]
    · simp [hseconds, hmicros, String.append_assoc]
  · simp [hseconds, String.append_assoc]

theorem Clock.Fits.readClock_distanceText (h : clock.Fits) :
    readClock (distanceText clock).toList = some (clock, true) := by
  unfold distanceText
  split
  · next hzero => exact h.readClock_minutes hzero.1 hzero.2
  · exact h.readClock_text

theorem readOffset_minus (h : readClock ds = some (clock, true)) :
    readOffset ('-' :: ds) = some (some (-clock.distance)) := by
  rw [readOffset, h]
  · rfl
  · exact nofun

theorem readOffset_plus (h : readClock ds = some (clock, true)) :
    readOffset ('+' :: ds) = some (some clock.distance) := by
  rw [readOffset, h]
  · rfl
  · exact nofun

/-- The offset of a date is read back, unless it is less than a second. -/
theorem readOffset_offsetText {offset : Int} (h : offset.natAbs < 86400 * 1000000)
    (hsecond : offset = 0 ∨ 1000000 ≤ offset.natAbs) :
    readOffset (DateTime.offsetText offset).toList = some (some offset) := by
  have hclock := (fits_ofMicroseconds h).readClock_distanceText
  have hdistance := distance_ofMicroseconds (hsecond.imp_left Int.natAbs_eq_zero.2)
  rw [offsetText_eq, String.toList_append]
  by_cases hnegative : offset < 0
  · rw [if_pos hnegative]
    refine (readOffset_minus hclock).trans ?_
    rw [hdistance, Int.ofNat_natAbs_of_nonpos hnegative.le, Int.neg_neg]
  · rw [if_neg hnegative]
    refine (readOffset_plus hclock).trans ?_
    rw [hdistance, Int.natAbs_of_nonneg (Int.not_lt.1 hnegative)]

/-! ## Characters of times -/

/-- The characters that times of day are written with. -/
def IsTimeChar (c : Char) : Prop := c.isDigit = true ∨ c = ':' ∨ c = '.'

variable {c : Char}

theorem IsTimeChar.startsOffset_eq_false (h : IsTimeChar c) : startsOffset c = false := by
  obtain h | rfl | rfl := h
  · rw [← Bool.not_eq_true]
    intro hstart
    simp only [startsOffset, Bool.or_eq_true, decide_eq_true_eq] at hstart
    obtain (rfl | rfl) | rfl := hstart <;> cases h
  · rfl
  · rfl

theorem isTimeChar_of_mem_paddedText (h : c ∈ (paddedText width n).toList) : IsTimeChar c :=
  .inl (isDigit_of_mem_paddedText h)

theorem isTimeChar_of_mem_fractionText (h : c ∈ (fractionText n).toList) : IsTimeChar c := by
  unfold fractionText at h
  split at h
  · rw [String.toList_append] at h
    rcases List.mem_append.1 h with h | h
    · exact .inr (.inr (List.mem_singleton.1 h))
    · exact isTimeChar_of_mem_paddedText h
  · cases h

theorem isTimeChar_of_mem_clockText (h : c ∈ clock.text.toList) : IsTimeChar c := by
  rw [clock.toList_text] at h
  simp only [List.mem_append, List.mem_cons] at h
  rcases h with h | rfl | h | rfl | h | h
  · exact isTimeChar_of_mem_paddedText h
  · exact .inr (.inl rfl)
  · exact isTimeChar_of_mem_paddedText h
  · exact .inr (.inl rfl)
  · exact isTimeChar_of_mem_paddedText h
  · exact isTimeChar_of_mem_fractionText h

theorem isTimeChar_of_mem_distanceText (h : c ∈ (distanceText clock).toList) : IsTimeChar c := by
  unfold distanceText at h
  split at h
  · simp only [String.toList_append, String.reduceToList, List.mem_append, List.mem_singleton] at h
    rcases h with (h | rfl) | h
    · exact isTimeChar_of_mem_paddedText h
    · exact .inr (.inl rfl)
    · exact isTimeChar_of_mem_paddedText h
  · exact isTimeChar_of_mem_clockText h

/-- An offset is its sign and a distance. -/
theorem exists_sign_offsetText (offset : Int) : ∃ sign, (sign = '+' ∨ sign = '-') ∧
    (DateTime.offsetText offset).toList = sign ::
      (distanceText (.ofMicroseconds offset.natAbs)).toList := by
  rw [offsetText_eq, String.toList_append]
  by_cases hnegative : offset < 0
  · rw [if_pos hnegative]
    exact ⟨'-', .inr rfl, rfl⟩
  · rw [if_neg hnegative]
    exact ⟨'+', .inl rfl, rfl⟩

/-! ## Dates with a time -/

variable {t : DateTime}

def DateTime.timeOfDay (t : DateTime) : Clock := ⟨t.hour, t.minute, t.second, t.microsecond⟩

theorem isValid_day (h : t.isValid = true) : t.day.isValid = true := by
  simp only [DateTime.isValid, Bool.and_eq_true] at h
  exact h.1.1.1.1.1

theorem fits_timeOfDay (h : t.isValid = true) : t.timeOfDay.Fits := by
  simp only [DateTime.isValid, Bool.and_eq_true, decide_eq_true_eq] at h
  obtain ⟨⟨⟨⟨⟨-, hhour⟩, hminute⟩, hsecond⟩, hmicro⟩, -⟩ := h
  unfold DateTime.timeOfDay
  constructor <;> dsimp only <;> omega

theorem natAbs_offset_lt {offset : Int} (h : t.isValid = true) (hoffset : t.offset = some offset) :
    offset.natAbs < 86400 * 1000000 := by
  simp only [DateTime.isValid, hoffset, Bool.and_eq_true, decide_eq_true_eq] at h
  have hbounds := h.2
  unfold DateTime.dayMicroseconds at hbounds
  omega

/-- What is written of the offset of a date, if it is known. -/
def DateTime.endText (t : DateTime) : String := t.offset.elim "" DateTime.offsetText

theorem toList_text (t : DateTime) :
    t.text.toList = t.day.text.toList ++ 'T' :: (t.timeOfDay.text.toList ++ t.endText.toList) := by
  simp only [DateTime.text, DateTime.endText, Day.text, Clock.text, fractionText,
    DateTime.timeOfDay, String.toList_append, String.reduceToList, List.append_assoc,
    List.cons_append, List.nil_append]
  cases t.offset <;> rfl

/-- The offset is not known, or zero, or a second at least. -/
def DateTime.HasReadableOffset (t : DateTime) : Prop :=
  ∀ offset, t.offset = some offset → offset = 0 ∨ 1000000 ≤ offset.natAbs

theorem readTime_text (h : t.isValid = true) (hoffset : t.HasReadableOffset) :
    readTime (t.timeOfDay.text.toList ++ t.endText.toList) = some (t.timeOfDay, t.offset) := by
  have hclock := (fits_timeOfDay h).readClock_text
  have hchars : ∀ c ∈ t.timeOfDay.text.toList, startsOffset c = false :=
    fun c hc => (isTimeChar_of_mem_clockText hc).startsOffset_eq_false
  unfold DateTime.endText
  cases hsome : t.offset with
  | none => exact readTime_append hchars nofun hclock rfl
  | some offset =>
    have hread := readOffset_offsetText (natAbs_offset_lt h hsome) (hoffset offset hsome)
    refine readTime_append hchars (fun c hc => ?_) hclock hread
    obtain ⟨sign, hsign, htext⟩ := exists_sign_offsetText offset
    rw [Option.elim_some, htext] at hc
    cases hc
    obtain rfl | rfl := hsign <;> rfl

/-- A date of the calendar is read from its own text. -/
theorem ofChars?_text (h : t.isValid = true) (hoffset : t.HasReadableOffset) :
    DateTime.ofChars? t.text.toList = some t := by
  have hdate := spellsDate_text (isValid_day h)
  rw [toList_text]
  refine ofChars?_eq_some_iff.2 ⟨h, _, t.day, t.timeOfDay, t.offset,
    hdate.dateLength?_append (by simp) (by simp), ?_, ?_, rfl⟩
  · rw [List.take_left]
    exact hdate
  · rw [List.drop_left]
    exact readTime_text h hoffset

theorem not_mem_text (h : t.isValid = true) : 'Z' ∉ t.text.toList := by
  have htime : ¬ IsTimeChar 'Z' := fun h => absurd h.startsOffset_eq_false (by decide)
  have hdate := (spellsDate_text (isValid_day h)).not_mem (c := 'Z') rfl (by decide) (by decide)
  have hend : 'Z' ∉ t.endText.toList := by
    unfold DateTime.endText
    cases t.offset with
    | none => exact List.not_mem_nil
    | some offset =>
      obtain ⟨sign, hsign, htext⟩ := exists_sign_offsetText offset
      rw [Option.elim_some, htext, List.mem_cons, not_or]
      refine ⟨?_, fun hmem => htime (isTimeChar_of_mem_distanceText hmem)⟩
      obtain rfl | rfl := hsign <;> decide
  rw [toList_text, List.mem_append, List.mem_cons, List.mem_append, not_or, not_or, not_or]
  exact ⟨hdate, by decide, fun hmem => htime (isTimeChar_of_mem_clockText hmem), hend⟩

end RequestSigning.Date
