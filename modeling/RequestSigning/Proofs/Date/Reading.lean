import RequestSigning.Date.DateTime
import RequestSigning.Proofs.Json.Scalars
import RequestSigning.Proofs.Text.Spans

/-!
# How dates are spelled

What the reader of dates accepts, stated as a grammar: a date by month or by week, with hyphens or
without. Where a date ends is found from its first characters, if what stands behind it is neither a
digit nor a hyphen.
-/

namespace RequestSigning.Date

open Json (digitsValue)

variable {cs ds rest : List Char} {c : Char} {count n : Nat} {wanted : Bool}

/-! ## Digits -/

/-- A row of decimal digits of a given length. -/
structure AreDigits (count : Nat) (ds : List Char) : Prop where
  length_eq : ds.length = count
  isDigit : ∀ c ∈ ds, c.isDigit = true

theorem areDigits_zero_iff : AreDigits 0 ds ↔ ds = [] := by
  constructor
  · exact fun h => List.eq_nil_of_length_eq_zero h.length_eq
  · rintro rfl
    exact ⟨rfl, fun _ h => absurd h List.not_mem_nil⟩

theorem areDigits_succ_iff :
    AreDigits (count + 1) ds ↔ ∃ c ds', ds = c :: ds' ∧ c.isDigit = true ∧ AreDigits count ds' := by
  constructor
  · rintro ⟨hlength, hdigits⟩
    obtain ⟨c, ds', rfl⟩ := List.exists_cons_of_length_eq_add_one hlength
    obtain ⟨hc, hds⟩ := List.forall_mem_cons.1 hdigits
    exact ⟨c, ds', rfl, hc, Nat.succ.inj hlength, hds⟩
  · rintro ⟨c, ds', rfl, hc, hlength, hds⟩
    exact ⟨congrArg (· + 1) hlength, List.forall_mem_cons.2 ⟨hc, hds⟩⟩

theorem AreDigits.head?_append_ne (h : AreDigits (count + 1) ds) (hc : c.isDigit = false)
    (rest : List Char) :
    (ds ++ rest).head? ≠ some c := by
  obtain ⟨d, ds', rfl, hd, -⟩ := areDigits_succ_iff.1 h
  rintro ⟨⟩
  rw [hd] at hc
  cases hc

theorem AreDigits.head?_ne (h : AreDigits (count + 1) ds) (hc : c.isDigit = false) :
    ds.head? ≠ some c :=
  List.append_nil ds ▸ h.head?_append_ne hc []

/-- Digits are read from the front, whatever stands behind them. -/
theorem readDigits_from_eq_some_iff {start : Nat} : readDigits count start cs = some (n, rest) ↔
    ∃ ds, AreDigits count ds ∧ cs = ds ++ rest ∧
      n = ds.foldl (fun n c => n * 10 + (c.toNat - 48)) start := by
  induction count generalizing start cs with
  | zero =>
    simp only [readDigits, areDigits_zero_iff, Option.some.injEq, Prod.mk.injEq, exists_eq_left,
      List.nil_append, List.foldl_nil, eq_comm, and_comm]
  | succ count ih =>
    simp only [areDigits_succ_iff]
    cases cs with
    | nil =>
      refine iff_of_false (by simp [readDigits]) ?_
      rintro ⟨_, ⟨c, ds, rfl, -⟩, hnil, -⟩
      cases hnil
    | cons c cs =>
      rw [readDigits, digitValue?]
      by_cases hc : c.isDigit = true
      · simp only [if_pos hc, ih]
        constructor
        · rintro ⟨ds, hds, rfl, rfl⟩
          exact ⟨c :: ds, ⟨c, ds, rfl, hc, hds⟩, rfl, rfl⟩
        · rintro ⟨_, ⟨c, ds, rfl, -, hds⟩, hcs, rfl⟩
          obtain ⟨rfl, rfl⟩ := List.cons.inj hcs
          exact ⟨ds, hds, rfl, rfl⟩
      · simp only [if_neg hc, reduceCtorEq, false_iff]
        rintro ⟨_, ⟨d, ds, rfl, hd, -⟩, hcs, -⟩
        obtain ⟨rfl, -⟩ := List.cons.inj hcs
        exact hc hd

theorem readDigits_eq_some_iff : readDigits count 0 cs = some (n, rest) ↔
    ∃ ds, AreDigits count ds ∧ cs = ds ++ rest ∧ n = digitsValue ds := readDigits_from_eq_some_iff

theorem readDigits_append (h : AreDigits count ds) (rest : List Char) :
    readDigits count 0 (ds ++ rest) = some (digitsValue ds, rest) :=
  readDigits_eq_some_iff.2 ⟨ds, h, rfl, rfl⟩

theorem AreDigits.readDigits (h : AreDigits count ds) :
    readDigits count 0 ds = some (digitsValue ds, []) :=
  readDigits_eq_some_iff.2 ⟨ds, h, (List.append_nil ds).symm, rfl⟩

/-! ## Hyphens -/

/-- A hyphen between the parts of a date, which may be left out. -/
def hyphen (wanted : Bool) : List Char := if wanted then ['-'] else []

theorem eq_of_mem_hyphen (h : c ∈ hyphen wanted) : c = '-' := by
  cases wanted with
  | true => exact List.mem_singleton.1 h
  | false => exact absurd h List.not_mem_nil

theorem hyphen_append_drop (cs : List Char) :
    hyphen (decide (cs.head? = some '-')) ++ (if cs.head? = some '-' then cs.drop 1 else cs) =
      cs := by
  by_cases h : cs.head? = some '-'
  · obtain ⟨rest, rfl⟩ := List.head?_eq_some_iff.1 h
    rfl
  · simp [hyphen, h]

theorem head?_hyphen_append (h : rest.head? ≠ some '-') :
    (hyphen wanted ++ rest).head? = some '-' ↔ wanted = true := by
  cases wanted with
  | true => exact iff_of_true rfl rfl
  | false => exact iff_of_false h Bool.false_ne_true

theorem drop_hyphen_append (rest : List Char) :
    (if wanted = true then (hyphen wanted ++ rest).drop 1 else hyphen wanted ++ rest) = rest := by
  cases wanted <;> rfl

theorem AreDigits.isEmpty_eq_false (h : AreDigits (count + 1) ds) :
    (hyphen wanted ++ ds).isEmpty = false := by
  obtain ⟨d, ds', rfl, -⟩ := areDigits_succ_iff.1 h
  simp

theorem readHyphen_of_eq_some (h : readHyphen wanted cs = some rest) :
    cs = hyphen wanted ++ rest := by
  unfold readHyphen at h
  split at h
  · next hwanted =>
    subst hwanted
    split at h
    · cases h
      rfl
    · cases h
  · next hwanted =>
    rw [Bool.not_eq_true] at hwanted
    subst hwanted
    split at h
    · cases h
    · cases h
      rfl

theorem readHyphen_append (h : rest.head? ≠ some '-') :
    readHyphen wanted (hyphen wanted ++ rest) = some rest := by
  cases wanted with
  | true => rfl
  | false => exact if_neg h

/-! ## Dates -/

variable {year : Nat} {d : Day}

/-- The spellings of a date. -/
inductive SpellsDate : List Char → Day → Prop
  | month {year month day : List Char} (hyphens : Bool) :
      AreDigits 4 year → AreDigits 2 month → AreDigits 2 day →
      SpellsDate (year ++ (hyphen hyphens ++ (month ++ (hyphen hyphens ++ day))))
        ⟨digitsValue year, digitsValue month, digitsValue day⟩
  | week {year week : List Char} {d : Day} (hyphens : Bool) :
      AreDigits 4 year → AreDigits 2 week →
      ofWeek? (digitsValue year) (digitsValue week) 1 = some d →
      SpellsDate (year ++ (hyphen hyphens ++ 'W' :: week)) d
  | weekday {year week weekday : List Char} {d : Day} (hyphens : Bool) :
      AreDigits 4 year → AreDigits 2 week → AreDigits 1 weekday →
      ofWeek? (digitsValue year) (digitsValue week) (digitsValue weekday) = some d →
      SpellsDate (year ++ (hyphen hyphens ++ 'W' :: (week ++ (hyphen hyphens ++ weekday)))) d

theorem readMonthDate_eq_some_iff :
    readMonthDate wanted year cs = some d ↔ ∃ month day, AreDigits 2 month ∧
      AreDigits 2 day ∧ cs = month ++ (hyphen wanted ++ day) ∧
        d = ⟨year, digitsValue month, digitsValue day⟩ := by
  unfold readMonthDate
  constructor
  · intro h
    simp only [Option.bind_eq_bind, Option.bind_eq_some_iff, Prod.exists] at h
    obtain ⟨month, rest, hmonth, rest', hhyphen, day, rest'', hday, h⟩ := h
    obtain ⟨ms, hms, rfl, rfl⟩ := readDigits_eq_some_iff.1 hmonth
    obtain rfl := readHyphen_of_eq_some hhyphen
    obtain ⟨ds, hds, rfl, rfl⟩ := readDigits_eq_some_iff.1 hday
    split at h
    · next hempty =>
      obtain rfl := List.isEmpty_iff.1 hempty
      cases h
      exact ⟨ms, ds, hms, hds, by rw [List.append_nil], rfl⟩
    · cases h
  · rintro ⟨month, day, hmonth, hday, rfl, rfl⟩
    simp only [readDigits_append hmonth, readHyphen_append (hday.head?_ne rfl), hday.readDigits,
      Option.bind_eq_bind, Option.bind_some, List.isEmpty_nil, if_true]

theorem readWeekDate_eq_some_iff : readWeekDate wanted year cs = some d ↔ ∃ week, AreDigits 2 week ∧
    ((cs = week ∧ ofWeek? year (digitsValue week) 1 = some d) ∨
      ∃ weekday, AreDigits 1 weekday ∧ cs = week ++ (hyphen wanted ++ weekday) ∧
        ofWeek? year (digitsValue week) (digitsValue weekday) = some d) := by
  unfold readWeekDate
  constructor
  · intro h
    simp only [Option.bind_eq_bind, Option.bind_eq_some_iff, Prod.exists] at h
    obtain ⟨week, rest, hweek, h⟩ := h
    obtain ⟨ws, hws, rfl, rfl⟩ := readDigits_eq_some_iff.1 hweek
    refine ⟨ws, hws, ?_⟩
    split at h
    · next hempty =>
      obtain rfl := List.isEmpty_iff.1 hempty
      exact .inl ⟨List.append_nil ws, h⟩
    · simp only [Option.bind_eq_some_iff, Prod.exists] at h
      obtain ⟨rest', hhyphen, weekday, rest'', hweekday, h⟩ := h
      obtain rfl := readHyphen_of_eq_some hhyphen
      obtain ⟨ds, hds, rfl, rfl⟩ := readDigits_eq_some_iff.1 hweekday
      split at h
      · next hempty =>
        obtain rfl := List.isEmpty_iff.1 hempty
        exact .inr ⟨ds, hds, by rw [List.append_nil], h⟩
      · cases h
  · rintro ⟨week, hweek, ⟨rfl, h⟩ | ⟨weekday, hweekday, rfl, h⟩⟩
    · simp only [hweek.readDigits, Option.bind_eq_bind, Option.bind_some, List.isEmpty_nil, if_true,
        h]
    · simp only [readDigits_append hweek, hweekday.isEmpty_eq_false,
        readHyphen_append (hweekday.head?_ne rfl), hweekday.readDigits, Option.bind_eq_bind,
        Option.bind_some, Bool.false_eq_true, List.isEmpty_nil, if_true, if_false, h]

theorem readDate_append_week {ys : List Char} (hyear : AreDigits 4 ys) (week : List Char) :
    readDate (ys ++ (hyphen wanted ++ 'W' :: week)) =
      readWeekDate wanted (digitsValue ys) week := by
  have hhead : ('W' :: week).head? ≠ some '-' := by simp
  unfold readDate
  simp only [readDigits_append hyear, Option.bind_eq_bind, Option.bind_some,
    head?_hyphen_append hhead, drop_hyphen_append, Bool.decide_eq_true]

theorem readDate_append_month {ys ms : List Char} (hyear : AreDigits 4 ys) (hmonth : AreDigits 2 ms)
    (rest : List Char) :
    readDate (ys ++ (hyphen wanted ++ (ms ++ rest))) =
      readMonthDate wanted (digitsValue ys) (ms ++ rest) := by
  have hhead := hmonth.head?_append_ne (c := '-') rfl rest
  have hweek := hmonth.head?_append_ne (c := 'W') rfl rest
  unfold readDate
  simp only [readDigits_append hyear, Option.bind_eq_bind, Option.bind_some,
    head?_hyphen_append hhead, drop_hyphen_append, Bool.decide_eq_true]
  split
  · next h =>
    rw [h] at hweek
    exact absurd rfl hweek
  · rfl

theorem readDate_eq_some_iff : readDate cs = some d ↔ SpellsDate cs d := by
  constructor
  · intro h
    unfold readDate at h
    simp only [Option.bind_eq_bind, Option.bind_eq_some_iff, Prod.exists] at h
    obtain ⟨year, rest, hyear, h⟩ := h
    obtain ⟨ys, hys, rfl, rfl⟩ := readDigits_eq_some_iff.1 hyear
    rw [← hyphen_append_drop rest]
    split at h
    · next week hrest =>
      rw [hrest]
      obtain ⟨ws, hws, ⟨rfl, hday⟩ | ⟨ds, hds, rfl, hday⟩⟩ := readWeekDate_eq_some_iff.1 h
      · exact .week _ hys hws hday
      · exact .weekday _ hys hws hds hday
    · obtain ⟨ms, ds, hms, hds, hrest, rfl⟩ := readMonthDate_eq_some_iff.1 h
      rw [hrest]
      exact .month _ hys hms hds
  · intro h
    cases h with
    | month hyphens hys hms hds =>
      rw [readDate_append_month hys hms]
      exact readMonthDate_eq_some_iff.2 ⟨_, _, hms, hds, rfl, rfl⟩
    | week hyphens hys hws hday =>
      rw [readDate_append_week hys]
      exact readWeekDate_eq_some_iff.2 ⟨_, hws, .inl ⟨rfl, hday⟩⟩
    | weekday hyphens hys hws hds hday =>
      rw [readDate_append_week hys]
      exact readWeekDate_eq_some_iff.2 ⟨_, hws, .inr ⟨_, hds, rfl, hday⟩⟩

theorem SpellsDate.unique {d' : Day} (h : SpellsDate cs d) (h' : SpellsDate cs d') : d = d' :=
  Option.some.inj ((readDate_eq_some_iff.2 h).symm.trans (readDate_eq_some_iff.2 h'))

theorem SpellsDate.isDigit_or (h : SpellsDate cs d) :
    ∀ c ∈ cs, c.isDigit = true ∨ c = '-' ∨ c = 'W' := by
  have hdigits : ∀ {count ds}, AreDigits count ds →
      ∀ c ∈ ds, c.isDigit = true ∨ c = '-' ∨ c = 'W' :=
    fun hds c hmem => .inl (hds.isDigit c hmem)
  have hhyphen : ∀ {wanted}, ∀ c ∈ hyphen wanted, c.isDigit = true ∨ c = '-' ∨ c = 'W' :=
    fun c hmem => .inr (.inl (eq_of_mem_hyphen hmem))
  cases h with
  | month hyphens hys hms hds =>
    simp only [List.forall_mem_append]
    exact ⟨hdigits hys, hhyphen, hdigits hms, hhyphen, hdigits hds⟩
  | week hyphens hys hws =>
    simp only [List.forall_mem_append, List.forall_mem_cons]
    exact ⟨hdigits hys, hhyphen, .inr (.inr trivial), hdigits hws⟩
  | weekday hyphens hys hws hds =>
    simp only [List.forall_mem_append, List.forall_mem_cons]
    exact ⟨hdigits hys, hhyphen, .inr (.inr trivial), hdigits hws, hhyphen, hdigits hds⟩

theorem SpellsDate.not_mem (h : SpellsDate cs d) (hdigit : c.isDigit = false) (hhyphen : c ≠ '-')
    (hweek : c ≠ 'W') :
    c ∉ cs := by
  intro hmem
  rcases h.isDigit_or c hmem with hc | hc | hc
  · rw [hdigit] at hc
    cases hc
  · exact hhyphen hc
  · exact hweek hc

theorem seven_le_of_dateLength? {length : Nat} (h : dateLength? cs = some length) : 7 ≤ length := by
  unfold dateLength? at h
  grind

/-- A date ends where it was to end, unless a digit or a hyphen follows. -/
theorem SpellsDate.dateLength?_append (h : SpellsDate cs d)
    (hdigit : ∀ c ∈ rest.head?, c.isDigit = false) (hhyphen : rest.head? ≠ some '-') :
    dateLength? (cs ++ rest) = some cs.length := by
  have hrest : rest.takeWhile Char.isDigit = [] :=
    Text.takeWhile_append_stop (List.forall_mem_nil _) hdigit
  rw [List.head?_eq_getElem?] at hdigit hhyphen
  cases h with
  | month hyphens hys hms hds =>
    obtain ⟨y₁, y₂, y₃, y₄, rfl⟩ := List.length_eq_four.1 hys.length_eq
    obtain ⟨m₁, m₂, rfl⟩ := List.length_eq_two.1 hms.length_eq
    obtain ⟨d₁, d₂, rfl⟩ := List.length_eq_two.1 hds.length_eq
    have hm₁ : ∀ {c : Char}, c.isDigit = false → m₁ ≠ c := by
      rintro c hc rfl
      rw [hms.isDigit m₁ List.mem_cons_self] at hc
      cases hc
    cases hyphens with
    | true => simp [dateLength?, hyphen, hm₁ (c := 'W') rfl]
    | false => simp [dateLength?, hyphen, hm₁ (c := 'W') rfl, hm₁ (c := '-') rfl]
  | week hyphens hys hws =>
    obtain ⟨y₁, y₂, y₃, y₄, rfl⟩ := List.length_eq_four.1 hys.length_eq
    obtain ⟨w₁, w₂, rfl⟩ := List.length_eq_two.1 hws.length_eq
    cases hyphens with
    | true => simp [dateLength?, hyphen, hhyphen]
    | false => simp [dateLength?, hyphen, hrest]
  | weekday hyphens hys hws hds =>
    obtain ⟨y₁, y₂, y₃, y₄, rfl⟩ := List.length_eq_four.1 hys.length_eq
    obtain ⟨w₁, w₂, rfl⟩ := List.length_eq_two.1 hws.length_eq
    obtain ⟨d₁, rfl⟩ := List.length_eq_one_iff.1 hds.length_eq
    cases hyphens with
    | true =>
      cases rest with
      | nil => simp [dateLength?, hyphen]
      | cons c rest => simp [dateLength?, hyphen, hdigit c rfl]
    | false => simp [dateLength?, hyphen, hrest, hds.isDigit d₁ List.mem_cons_self]

end RequestSigning.Date
