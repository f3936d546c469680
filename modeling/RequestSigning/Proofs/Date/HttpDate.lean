import RequestSigning.Date.HttpDate

/-!
# Instants that have a date

The days with the numbers 1 to 3652059 are those of the years 1 to 9999, so every instant of these
years has a text.
-/

namespace RequestSigning.Date

/-- The year of a numbered day: whole cycles of four hundred years, and the year within the
cycle. -/
theorem Day.year_ofNumber (n : Int) :
    ∃ inCycle century leapCycle single : Nat, (inCycle : Int) = (n - 1) % 146097 ∧
      century = min (inCycle / 36524) 3 ∧ leapCycle = (inCycle - century * 36524) / 1461 ∧
      single = min ((inCycle - century * 36524) % 1461 / 365) 3 ∧
      (Day.ofNumber n).year =
        (n - 1) / 146097 * 400 + (century * 100 + leapCycle * 4 + single : Nat) + 1 :=
  ⟨((n - 1) % 146097).toNat, _, _, _, by omega, rfl, rfl, rfl, rfl⟩

theorem Day.year_ofNumber_mem {n : Int} (hfirst : 1 ≤ n) (hlast : n ≤ 3652059) :
    1 ≤ (Day.ofNumber n).year ∧ (Day.ofNumber n).year ≤ 9999 := by
  obtain ⟨inCycle, century, leapCycle, single, hcycle, hcentury, hleap, hsingle, hyear⟩ :=
    Day.year_ofNumber n
  rw [hyear]
  omega

/-- The instant lies in the years 1 to 9999: seconds count from the first day of 1970, which has the
number 719163. -/
def Instant.InCalendar (i : Instant) : Prop :=
  ∃ seconds, i.seconds = .ok seconds ∧ -62135596800 ≤ seconds ∧ seconds < 253402300800

theorem exists_httpDate {i : Instant} (h : i.InCalendar) : ∃ text, httpDate i = .ok text := by
  obtain ⟨seconds, hseconds, hfirst, hlast⟩ := h
  have hyear := Day.year_ofNumber_mem (n := epoch + seconds / 86400) (by unfold epoch; omega)
    (by unfold epoch; omega)
  refine ⟨httpDateText (dayOfSeconds seconds).1 (dayOfSeconds seconds).2, ?_⟩
  unfold httpDate
  simp only [hseconds]
  change 1 ≤ (dayOfSeconds seconds).1.year ∧ (dayOfSeconds seconds).1.year ≤ 9999 at hyear
  rw [if_neg (by simp; omega), if_neg (by simp; omega)]

end RequestSigning.Date
