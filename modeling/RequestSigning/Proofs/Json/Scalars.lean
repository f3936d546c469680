import Mathlib.Data.List.Basic
import Mathlib.Data.List.Induction
import RequestSigning.Json.Parser
import RequestSigning.Proofs.Decimal.Digits

/-!
# Words and numbers

How numbers are spelled, and what the reader of words and numbers takes: as many characters as
belong to the word or number, which are then read the same in front of anything that no number goes
on with.
-/

namespace RequestSigning.Json

open Json.Text (ofChars)

/-! ## Spellings -/

/-- The digits of a whole part: a lone zero, or digits that start with another one. -/
structure IsWhole (ds : List Char) : Prop where
  ne_nil : ds ≠ []
  digits : ∀ c ∈ ds, c.isDigit = true
  zero : ∀ rest, ds = '0' :: rest → rest = []

def signText (negative : Bool) : List Char := if negative then ['-'] else []

def fractionText (ds : List Char) : List Char := if ds.isEmpty then [] else '.' :: ds

/-- The characters of an exponent, of none too, and its value. -/
inductive Exponent : List Char → Option Int → Prop
  | none : Exponent [] none
  | some {e : Char} {sign ds : List Char} : e = 'e' ∨ e = 'E' → sign ∈ [[], ['+'], ['-']] →
      ds ≠ [] → (∀ c ∈ ds, c.isDigit = true) →
      Exponent (e :: sign ++ ds)
        (some (if sign = ['-'] then -(digitsValue ds : Int) else digitsValue ds))

/-- The characters of a number and its value. -/
inductive Numeral : List Char → Json → Prop
  | int {negative : Bool} {whole : List Char} : IsWhole whole → whole.length ≤ maxDigits →
      Numeral (signText negative ++ whole)
        (.int (if negative then -(digitsValue whole : Int) else digitsValue whole))
  | float {negative : Bool} {whole fraction p : List Char} {exponent : Option Int} :
      IsWhole whole → (∀ c ∈ fraction, c.isDigit = true) → Exponent p exponent →
      (fraction.isEmpty && exponent.isNone) = false →
      Numeral (signText negative ++ whole ++ fractionText fraction ++ p)
        (.float (Decimal.toFloat negative (digitsValue (whole ++ fraction))
          (exponent.getD 0 - fraction.length)))

/-- No digit stands first. -/
def EndsDigits (rest : Text) : Prop := ∀ c : Char, .char c ∈ rest.head? → c.isDigit = false

/-- Whether a number may go on with this character. -/
def continuesNumber (c : Char) : Bool := c.isDigit || c = '.' || c = 'e' || c = 'E'

/-- No number goes on with these symbols. -/
def EndsNumber (rest : Text) : Prop :=
  ∀ c : Char, .char c ∈ rest.head? → continuesNumber c = false

/-- Neither another digit nor a fraction nor an exponent stands here. -/
structure EndsWhole (rest : Text) : Prop where
  digit : EndsDigits rest
  fraction : (fractionPart rest).1 = []
  exponent : (exponentPart rest).1 = none

/-- A whole number with more digits than it may have, their number, and whatever follows it. -/
inductive LongWhole : Nat → Text → Prop
  | mk {negative : Bool} {whole : List Char} {rest : Text} : IsWhole whole →
      maxDigits < whole.length → EndsWhole rest →
      LongWhole whole.length (ofChars (signText negative ++ whole) ++ rest)

/-- As many digits in a row, and more than a number may have. -/
def HasLongRun (count : Nat) (t : Text) : Prop :=
  maxDigits < count ∧ ∃ (before : Text) (ds : List Char) (after : Text),
    t = before ++ ofChars ds ++ after ∧ (∀ c ∈ ds, c.isDigit = true) ∧ ds.length = count

variable {c : Char} {ds p : List Char} {t rest : Text} {count : Nat}

theorem HasLongRun.append (h : HasLongRun count rest) (t : Text) :
    HasLongRun count (t ++ rest) := by
  obtain ⟨hcount, before, ds, after, rfl, hds⟩ := h
  exact ⟨hcount, t ++ before, ds, after, by simp only [List.append_assoc], hds⟩

theorem LongWhole.hasLongRun (h : LongWhole count t) : HasLongRun count t := by
  cases h with
  | @mk negative whole rest hwhole hlong =>
    exact ⟨hlong, ofChars (signText negative), whole, rest, by rw [Text.ofChars_append],
      hwhole.digits, rfl⟩

theorem endsWhole_nil : EndsWhole [] := ⟨fun _ h => (by cases h), rfl, rfl⟩

theorem endsNumber_nil : EndsNumber [] := fun _ h => by cases h

theorem endsNumber_cons (h : continuesNumber c = false) : EndsNumber (.char c :: rest) := by
  rintro _ ⟨⟩
  exact h

theorem EndsNumber.stops (h : EndsNumber rest) (hc : .char c ∈ rest.head?) :
    c.isDigit = false ∧ c ≠ '.' ∧ c ≠ 'e' ∧ c ≠ 'E' := by
  simpa [continuesNumber, and_assoc] using h c hc

theorem EndsNumber.endsDigits (h : EndsNumber rest) : EndsDigits rest := fun _ hc => (h.stops hc).1

theorem isWhole_replicate (hc : c.isDigit = true) (hzero : c ≠ '0') (hcount : count ≠ 0) :
    IsWhole (List.replicate count c) := by
  refine ⟨fun h => hcount ((List.replicate_eq_nil_iff c).1 h),
    fun d hd => List.eq_of_mem_replicate hd ▸ hc, ?_⟩
  intro rest h
  have hmem : '0' ∈ List.replicate count c := h ▸ List.mem_cons_self
  exact absurd (List.eq_of_mem_replicate hmem).symm hzero

/-! ## Runs of digits -/

theorem takeDigits_of_endsDigits (h : EndsDigits t) : takeDigits t = ([], t) := by
  unfold takeDigits
  split
  · next c rest => rw [if_neg (Bool.not_eq_true _ ▸ h c rfl)]
  · rfl

theorem takeDigits_append (hds : ∀ c ∈ ds, c.isDigit = true) (hrest : EndsDigits rest) :
    takeDigits (ofChars ds ++ rest) = (ds, rest) := by
  induction ds with
  | nil => exact takeDigits_of_endsDigits hrest
  | cons d ds ih =>
    obtain ⟨hd, hds⟩ := List.forall_mem_cons.1 hds
    rw [Text.ofChars_cons, List.cons_append, takeDigits, if_pos hd, ih hds]

/-- Digits are taken up to the first symbol that is none. -/
theorem takeDigits_split (h : takeDigits t = (ds, rest)) :
    t = ofChars ds ++ rest ∧ (∀ c ∈ ds, c.isDigit = true) ∧ EndsDigits rest := by
  fun_induction takeDigits t generalizing ds with
  | case1 c left hc ds' behind hread ih =>
    cases h
    obtain ⟨rfl, hds, hrest⟩ := ih hread
    exact ⟨rfl, List.forall_mem_cons.2 ⟨hc, hds⟩, hrest⟩
  | case2 c left hc =>
    cases h
    refine ⟨rfl, List.forall_mem_nil _, ?_⟩
    rintro _ ⟨⟩
    exact Bool.not_eq_true _ ▸ hc
  | case3 t hchar =>
    cases h
    refine ⟨rfl, List.forall_mem_nil _, fun c hc => ?_⟩
    obtain ⟨left, rfl⟩ := List.head?_eq_some_iff.1 (Option.mem_def.1 hc)
    exact (hchar c left rfl).elim

theorem isEmpty_eq_false_of_ne_nil (h : ds ≠ []) : ds.isEmpty = false := by
  simpa using h

/-! ## Parts of a number -/

theorem wholePart_of_isWhole (h : IsWhole ds) (hrest : EndsDigits rest) :
    wholePart (ofChars ds ++ rest) = (ds, rest) := by
  unfold wholePart
  split
  · next left hzero =>
    obtain ⟨d, ds', rfl⟩ := List.exists_cons_of_ne_nil h.ne_nil
    rw [Text.ofChars_cons, List.cons_append, List.cons.injEq, Symbol.char.injEq] at hzero
    obtain ⟨rfl, rfl⟩ := hzero
    rw [h.zero ds' rfl]
    rfl
  · exact takeDigits_append h.digits hrest

/-- A whole part of several digits takes all digits that stand there. -/
theorem stops_of_wholePart (h : wholePart t = (ds, rest)) (hds : 1 < ds.length) :
    EndsDigits rest := by
  unfold wholePart at h
  split at h
  · cases h
    exact absurd hds (Nat.lt_irrefl 1)
  · exact (takeDigits_split h).2.2

theorem isWhole_of_wholePart (h : wholePart t = (ds, rest)) (hds : ds ≠ []) :
    t = ofChars ds ++ rest ∧ IsWhole ds := by
  unfold wholePart at h
  split at h
  · cases h
    refine ⟨rfl, hds, List.forall_mem_singleton.2 rfl, ?_⟩
    rintro _ ⟨⟩
    rfl
  · next hzero =>
    obtain ⟨rfl, hdigits, -⟩ := takeDigits_split h
    refine ⟨rfl, hds, hdigits, ?_⟩
    rintro left rfl
    exact (hzero _ rfl).elim

theorem fractionPart_append (hds : ∀ c ∈ ds, c.isDigit = true) (hrest : EndsDigits rest)
    (hpoint : .char '.' ∉ rest.head?) :
    fractionPart (ofChars (fractionText ds) ++ rest) = (ds, rest) := by
  by_cases hempty : ds = []
  · subst hempty
    unfold fractionPart
    split
    · next left hleft => exact absurd (congrArg List.head? hleft) hpoint
    · rfl
  · rw [fractionText, isEmpty_eq_false_of_ne_nil hempty, if_neg Bool.false_ne_true,
      Text.ofChars_cons, List.cons_append, fractionPart, takeDigits_append hds hrest]
    exact if_neg (by simpa using hempty)

theorem fractionPart_split (h : fractionPart t = (ds, rest)) :
    t = ofChars (fractionText ds) ++ rest ∧ ∀ c ∈ ds, c.isDigit = true := by
  unfold fractionPart at h
  split at h
  · next left =>
    obtain ⟨digits, behind, hread⟩ : ∃ digits behind, takeDigits left = (digits, behind) :=
      ⟨_, _, rfl⟩
    rw [hread] at h
    dsimp only at h
    split at h
    · cases h
      exact ⟨rfl, List.forall_mem_nil _⟩
    · next hempty =>
      cases h
      obtain ⟨rfl, hds, -⟩ := takeDigits_split hread
      exact ⟨by rw [fractionText, if_neg hempty]; rfl, hds⟩
  · cases h
    exact ⟨rfl, List.forall_mem_nil _⟩

/-- The sign in front of the digits of an exponent, and what follows it. -/
def exponentSign (t : Text) : List Char × Text :=
  match t with
  | .char '-' :: rest => (['-'], rest)
  | .char '+' :: rest => (['+'], rest)
  | t => ([], t)

theorem exponentSign_of_none (hminus : t.head? ≠ some (.char '-'))
    (hplus : t.head? ≠ some (.char '+')) : exponentSign t = ([], t) := by
  unfold exponentSign
  split
  · exact absurd rfl hminus
  · exact absurd rfl hplus
  · rfl

theorem exponentSign_cases (t : Text) : (∃ rest, t = .char '-' :: rest) ∨
    (∃ rest, t = .char '+' :: rest) ∨
    t.head? ≠ some (.char '-') ∧ t.head? ≠ some (.char '+') := by
  by_cases hminus : t.head? = some (.char '-')
  · exact .inl (List.head?_eq_some_iff.1 hminus)
  by_cases hplus : t.head? = some (.char '+')
  · exact .inr (.inl (List.head?_eq_some_iff.1 hplus))
  · exact .inr (.inr ⟨hminus, hplus⟩)

theorem exponentSign_split (t : Text) : t = ofChars (exponentSign t).1 ++ (exponentSign t).2 ∧
    (exponentSign t).1 ∈ [[], ['+'], ['-']] := by
  unfold exponentSign
  split
  · exact ⟨rfl, by simp⟩
  · exact ⟨rfl, by simp⟩
  · exact ⟨rfl, List.mem_cons_self⟩

theorem exponentSign_append {sign : List Char} (hsign : sign ∈ [[], ['+'], ['-']])
    (hrest : ∀ c : Char, .char c ∈ rest.head? → c.isDigit = true) :
    exponentSign (ofChars sign ++ rest) = (sign, rest) := by
  simp only [List.mem_cons, List.not_mem_nil, or_false] at hsign
  rcases hsign with rfl | rfl | rfl
  · exact exponentSign_of_none (fun h => absurd (hrest '-' h) (by decide))
      (fun h => absurd (hrest '+' h) (by decide))
  · rfl
  · rfl

theorem exponentPart_of_letter {e : Char} (he : e = 'e' ∨ e = 'E') :
    exponentPart (.char e :: t) =
      if (takeDigits (exponentSign t).2).1.isEmpty then (none, .char e :: t)
      else
        let n : Int := digitsValue (takeDigits (exponentSign t).2).1
        (some (if (exponentSign t).1 = ['-'] then -n else n),
          (takeDigits (exponentSign t).2).2) := by
  have hletter : (e = 'e' || e = 'E') = true := by simpa using he
  rw [exponentPart, if_pos hletter]
  rcases exponentSign_cases t with ⟨rest, rfl⟩ | ⟨rest, rfl⟩ | ⟨hminus, hplus⟩
  · rfl
  · rfl
  · simp [exponentSign_of_none hminus hplus, hminus, hplus]

theorem exponentPart_of_not_letter (h : ∀ e : Char, .char e ∈ t.head? → e ≠ 'e' ∧ e ≠ 'E') :
    exponentPart t = (none, t) := by
  unfold exponentPart
  split
  · next e rest =>
    obtain ⟨hlower, hupper⟩ := h e rfl
    rw [if_neg (by simp [hlower, hupper])]
  · rfl

theorem exponentPart_append {exponent : Option Int} (h : Exponent p exponent)
    (hrest : EndsNumber rest) : exponentPart (ofChars p ++ rest) = (exponent, rest) := by
  cases h with
  | none => exact exponentPart_of_not_letter fun e he => (hrest.stops he).2.2
  | @some e sign ds he hsign hds hdigits =>
    have hhead : ∀ c : Char, .char c ∈ (ofChars ds ++ rest).head? → c.isDigit = true := by
      obtain ⟨d, ds, rfl⟩ := List.exists_cons_of_ne_nil hds
      rintro _ ⟨⟩
      exact hdigits d List.mem_cons_self
    rw [List.cons_append, Text.ofChars_cons, List.cons_append, Text.ofChars_append,
      List.append_assoc, exponentPart_of_letter he, exponentSign_append hsign hhead]
    dsimp only
    rw [takeDigits_append hdigits hrest.endsDigits, isEmpty_eq_false_of_ne_nil hds,
      if_neg Bool.false_ne_true]

theorem exponentPart_split {exponent : Option Int} (h : exponentPart t = (exponent, rest)) :
    ∃ p, t = ofChars p ++ rest ∧ Exponent p exponent := by
  by_cases he : ∃ e rest, t = .char e :: rest ∧ (e = 'e' ∨ e = 'E')
  · obtain ⟨e, left, rfl, he⟩ := he
    rw [exponentPart_of_letter he] at h
    split at h
    · cases h
      exact ⟨[], rfl, .none⟩
    · next hds =>
      cases h
      obtain ⟨hleft, hsign⟩ := exponentSign_split left
      obtain ⟨hbehind, hdigits, -⟩ := takeDigits_split (t := (exponentSign left).2) rfl
      refine ⟨e :: (exponentSign left).1 ++ (takeDigits (exponentSign left).2).1, ?_,
        .some he hsign (by simpa using hds) hdigits⟩
      rw [List.cons_append, Text.ofChars_cons, Text.ofChars_append, List.cons_append,
        List.append_assoc, ← hbehind, ← hleft]
  · rw [exponentPart_of_not_letter] at h
    · cases h
      exact ⟨[], rfl, .none⟩
    · intro e hhead
      obtain ⟨left, rfl⟩ := List.head?_eq_some_iff.1 (Option.mem_def.1 hhead)
      exact not_or.1 fun hletter => he ⟨e, left, rfl, hletter⟩

/-! ## Numbers -/

theorem Exponent.stops {exponent : Option Int} (h : Exponent p exponent) (hrest : EndsNumber rest) :
    EndsDigits (ofChars p ++ rest) ∧ .char '.' ∉ (ofChars p ++ rest).head? := by
  cases h with
  | none => exact ⟨hrest.endsDigits, fun hpoint => (hrest.stops hpoint).2.1 rfl⟩
  | some he =>
    constructor
    · rintro _ ⟨⟩
      rcases he with rfl | rfl <;> decide
    · rintro ⟨⟩
      rcases he with h | h <;> cases h

theorem EndsDigits.fractionText (h : EndsDigits rest) (ds : List Char) :
    EndsDigits (ofChars (fractionText ds) ++ rest) := by
  unfold Json.fractionText
  split
  · exact h
  · rintro _ ⟨⟩
    rfl

theorem IsWhole.head?_append (h : IsWhole ds) (rest : Text) :
    (ofChars ds ++ rest).head? ≠ some (.char '-') := by
  obtain ⟨d, ds, rfl⟩ := List.exists_cons_of_ne_nil h.ne_nil
  rintro ⟨⟩
  cases h.digits '-' List.mem_cons_self

/-- What is made of the parts of a number. -/
def numberOf (negative : Bool) (whole fraction : List Char) (exponent : Option Int) (rest : Text) :
    Reading Json :=
  if fraction.isEmpty && exponent.isNone then
    if maxDigits < whole.length then .error (.tooManyDigits whole.length)
    else .ok (.int (if negative then -(digitsValue whole : Int) else digitsValue whole), rest)
  else
    .ok (.float (Decimal.toFloat negative (digitsValue (whole ++ fraction))
      (exponent.getD 0 - fraction.length)), rest)

section Parts

variable {negative : Bool} {whole fraction : List Char} {unsigned rest₁ rest₂ rest₃ : Text}
  {exponent : Option Int}

theorem head?_signText (hsign : negative = false → unsigned.head? ≠ some (.char '-')) :
    (ofChars (signText negative) ++ unsigned).head? = some (.char '-') ↔ negative = true := by
  cases negative with
  | true => exact iff_of_true rfl rfl
  | false => exact iff_of_false (hsign rfl) Bool.false_ne_true

theorem drop_signText (negative : Bool) (unsigned : Text) :
    (if negative = true then (ofChars (signText negative) ++ unsigned).drop 1
      else ofChars (signText negative) ++ unsigned) = unsigned := by
  cases negative <;> rfl

theorem readNumber_of_parts (hsign : negative = false → unsigned.head? ≠ some (.char '-'))
    (hw : wholePart unsigned = (whole, rest₁)) (hne : whole ≠ [])
    (hf : fractionPart rest₁ = (fraction, rest₂)) (he : exponentPart rest₂ = (exponent, rest₃)) :
    readNumber (ofChars (signText negative) ++ unsigned) =
      numberOf negative whole fraction exponent rest₃ := by
  simp only [readNumber, head?_signText hsign, Bool.decide_eq_true, drop_signText, hw, hf, he,
    isEmpty_eq_false_of_ne_nil hne, Bool.false_eq_true, if_false, numberOf]

theorem readNumber_of_no_digit (hsign : negative = false → unsigned.head? ≠ some (.char '-'))
    (hw : wholePart unsigned = ([], rest₁)) :
    readNumber (ofChars (signText negative) ++ unsigned) =
      .error (.fault .expectingValue (ofChars (signText negative) ++ unsigned).length) := by
  simp only [readNumber, head?_signText hsign, Bool.decide_eq_true, drop_signText, hw,
    List.isEmpty_nil, if_true]

end Parts

theorem readNumber_of_numeral {v : Json} (h : Numeral p v) (hrest : EndsNumber rest) :
    readNumber (ofChars p ++ rest) = .ok (v, rest) := by
  cases h with
  | @int negative whole hwhole hlength =>
    have hfraction := @fractionPart_append [] rest (List.forall_mem_nil _) hrest.endsDigits
      fun hpoint => (hrest.stops hpoint).2.1 rfl
    rw [Text.ofChars_append, List.append_assoc,
      readNumber_of_parts (fun _ => hwhole.head?_append rest)
        (wholePart_of_isWhole hwhole hrest.endsDigits) hwhole.ne_nil hfraction
        (exponentPart_append .none hrest)]
    exact if_neg (Nat.not_lt.2 hlength)
  | @float negative whole fraction q _ hwhole hfraction hp hnot =>
    obtain ⟨hstop, hpoint⟩ := hp.stops hrest
    simp only [Text.ofChars_append, List.append_assoc]
    rw [readNumber_of_parts (fun _ => hwhole.head?_append _)
      (wholePart_of_isWhole hwhole (hstop.fractionText fraction)) hwhole.ne_nil
      (fractionPart_append hfraction hstop hpoint) (exponentPart_append hp hrest), numberOf, hnot,
      if_neg Bool.false_ne_true]

theorem readNumber_of_longWhole (h : LongWhole count t) :
    readNumber t = .error (.tooManyDigits count) := by
  cases h with
  | @mk negative whole rest hwhole hlong hrest =>
    obtain ⟨fraction, rest₂, hf⟩ : ∃ fraction rest₂, fractionPart rest = (fraction, rest₂) :=
      ⟨_, _, rfl⟩
    obtain rfl : fraction = [] := (congrArg Prod.fst hf).symm.trans hrest.fraction
    obtain rfl : rest = rest₂ := (fractionPart_split hf).1
    obtain ⟨exponent, rest₃, he⟩ : ∃ exponent rest₃, exponentPart rest = (exponent, rest₃) :=
      ⟨_, _, rfl⟩
    obtain rfl : exponent = none := (congrArg Prod.fst he).symm.trans hrest.exponent
    rw [Text.ofChars_append, List.append_assoc,
      readNumber_of_parts (fun _ => hwhole.head?_append rest)
        (wholePart_of_isWhole hwhole hrest.digit) hwhole.ne_nil hf he]
    exact if_pos hlong

theorem exists_sign (t : Text) : ∃ (negative : Bool) (unsigned : Text),
    t = ofChars (signText negative) ++ unsigned ∧
      (negative = false → unsigned.head? ≠ some (.char '-')) := by
  by_cases hminus : t.head? = some (.char '-')
  · obtain ⟨rest, rfl⟩ := List.head?_eq_some_iff.1 hminus
    exact ⟨true, rest, rfl, fun h => by cases h⟩
  · exact ⟨false, t, rfl, fun _ => hminus⟩

/-- What the reader of numbers makes of any text: it refuses it where no digit stands, takes a
number, or counts the digits of a whole number that has too many of them. -/
theorem readNumber_cases (t : Text) :
    (∃ fault remaining, readNumber t = .error (.fault fault remaining)) ∨
      (∃ p v rest, t = ofChars p ++ rest ∧ Numeral p v ∧ readNumber t = .ok (v, rest)) ∨
      ∃ count, LongWhole count t := by
  obtain ⟨negative, unsigned, rfl, hsign⟩ := exists_sign t
  obtain ⟨whole, rest₁, hw⟩ : ∃ whole rest, wholePart unsigned = (whole, rest) := ⟨_, _, rfl⟩
  obtain ⟨fraction, rest₂, hf⟩ : ∃ fraction rest, fractionPart rest₁ = (fraction, rest) :=
    ⟨_, _, rfl⟩
  obtain ⟨exponent, rest₃, he⟩ : ∃ exponent rest, exponentPart rest₂ = (exponent, rest) :=
    ⟨_, _, rfl⟩
  by_cases hempty : whole = []
  · subst hempty
    exact .inl ⟨_, _, readNumber_of_no_digit hsign hw⟩
  have hread := readNumber_of_parts hsign hw hempty hf he
  obtain ⟨rfl, hwhole⟩ := isWhole_of_wholePart hw hempty
  obtain ⟨hrest₁, hfraction⟩ := fractionPart_split hf
  obtain ⟨p, hrest₂, hp⟩ := exponentPart_split he
  unfold numberOf at hread
  cases hint : fraction.isEmpty && exponent.isNone with
  | false =>
    rw [hint, if_neg Bool.false_ne_true] at hread
    refine .inr (.inl ⟨_, _, rest₃, ?_, .float hwhole hfraction hp hint, hread⟩)
    simp [hrest₁, hrest₂]
  | true =>
    rw [hint, if_pos rfl] at hread
    simp only [Bool.and_eq_true, List.isEmpty_iff, Option.isNone_iff_eq_none] at hint
    obtain ⟨rfl, rfl⟩ := hint
    obtain rfl : rest₁ = rest₂ := hrest₁
    by_cases hlong : maxDigits < whole.length
    · have hdigit := stops_of_wholePart hw (Nat.lt_trans (by decide) hlong)
      rw [← List.append_assoc, ← Text.ofChars_append]
      exact .inr (.inr ⟨_, .mk hwhole hlong ⟨hdigit, congrArg Prod.fst hf, congrArg Prod.fst he⟩⟩)
    · rw [if_neg hlong] at hread
      cases hp
      obtain rfl : rest₁ = rest₃ := hrest₂
      exact .inr (.inl ⟨_, _, rest₁, by simp, .int hwhole (Nat.le_of_not_lt hlong), hread⟩)

/-! ## Scalars -/

/-- The characters of a word or number and its value. -/
inductive Scalar : List Char → Json → Prop
  | word {w : List Char} {v : Json} : (w, v) ∈ words → Scalar w v
  | number {p : List Char} {v : Json} : Numeral p v → Scalar p v

theorem dropWord?_eq_some_iff {w : List Char} :
    dropWord? w t = some rest ↔ t = ofChars w ++ rest := by
  induction w generalizing t with
  | nil => simp [dropWord?]
  | cons d ds ih =>
    cases t with
    | nil => simp [dropWord?]
    | cons s t =>
      by_cases hd : s = .char d
      · simp [dropWord?, hd, ih]
      · simp [dropWord?, hd]

theorem Numeral.starts {v : Json} (h : Numeral p v) :
    ∃ negative d ds, p = signText negative ++ d :: ds ∧ d.isDigit = true := by
  cases h with
  | @int negative whole hwhole =>
    obtain ⟨d, ds, rfl⟩ := List.exists_cons_of_ne_nil hwhole.ne_nil
    exact ⟨negative, d, ds, rfl, hwhole.digits d List.mem_cons_self⟩
  | @float negative whole fraction p _ hwhole =>
    obtain ⟨d, ds, rfl⟩ := List.exists_cons_of_ne_nil hwhole.ne_nil
    refine ⟨negative, d, ds ++ fractionText fraction ++ p, ?_, hwhole.digits d List.mem_cons_self⟩
    simp

/-- No word starts as a number does. -/
theorem readScalar_of_digit {negative : Bool} {d : Char} (hd : d.isDigit = true) :
    readScalar (ofChars (signText negative) ++ .char d :: t) =
      readNumber (ofChars (signText negative) ++ .char d :: t) := by
  have hne : ∀ c : Char, c.isDigit = false → d ≠ c := by
    rintro c hc rfl
    rw [hd] at hc
    cases hc
  cases negative <;>
    simp [readScalar, words, dropWord?, signText, hne 'n' rfl, hne 't' rfl, hne 'f' rfl,
      hne 'N' rfl, hne 'I' rfl, hne '-' rfl]

theorem readScalar_of_scalar {v : Json} (h : Scalar p v) (hrest : EndsNumber rest) :
    readScalar (ofChars p ++ rest) = .ok (v, rest) := by
  cases h with
  | word hword =>
    simp only [words, List.mem_cons, List.not_mem_nil, or_false, Prod.mk.injEq] at hword
    rcases hword with
      ⟨rfl, rfl⟩ | ⟨rfl, rfl⟩ | ⟨rfl, rfl⟩ | ⟨rfl, rfl⟩ | ⟨rfl, rfl⟩ | ⟨rfl, rfl⟩ <;> rfl
  | number hnumeral =>
    obtain ⟨negative, d, ds, hp, hd⟩ := hnumeral.starts
    have hread := readNumber_of_numeral hnumeral hrest
    rw [hp, Text.ofChars_append, List.append_assoc, Text.ofChars_cons, List.cons_append] at hread ⊢
    rw [readScalar_of_digit hd, hread]

theorem LongWhole.starts (h : LongWhole count t) :
    ∃ negative d rest, t = ofChars (signText negative) ++ .char d :: rest ∧ d.isDigit = true := by
  cases h with
  | @mk negative whole rest hwhole =>
    obtain ⟨d, ds, rfl⟩ := List.exists_cons_of_ne_nil hwhole.ne_nil
    exact ⟨negative, d, ofChars ds ++ rest, by simp, hwhole.digits d List.mem_cons_self⟩

theorem readScalar_of_longWhole (h : LongWhole count t) :
    readScalar t = .error (.tooManyDigits count) := by
  have hread := readNumber_of_longWhole h
  obtain ⟨negative, d, ds, rfl, hd⟩ := h.starts
  rw [readScalar_of_digit hd, hread]

/-- What the reader of scalars makes of any text. -/
theorem readScalar_cases (t : Text) :
    (∃ fault remaining, readScalar t = .error (.fault fault remaining)) ∨
      (∃ p v rest, t = ofChars p ++ rest ∧ Scalar p v ∧ readScalar t = .ok (v, rest)) ∨
      ∃ count, LongWhole count t := by
  unfold readScalar
  split
  · next read hread =>
    obtain ⟨⟨w, v⟩, hword, hdrop⟩ := List.exists_of_findSome?_eq_some hread
    obtain ⟨rest, hrest, rfl⟩ := Option.map_eq_some_iff.1 hdrop
    exact .inr (.inl ⟨w, v, rest, dropWord?_eq_some_iff.1 hrest, .word hword, rfl⟩)
  · rcases readNumber_cases t with hfault | ⟨p, v, rest, ht, hnumeral, hread⟩ | hdigits
    · exact .inl hfault
    · exact .inr (.inl ⟨p, v, rest, ht, .number hnumeral, hread⟩)
    · exact .inr (.inr hdigits)

/-! ## Writing whole numbers -/

theorem digitsValue_concat : digitsValue (ds ++ [c]) = digitsValue ds * 10 + (c.toNat - 48) := by
  rw [digitsValue, List.foldl_append]
  rfl

theorem digitsValue_lt {ds : List Char} (h : ∀ c ∈ ds, c.isDigit = true) :
    digitsValue ds < 10 ^ ds.length := by
  induction ds using List.reverseRecOn with
  | nil => exact Nat.one_pos
  | append_singleton ds c ih =>
    have hds := ih fun d hd => h d (List.mem_append_left _ hd)
    have hc := h c (List.mem_append_right _ List.mem_cons_self)
    simp only [Char.isDigit, Bool.and_eq_true, decide_eq_true_eq, UInt32.le_iff_toNat_le] at hc
    have hc9 : c.toNat ≤ 57 := hc.2
    rw [digitsValue_concat, List.length_append, List.length_singleton, Nat.pow_succ]
    omega

theorem digitsValue_reverse {l : List Nat} (h : ∀ d ∈ l, d < 10) :
    digitsValue (l.reverse.map Decimal.digitChar) = Nat.ofDigits 10 l := by
  induction l with
  | nil => rfl
  | cons d l ih =>
    obtain ⟨hd, hl⟩ := List.forall_mem_cons.1 h
    rw [List.reverse_cons, List.map_append, List.map_singleton, digitsValue_concat, ih hl,
      Decimal.toNat_digitChar d hd, Nat.add_sub_cancel_left, Nat.ofDigits_cons, Nat.mul_comm,
      Nat.add_comm]

theorem digitsValue_natText (n : Nat) : digitsValue (Decimal.natText n).toList = n := by
  by_cases hn : n = 0
  · subst hn
    rfl
  · rw [Decimal.toList_natText_of_ne_zero hn,
      digitsValue_reverse fun d hd => Nat.digits_lt_base (by decide) hd, Nat.ofDigits_digits]

theorem isWhole_natText (n : Nat) : IsWhole (Decimal.natText n).toList :=
  ⟨Decimal.natText_ne_nil n, fun _ hc => Decimal.isDigit_of_mem_natText hc,
    fun _ h => Decimal.eq_nil_of_natText h⟩

theorem numeral_intText {n : Int} (h : n.natAbs < 10 ^ maxDigits) :
    Numeral (Decimal.intText n).toList (.int n) := by
  have hnumeral := @Numeral.int (decide (n < 0)) _ (isWhole_natText n.natAbs)
    ((Decimal.length_natText_le_iff (by decide)).2 h)
  rw [digitsValue_natText] at hnumeral
  by_cases hn : n < 0
  · rw [Decimal.intText, if_pos hn, String.toList_append]
    rw [decide_eq_true hn, if_pos rfl, Int.ofNat_natAbs_of_nonpos hn.le, neg_neg] at hnumeral
    exact hnumeral
  · rw [Decimal.intText, if_neg hn]
    rw [decide_eq_false hn, if_neg Bool.false_ne_true,
      Int.natAbs_of_nonneg (not_lt.1 hn)] at hnumeral
    exact hnumeral

end RequestSigning.Json
