import Mathlib.Data.List.TakeWhile
import RequestSigning.Proofs.Json.Scalars
import RequestSigning.Proofs.Json.Texts

/-!
# The grammar of documents

Which texts write which value. Lists and objects have blanks around their items and members, and are
closed by their bracket; of the members of an object with one name the last gives the value. A
second grammar says how texts start in which the first thing that is no document is a whole number
with too many digits.
-/

namespace RequestSigning.Json

open Json.Text (ofChars)

/-- Nothing but blanks. -/
def AllBlank (t : Text) : Prop := ∀ s ∈ t, isBlank s = true

mutual

/-- The symbols of a value, without blanks around them. -/
inductive Written : Text → Json → Prop
  | scalar {p : List Char} {v : Json} : Scalar p v → Written (ofChars p) v
  | text {p : Text} {ps : List Piece} : Spells p ps →
      Written (.char '"' :: p ++ [.char '"']) (.text (joinPairs ps))
  | emptyList {bs : Text} : AllBlank bs → Written (.char '[' :: bs ++ [.char ']']) (.list [])
  | list {bs p : Text} {items : List Json} : AllBlank bs → WrittenItems p items →
      Written (.char '[' :: bs ++ p) (.list items)
  | emptyObject {bs : Text} : AllBlank bs →
      Written (.char '\x7b' :: bs ++ [.char '\x7d']) (.object [])
  | object {bs p : Text} {entries : List (Text × Json)} : AllBlank bs → WrittenMembers p entries →
      Written (.char '\x7b' :: bs ++ p) (ofEntries entries)

/-- The symbols of a list from its first item on, its end included. -/
inductive WrittenItems : Text → List Json → Prop
  | last {p bs : Text} {item : Json} : Written p item → AllBlank bs →
      WrittenItems (p ++ bs ++ [.char ']']) [item]
  | more {p bs₁ bs₂ q : Text} {item : Json} {items : List Json} : Written p item → AllBlank bs₁ →
      AllBlank bs₂ → WrittenItems q items →
      WrittenItems (p ++ bs₁ ++ .char ',' :: bs₂ ++ q) (item :: items)

/-- The symbols of a member: its name, a colon and its value. -/
inductive WrittenMember : Text → Text × Json → Prop
  | mk {p bs₁ bs₂ q : Text} {ps : List Piece} {v : Json} : Spells p ps → AllBlank bs₁ →
      AllBlank bs₂ → Written q v →
      WrittenMember (.char '"' :: p ++ .char '"' :: bs₁ ++ .char ':' :: bs₂ ++ q) (joinPairs ps, v)

/-- The symbols of an object from its first member on, its end included. -/
inductive WrittenMembers : Text → List (Text × Json) → Prop
  | last {p bs : Text} {entry : Text × Json} : WrittenMember p entry → AllBlank bs →
      WrittenMembers (p ++ bs ++ [.char '\x7d']) [entry]
  | more {p bs₁ bs₂ q : Text} {entry : Text × Json} {entries : List (Text × Json)} :
      WrittenMember p entry → AllBlank bs₁ → AllBlank bs₂ → WrittenMembers q entries →
      WrittenMembers (p ++ bs₁ ++ .char ',' :: bs₂ ++ q) (entry :: entries)

end

mutual

/-- What stands from the start of a value on, where the first thing that is no document is a whole
number of `count` digits, more than it may have. -/
inductive Overlong (count : Nat) : Text → Prop
  | number {t : Text} : LongWhole count t → Overlong count t
  | list {bs t : Text} : AllBlank bs → OverlongItems count t →
      Overlong count (.char '[' :: bs ++ t)
  | object {bs t : Text} : AllBlank bs → OverlongMembers count t →
      Overlong count (.char '\x7b' :: bs ++ t)

/-- The same from the start of an item of a list on. -/
inductive OverlongItems (count : Nat) : Text → Prop
  | first {t : Text} : Overlong count t → OverlongItems count t
  | more {p bs₁ bs₂ t : Text} {item : Json} : Written p item → AllBlank bs₁ → AllBlank bs₂ →
      OverlongItems count t → OverlongItems count (p ++ bs₁ ++ .char ',' :: bs₂ ++ t)

/-- The same from the start of a member on, in its value. -/
inductive OverlongMember (count : Nat) : Text → Prop
  | mk {p bs₁ bs₂ t : Text} {ps : List Piece} : Spells p ps → AllBlank bs₁ → AllBlank bs₂ →
      Overlong count t →
      OverlongMember count (.char '"' :: p ++ .char '"' :: bs₁ ++ .char ':' :: bs₂ ++ t)

/-- The same from the start of a member of an object on. -/
inductive OverlongMembers (count : Nat) : Text → Prop
  | first {t : Text} : OverlongMember count t → OverlongMembers count t
  | more {p bs₁ bs₂ t : Text} {entry : Text × Json} : WrittenMember p entry → AllBlank bs₁ →
      AllBlank bs₂ → OverlongMembers count t →
      OverlongMembers count (p ++ bs₁ ++ .char ',' :: bs₂ ++ t)

end

variable {c : Char} {s : Symbol} {bs p rest t : Text} {v : Json} {count : Nat}

/-! ## Blanks -/

theorem allBlank_nil : AllBlank [] := fun _ h => by cases h

theorem allBlank_space : AllBlank [.char ' '] := List.forall_mem_singleton.2 rfl

theorem AllBlank.append {bs' : Text} (h : AllBlank bs) (h' : AllBlank bs') :
    AllBlank (bs ++ bs') := by
  intro s hs
  rcases List.mem_append.1 hs with hs | hs
  · exact h s hs
  · exact h' s hs

theorem skipBlanks_append (h : AllBlank bs) (t : Text) : skipBlanks (bs ++ t) = skipBlanks t :=
  List.dropWhile_append_of_pos h

theorem skipBlanks_cons (h : isBlank s = false) : skipBlanks (s :: t) = s :: t :=
  List.dropWhile_cons_of_neg (by simp [h])

/-- Between blanks and the rest of a text. -/
theorem skipBlanks_of_stop (h : AllBlank bs) (hs : isBlank s = false) :
    skipBlanks (bs ++ s :: rest) = s :: rest := by
  rw [skipBlanks_append h, skipBlanks_cons hs]

theorem exists_blanks (t : Text) : ∃ bs, AllBlank bs ∧ t = bs ++ skipBlanks t :=
  ⟨t.takeWhile isBlank, fun _ hs => List.mem_takeWhile_imp hs,
    List.takeWhile_append_dropWhile.symm⟩

theorem skipBlanks_eq_nil_iff : skipBlanks t = [] ↔ AllBlank t := List.dropWhile_eq_nil_iff

/-- No number goes on with blanks and a character that ends a number. -/
theorem endsNumber_append (h : AllBlank bs) (hrest : EndsNumber rest) :
    EndsNumber (bs ++ rest) := by
  cases bs with
  | nil => exact hrest
  | cons s bs =>
    have hs := h s List.mem_cons_self
    simp only [isBlank, Bool.or_eq_true, decide_eq_true_eq] at hs
    rcases hs with ((rfl | rfl) | rfl) | rfl <;> exact endsNumber_cons (by decide)

/-! ## First characters -/

/-- Whether a word or number may start with this character. -/
def startsScalar (c : Char) : Bool := c.isDigit || "-ntfNI".toList.contains c

/-- Whether a value may start with this character. -/
def startsValue (c : Char) : Bool := startsScalar c || "\"[\x7b".toList.contains c

theorem isBlank_of_startsValue (h : startsValue c = true) : isBlank (.char c) = false := by
  by_contra hblank
  simp only [isBlank, Bool.not_eq_false, Bool.or_eq_true, decide_eq_true_eq,
    Symbol.char.injEq] at hblank
  rcases hblank with ((rfl | rfl) | rfl) | rfl <;> cases h

theorem Scalar.starts {p : List Char} (h : Scalar p v) :
    ∃ c q, p = c :: q ∧ startsScalar c = true := by
  cases h with
  | word hword =>
    simp only [words, List.mem_cons, List.not_mem_nil, or_false, Prod.mk.injEq] at hword
    rcases hword with ⟨rfl, -⟩ | ⟨rfl, -⟩ | ⟨rfl, -⟩ | ⟨rfl, -⟩ | ⟨rfl, -⟩ | ⟨rfl, -⟩ <;>
      exact ⟨_, _, rfl, rfl⟩
  | number hnumeral =>
    obtain ⟨negative, d, ds, rfl, hd⟩ := hnumeral.starts
    cases negative with
    | true => exact ⟨_, _, rfl, rfl⟩
    | false => exact ⟨_, _, rfl, by rw [startsScalar, hd, Bool.true_or]⟩

theorem Written.starts (h : Written p v) : ∃ c q, p = .char c :: q ∧ startsValue c = true := by
  cases h with
  | scalar hscalar =>
    obtain ⟨c, q, rfl, hc⟩ := hscalar.starts
    exact ⟨c, ofChars q, rfl, by rw [startsValue, hc, Bool.true_or]⟩
  | _ => exact ⟨_, _, rfl, rfl⟩

theorem WrittenItems.starts {items : List Json} (h : WrittenItems p items) :
    ∃ c q, p = .char c :: q ∧ startsValue c = true := by
  cases h with
  | last hitem | more hitem =>
    obtain ⟨c, q, rfl, hc⟩ := hitem.starts
    exact ⟨c, _, rfl, hc⟩

theorem WrittenMembers.starts {entries : List (Text × Json)} (h : WrittenMembers p entries) :
    ∃ q, p = .char '"' :: q := by
  cases h with
  | last hmember | more hmember =>
    cases hmember
    exact ⟨_, rfl⟩

theorem LongWhole.startsScalar (h : LongWhole count t) :
    ∃ c rest, t = .char c :: rest ∧ startsScalar c = true := by
  obtain ⟨negative, d, ds, rfl, hd⟩ := h.starts
  cases negative with
  | true => exact ⟨_, _, rfl, rfl⟩
  | false => exact ⟨_, _, rfl, by rw [Json.startsScalar, hd, Bool.true_or]⟩

theorem Overlong.starts (h : Overlong count t) :
    ∃ c rest, t = .char c :: rest ∧ startsValue c = true := by
  cases h with
  | number hnumber =>
    obtain ⟨c, rest, ht, hc⟩ := hnumber.startsScalar
    exact ⟨c, rest, ht, by rw [startsValue, hc, Bool.true_or]⟩
  | _ => exact ⟨_, _, rfl, rfl⟩

theorem OverlongItems.starts (h : OverlongItems count t) :
    ∃ c rest, t = .char c :: rest ∧ startsValue c = true := by
  cases h with
  | first hitem => exact hitem.starts
  | more hitem =>
    obtain ⟨c, q, rfl, hc⟩ := hitem.starts
    exact ⟨c, _, rfl, hc⟩

theorem OverlongMembers.starts (h : OverlongMembers count t) : ∃ rest, t = .char '"' :: rest := by
  cases h with
  | first hmember | more hmember =>
    cases hmember
    exact ⟨_, rfl⟩

/-! ## Runs of digits -/

mutual

theorem Overlong.hasLongRun {count : Nat} {t : Text} : Overlong count t → HasLongRun count t
  | .number hnumber => hnumber.hasLongRun
  | .list _ hitems => hitems.hasLongRun.append _
  | .object _ hmembers => hmembers.hasLongRun.append _

theorem OverlongItems.hasLongRun {count : Nat} {t : Text} :
    OverlongItems count t → HasLongRun count t
  | .first hitem => hitem.hasLongRun
  | .more _ _ _ hitems => hitems.hasLongRun.append _

theorem OverlongMember.hasLongRun {count : Nat} {t : Text} :
    OverlongMember count t → HasLongRun count t
  | .mk _ _ _ hvalue => hvalue.hasLongRun.append _

theorem OverlongMembers.hasLongRun {count : Nat} {t : Text} :
    OverlongMembers count t → HasLongRun count t
  | .first hmember => hmember.hasLongRun
  | .more _ _ _ hmembers => hmembers.hasLongRun.append _

end

/-! ## Brackets of an object -/

variable {entries : List (Text × Json)}

theorem WrittenMembers.ends {p : Text} {entries : List (Text × Json)} :
    WrittenMembers p entries → ∃ q, p = q ++ [.char '\x7d']
  | .last _ _ => ⟨_, rfl⟩
  | .more _ _ _ hmembers => by
    obtain ⟨q, rfl⟩ := hmembers.ends
    exact ⟨_, (List.append_assoc _ _ _).symm⟩

theorem Scalar.ne_object {p : List Char} {v : Json} (h : Scalar p v) : v ≠ .object entries := by
  rintro rfl
  cases h with
  | word hword => simp [words] at hword
  | number hnumeral => cases hnumeral

theorem Written.brackets (h : Written p (.object entries)) :
    ∃ q, p = .char '\x7b' :: q ++ [.char '\x7d'] := by
  generalize hv : Json.object entries = v at h
  cases h with
  | scalar hscalar => exact absurd hv.symm hscalar.ne_object
  | text | emptyList | list => cases hv
  | emptyObject => exact ⟨_, rfl⟩
  | object hbs hmembers =>
    obtain ⟨q, rfl⟩ := hmembers.ends
    exact ⟨_, (List.append_assoc _ _ _).symm⟩

end RequestSigning.Json
