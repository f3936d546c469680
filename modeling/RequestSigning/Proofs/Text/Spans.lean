import Mathlib.Data.List.TakeWhile

/-!
# Spans of characters

The readers take characters from the front of a text as long as they belong together. A character
that does not belong there ends what is taken: what stands behind it makes no difference.
-/

namespace RequestSigning.Text

variable {p : Char → Bool} {stop : Char} {span rest : List Char}

theorem takeWhile_append_cons (h : p stop = false) (cs rest : List Char) :
    (cs ++ stop :: rest).takeWhile p = cs.takeWhile p := by
  induction cs with
  | nil => rw [List.nil_append, List.takeWhile_cons_of_neg (by simp [h]), List.takeWhile_nil]
  | cons c cs ih =>
    rw [List.cons_append, List.takeWhile_cons, List.takeWhile_cons, ih]

theorem dropWhile_append_cons (h : p stop = false) (cs rest : List Char) :
    (cs ++ stop :: rest).dropWhile p = cs.dropWhile p ++ stop :: rest := by
  induction cs with
  | nil =>
    rw [List.nil_append, List.dropWhile_cons_of_neg (by simp [h]), List.dropWhile_nil,
      List.nil_append]
  | cons c cs ih =>
    rw [List.cons_append, List.dropWhile_cons, List.dropWhile_cons, ih]
    split <;> rfl

theorem takeWhile_append_stop (hspan : ∀ c ∈ span, p c = true)
    (hrest : ∀ c ∈ rest.head?, p c = false) :
    (span ++ rest).takeWhile p = span := by
  rw [List.takeWhile_append_of_pos hspan]
  cases rest with
  | nil => rw [List.takeWhile_nil, List.append_nil]
  | cons c rest => rw [List.takeWhile_cons_of_neg (by simp [hrest c rfl]), List.append_nil]

theorem dropWhile_append_stop (hspan : ∀ c ∈ span, p c = true)
    (hrest : ∀ c ∈ rest.head?, p c = false) :
    (span ++ rest).dropWhile p = rest := by
  rw [List.dropWhile_append_of_pos hspan]
  cases rest with
  | nil => rfl
  | cons c rest => exact List.dropWhile_cons_of_neg (by simp [hrest c rfl])

end RequestSigning.Text
