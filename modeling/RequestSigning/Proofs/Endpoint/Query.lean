import RequestSigning.Endpoint.Path
import RequestSigning.Proofs.Text.Spans

/-!
# Query and fragment

A question mark or a number sign ends what an endpoint says about its path. Neither is dropped,
neither can stand in a scheme, and both end a host. So every step of the reading leaves the text
from such a mark on as it is, and the last step cuts it off.
-/

namespace RequestSigning.Endpoint

open Text (takeWhile_append_cons dropWhile_append_cons)

variable {d : Char}

theorem decide_ne_of_not_mem {x : Char} {cs : List Char} (h : x ∉ cs) :
    ∀ c ∈ cs, decide (c ≠ x) = true :=
  fun _ hc => decide_eq_true fun heq => h (heq ▸ hc)

/-- What is kept of a text without tabs and line breaks. -/
def withoutBreaks (cs : List Char) : List Char :=
  cs.filter fun c => c ≠ '\t' && c ≠ '\r' && c ≠ '\n'

theorem clean_eq (cs : List Char) : clean cs = withoutBreaks (cs.dropWhile (·.toNat ≤ 0x20)) := rfl

/-! ## Schemes -/

/-- Whether a text is a scheme. -/
def isScheme (cs : List Char) : Bool :=
  (cs.head?.map Char.isAlpha).getD false && cs.all isSchemeChar

theorem isScheme_eq_false {cs : List Char} {c : Char} (hmem : c ∈ cs)
    (hc : isSchemeChar c = false) :
    isScheme cs = false := by
  unfold isScheme
  rw [Bool.and_eq_false_iff]
  exact Or.inr (List.all_eq_false.2 ⟨c, hmem, by simp [hc]⟩)

theorem afterScheme_of_colon {scheme : List Char} (h : ':' ∉ scheme) (rest : List Char) :
    afterScheme (scheme ++ ':' :: rest) =
      if isScheme scheme then rest else scheme ++ ':' :: rest := by
  have htake : (scheme ++ ':' :: rest).takeWhile (· ≠ ':') = scheme := by
    rw [takeWhile_append_cons (by decide), List.takeWhile_eq_self_iff]
    exact decide_ne_of_not_mem h
  have hdrop : (scheme ++ ':' :: rest).dropWhile (· ≠ ':') = ':' :: rest := by
    rw [dropWhile_append_cons (by decide), List.dropWhile_eq_nil_iff.2 (decide_ne_of_not_mem h),
      List.nil_append]
  unfold afterScheme
  rw [htake, hdrop]
  rfl

theorem afterScheme_of_no_colon {cs : List Char} (h : ':' ∉ cs) : afterScheme cs = cs := by
  have hdrop : cs.dropWhile (· ≠ ':') = [] :=
    List.dropWhile_eq_nil_iff.2 (decide_ne_of_not_mem h)
  unfold afterScheme
  rw [hdrop]

theorem afterScheme_of_not_isScheme {scheme : List Char} (h : ':' ∉ scheme)
    (hno : isScheme scheme = false) (rest : List Char) :
    afterScheme (scheme ++ ':' :: rest) = scheme ++ ':' :: rest := by
  rw [afterScheme_of_colon h, hno]
  rfl

/-! ## Hosts -/

theorem splitHost_of_slashes (rest : List Char) :
    splitHost ('/' :: '/' :: rest) =
      (rest.takeWhile (!endsHost ·), rest.dropWhile (!endsHost ·)) :=
  rfl

theorem splitHost_of_no_slashes {cs : List Char} (h : ¬ ['/', '/'] <+: cs) :
    splitHost cs = ([], cs) := by
  unfold splitHost
  split
  · next rest => exact absurd ⟨rest, rfl⟩ h
  · rfl

/-! ## What stands behind the mark -/

section Mark

variable (hd : d = '?' ∨ d = '#')

include hd

theorem clean_append_mark (cs q : List Char) :
    clean (cs ++ d :: q) = clean cs ++ d :: withoutBreaks q := by
  unfold clean withoutBreaks
  rcases hd with rfl | rfl
  all_goals
    rw [dropWhile_append_cons (by decide), List.filter_append, List.filter_cons_of_pos (by decide)]

theorem afterScheme_append_mark (cs q : List Char) :
    afterScheme (cs ++ d :: q) = afterScheme cs ++ d :: q := by
  by_cases hcolon : ':' ∈ cs
  · obtain ⟨scheme, rest, rfl, hno⟩ := List.eq_append_cons_of_mem hcolon
    rw [List.append_assoc, List.cons_append, afterScheme_of_colon hno, afterScheme_of_colon hno]
    split
    · rfl
    · rw [List.append_assoc, List.cons_append]
  · rw [afterScheme_of_no_colon hcolon]
    have hmark : d ≠ ':' ∧ isSchemeChar d = false := by
      rcases hd with rfl | rfl <;> decide
    by_cases hlater : ':' ∈ q
    · -- The first colon stands behind the mark, so the mark would be part of the scheme.
      obtain ⟨between, rest, rfl, hno⟩ := List.eq_append_cons_of_mem hlater
      have hcolon' : ':' ∉ cs ++ d :: between := by
        simp [hcolon, hno, hmark.1.symm]
      have hscheme : isScheme (cs ++ d :: between) = false :=
        isScheme_eq_false (List.mem_append_right _ List.mem_cons_self) hmark.2
      have hsplit : cs ++ d :: (between ++ ':' :: rest) = (cs ++ d :: between) ++ ':' :: rest := by
        rw [List.append_assoc, List.cons_append]
      rw [hsplit, afterScheme_of_not_isScheme hcolon' hscheme]
    · apply afterScheme_of_no_colon
      simp [hcolon, hlater, hmark.1.symm]

theorem slashes_prefix_append_mark_iff (cs q : List Char) :
    ['/', '/'] <+: cs ++ d :: q ↔ ['/', '/'] <+: cs := by
  have hslash : '/' ≠ d := by
    rcases hd with rfl | rfl <;> decide
  match cs with
  | [] => simp [hslash]
  | [c] => simp [hslash]
  | c :: c' :: cs => simp

theorem splitHost_append_mark (cs q : List Char) :
    splitHost (cs ++ d :: q) = ((splitHost cs).1, (splitHost cs).2 ++ d :: q) := by
  by_cases hslashes : ['/', '/'] <+: cs
  · obtain ⟨rest, rfl⟩ := hslashes
    have hends : (!endsHost d) = false := by
      rcases hd with rfl | rfl <;> decide
    change splitHost ('/' :: '/' :: (rest ++ d :: q)) = _
    rw [splitHost_of_slashes, takeWhile_append_cons hends, dropWhile_append_cons hends]
    rfl
  · rw [splitHost_of_no_slashes hslashes,
      splitHost_of_no_slashes (mt (slashes_prefix_append_mark_iff hd cs q).1 hslashes)]

theorem beforeQuery_append_mark (cs q : List Char) :
    beforeQuery (cs ++ d :: q) = beforeQuery cs := by
  unfold beforeQuery
  rw [List.takeWhile_takeWhile, List.takeWhile_takeWhile]
  apply takeWhile_append_cons
  rcases hd with rfl | rfl <;> decide

/-- A mark and what stands behind it change neither the path nor what is wrong with the host. -/
theorem pathChars_append_mark (cs q : List Char) : pathChars (cs ++ d :: q) = pathChars cs := by
  unfold pathChars
  rw [clean_append_mark hd, afterScheme_append_mark hd, splitHost_append_mark hd]
  dsimp only
  rw [beforeQuery_append_mark hd]

end Mark

end RequestSigning.Endpoint
