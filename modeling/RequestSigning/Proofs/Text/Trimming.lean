import Mathlib.Data.List.DropRight
import RequestSigning.Text.Classes

/-!
# Trimmed texts

Blanks around a text come off, and nothing else does: of a text between blanks that has none at its
own ends, trimming leaves that text. What is left is found without trimming, as the only such part
of the text.
-/

namespace RequestSigning.Text

variable {before cs after core rest : List Char}

theorem trimStartChars_append (hbefore : before.all isBlank = true) :
    trimStartChars (before ++ cs) = trimStartChars cs :=
  List.dropWhile_append_of_pos (List.all_eq_true.1 hbefore)

theorem trimEndChars_append (hafter : after.all isBlank = true) :
    trimEndChars (cs ++ after) = trimEndChars cs := by
  unfold trimEndChars
  rw [List.reverse_append, List.dropWhile_append_of_pos]
  exact fun c hc => List.all_eq_true.1 hafter c (List.mem_reverse.1 hc)

theorem trimStartChars_eq_nil_iff : trimStartChars cs = [] ↔ cs.all isBlank = true := by
  rw [trimStartChars, List.dropWhile_eq_nil_iff, List.all_eq_true]

theorem trimStartChars_of_head (h : ∀ c ∈ cs.head?, isBlank c = false) :
    trimStartChars cs = cs := by
  cases cs with
  | nil => rfl
  | cons c rest => exact List.dropWhile_cons_of_neg (Bool.not_eq_true _ ▸ h c rfl)

theorem trimEndChars_of_getLast (h : ∀ c ∈ cs.getLast?, isBlank c = false) : trimEndChars cs = cs :=
  List.rdropWhile_eq_self_iff.2 fun hne =>
    Bool.not_eq_true _ ▸ h _ (List.getLast?_eq_some_getLast hne)

/-- Nothing is left only where there is nothing but blanks. -/
theorem trimChars_eq_nil_iff : trimChars cs = [] ↔ cs.all isBlank = true := by
  constructor
  · intro h
    by_contra hcs
    -- The text without its leading blanks starts with a character that stays.
    have hne := mt trimStartChars_eq_nil_iff.1 hcs
    have hall := List.rdropWhile_eq_nil_iff.1 h _ (List.head_mem hne)
    exact absurd hall (Bool.not_eq_true _ ▸ List.head_dropWhile_not isBlank hne)
  · intro h
    rw [trimChars, trimStartChars_eq_nil_iff.2 h]
    rfl

theorem trimChars_append (hbefore : before.all isBlank = true) (hafter : after.all isBlank = true)
    (hfirst : ∀ c ∈ cs.head?, isBlank c = false) (hlast : ∀ c ∈ cs.getLast?, isBlank c = false) :
    trimChars (before ++ cs ++ after) = cs := by
  cases cs with
  | nil =>
    rw [List.append_nil, trimChars_eq_nil_iff, List.all_append, hbefore, hafter]
    rfl
  | cons c rest =>
    have hstart : trimStartChars (c :: rest ++ after) = c :: rest ++ after :=
      trimStartChars_of_head hfirst
    rw [trimChars, List.append_assoc, trimStartChars_append hbefore, hstart,
      trimEndChars_append hafter, trimEndChars_of_getLast hlast]

theorem trim_eq_empty_iff (s : String) : trim s = "" ↔ allBlank s = true := by
  rw [trim, allBlank, String.ofList_eq_empty_iff, trimChars_eq_nil_iff]

/-! ## What is left -/

/-- What stands behind the leading blanks of a text. -/
def FollowsBlanks (cs rest : List Char) : Prop :=
  ∃ before : List Char, before.all isBlank = true ∧ cs = before ++ rest ∧
    ∀ c ∈ rest.head?, isBlank c = false

/-- What stands between the leading and the trailing blanks of a text. -/
def BetweenBlanks (cs core : List Char) : Prop :=
  ∃ before after : List Char, before.all isBlank = true ∧ after.all isBlank = true ∧
    cs = before ++ core ++ after ∧
    (∀ c ∈ core.head?, isBlank c = false) ∧ ∀ c ∈ core.getLast?, isBlank c = false

theorem followsBlanks_trimStartChars (cs : List Char) : FollowsBlanks cs (trimStartChars cs) := by
  refine ⟨cs.takeWhile isBlank, List.all_takeWhile, List.takeWhile_append_dropWhile.symm,
    fun c hc => ?_⟩
  have hstart := List.head?_dropWhile_not isBlank cs
  rw [trimStartChars] at hc
  rwa [hc] at hstart

theorem betweenBlanks_trimChars (cs : List Char) : BetweenBlanks cs (trimChars cs) := by
  obtain ⟨before, hbefore, hcs, hfirst⟩ := followsBlanks_trimStartChars cs
  have hend : trimChars cs ++ (trimStartChars cs).rtakeWhile isBlank = trimStartChars cs :=
    List.rdropWhile_append_rtakeWhile
  refine ⟨before, (trimStartChars cs).rtakeWhile isBlank, hbefore, ?_, ?_, fun c hc => ?_,
    fun c hc => ?_⟩
  · exact List.all_eq_true.2 fun c hc => List.mem_rtakeWhile_imp hc
  · rw [List.append_assoc, hend]
    exact hcs
  · apply hfirst
    rw [← hend]
    exact List.mem_head?_append_of_mem_head? hc
  · obtain ⟨hne, rfl⟩ := List.mem_getLast?_eq_getLast hc
    exact Bool.eq_false_iff.2 (List.rdropWhile_last_not _ _ hne)

theorem trimStartChars_eq_iff : trimStartChars cs = rest ↔ FollowsBlanks cs rest := by
  constructor
  · rintro rfl
    exact followsBlanks_trimStartChars cs
  · rintro ⟨before, hbefore, rfl, hfirst⟩
    rw [trimStartChars_append hbefore, trimStartChars_of_head hfirst]

theorem trimChars_eq_iff : trimChars cs = core ↔ BetweenBlanks cs core := by
  constructor
  · rintro rfl
    exact betweenBlanks_trimChars cs
  · rintro ⟨before, after, hbefore, hafter, rfl, hfirst, hlast⟩
    exact trimChars_append hbefore hafter hfirst hlast

/-- What is left has nothing to trim. -/
theorem FollowsBlanks.self (h : FollowsBlanks cs rest) : FollowsBlanks rest rest :=
  let ⟨_, _, _, hfirst⟩ := h
  ⟨[], rfl, rfl, hfirst⟩

theorem BetweenBlanks.subset (h : BetweenBlanks cs core) : core ⊆ cs := by
  obtain ⟨before, after, -, -, rfl, -, -⟩ := h
  exact fun c hc => List.mem_append_left after (List.mem_append_right before hc)

theorem BetweenBlanks.self (h : BetweenBlanks cs core) : BetweenBlanks core core :=
  let ⟨_, _, _, _, _, hfirst, hlast⟩ := h
  ⟨[], [], rfl, rfl, (List.append_nil core).symm, hfirst, hlast⟩

end RequestSigning.Text
