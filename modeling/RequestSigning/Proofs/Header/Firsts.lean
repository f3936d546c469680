import Mathlib.Data.List.Induction
import RequestSigning.Proofs.Header.Multimap
import RequestSigning.Request.Basic

/-!
# Headers as a plain mapping

A plain mapping holds the first value of each name. Read back, it has all values of the names with
one value, and of the others only the first.
-/

namespace RequestSigning.Header.Multimap

/-- Every header has a name. -/
def Named (m : Multimap) : Prop := ∀ e ∈ m.entries, e.1 ≠ ""

instance (m : Multimap) : Decidable m.Named :=
  inferInstanceAs (Decidable (∀ e ∈ m.entries, e.1 ≠ ""))

theorem Named.push {m : Multimap} (h : m.Named) {name : String} (hn : name ≠ "") (value : String) :
    (m.push name value).Named := by
  intro e he
  rcases List.mem_append.1 he with hm | hnew
  · exact h e hm
  · obtain rfl := List.mem_singleton.1 hnew
    exact hn

theorem Named.remove {m : Multimap} (h : m.Named) (name : String) : (m.remove name).Named :=
  fun e he => h e (List.mem_filter.1 he).1

variable (m : Multimap)

theorem contains_congr {m m' : Multimap} {a b : String} (h : m.getAll a = m'.getAll b) :
    m.contains a = m'.contains b := by
  unfold contains
  rw [getFirst?_congr h]

theorem getFirst?_push (n value name : String) :
    (m.push n value).getFirst? name =
      (m.getFirst? name).or (if sameName n name then some value else none) := by
  rw [getFirst?_eq_head?, getFirst?_eq_head?, getAll_push]
  by_cases h : sameName n name = true
  · rw [if_pos h, if_pos h, List.head?_append, List.head?_singleton]
  · rw [if_neg h, if_neg h, Option.or_none]

/-! ## First values -/

theorem firsts_push (n value : String) :
    (m.push n value).firsts =
      if m.firsts.any (fun s => sameName s.1 n) then m.firsts else m.firsts ++ [(n, value)] := by
  unfold firsts push
  rw [List.foldl_append]
  rfl

theorem any_sameName_eq_contains (entries : List (String × String)) (name : String) :
    entries.any (fun s => sameName s.1 name) = contains ⟨entries⟩ name := by
  unfold contains getFirst?
  rw [Option.isSome_map, Bool.eq_iff_iff, List.find?_isSome, List.any_eq_true]

theorem mem_of_mem_firsts {e : String × String} (h : e ∈ m.firsts) : e ∈ m.entries := by
  obtain ⟨entries⟩ := m
  -- First values are collected from the front, so the induction takes the last header off.
  induction entries using List.reverseRecOn with
  | nil => exact h
  | append_singleton entries last ih =>
    change e ∈ (push ⟨entries⟩ last.1 last.2).firsts at h
    rw [firsts_push] at h
    split at h
    · exact List.mem_append_left _ (ih h)
    · rcases List.mem_append.1 h with hf | hl
      · exact List.mem_append_left _ (ih hf)
      · exact List.mem_append_right _ hl

/-- Of every name the first value is left. -/
theorem getAll_firsts (name : String) : getAll ⟨m.firsts⟩ name = (m.getFirst? name).toList := by
  obtain ⟨entries⟩ := m
  induction entries using List.reverseRecOn generalizing name with
  | nil => rfl
  | append_singleton entries last ih =>
    obtain ⟨n, value⟩ := last
    change getAll ⟨(push ⟨entries⟩ n value).firsts⟩ name =
      ((push ⟨entries⟩ n value).getFirst? name).toList
    have hcontains : ∀ other, contains ⟨firsts ⟨entries⟩⟩ other = contains ⟨entries⟩ other := by
      intro other
      unfold contains
      rw [getFirst?_eq_head?, ih]
      cases getFirst? ⟨entries⟩ other <;> rfl
    rw [firsts_push, getFirst?_push, any_sameName_eq_contains, hcontains]
    -- The last header counts for its own name only, and there only if the name is new.
    by_cases hn : sameName n name = true
    · have hsame : contains ⟨entries⟩ n = contains ⟨entries⟩ name :=
        contains_congr (getAll_congr_name _ hn)
      rw [hsame, if_pos hn]
      unfold contains
      cases hfirst : getFirst? ⟨entries⟩ name with
      | none =>
        change getAll (push ⟨firsts ⟨entries⟩⟩ n value) name = [value]
        rw [getAll_push, if_pos hn, ih, hfirst]
        rfl
      | some v =>
        change getAll ⟨firsts ⟨entries⟩⟩ name = [v]
        rw [ih, hfirst]
        rfl
    · rw [if_neg hn, Option.or_none, ← ih]
      split
      · rfl
      · exact (getAll_push ⟨firsts ⟨entries⟩⟩ n value name).trans (if_neg hn)

theorem contains_firsts (name : String) : contains ⟨m.firsts⟩ name = m.contains name := by
  unfold contains
  rw [getFirst?_eq_head?, getAll_firsts]
  cases m.getFirst? name <;> rfl

theorem lower_firsts :
    m.firsts.map (fun e => Text.lower e.1) = (m.entries.map fun e => Text.lower e.1).eraseDups := by
  obtain ⟨entries⟩ := m
  induction entries using List.reverseRecOn with
  | nil => rfl
  | append_singleton entries last ih =>
    change (push ⟨entries⟩ last.1 last.2).firsts.map _ = _
    have hany : (firsts ⟨entries⟩).any (fun s => sameName s.1 last.1) = true ↔
        Text.lower last.1 ∈ entries.map fun e => Text.lower e.1 := by
      rw [← List.mem_eraseDups, ← ih]
      simp [List.any_eq_true, sameName_iff]
    rw [firsts_push, List.map_append, List.eraseDups_append, ← ih]
    by_cases hlast : Text.lower last.1 ∈ entries.map fun e => Text.lower e.1
    · rw [if_pos (hany.2 hlast)]
      simp [List.removeAll, hlast]
    · rw [if_neg fun h => hlast (hany.1 h), List.map_append]
      simp [List.removeAll, hlast, List.eraseDups_cons]

/-- Each entry of a plain mapping is the first one of its name. -/
theorem find?_of_mem_firsts {e : String × String} (h : e ∈ m.firsts) :
    m.entries.find? (fun d => sameName d.1 e.1) = some e := by
  obtain ⟨entries⟩ := m
  induction entries using List.reverseRecOn with
  | nil => exact absurd h List.not_mem_nil
  | append_singleton entries last ih =>
    change e ∈ (push ⟨entries⟩ last.1 last.2).firsts at h
    have hold : e ∈ firsts ⟨entries⟩ →
        (entries ++ [last]).find? (fun d => sameName d.1 e.1) = some e := by
      intro he
      rw [List.find?_append, ih he, Option.some_or]
    rw [firsts_push, any_sameName_eq_contains, contains_firsts] at h
    split at h
    · exact hold h
    · next hnew =>
      rcases List.mem_append.1 h with he | he
      · exact hold he
      · obtain rfl := List.mem_singleton.1 he
        have hnone : entries.find? (fun d => sameName d.1 last.1) = none := by
          simpa [contains, getFirst?] using hnew
        rw [List.find?_append, hnone]
        simp

theorem remove_firsts (name : String) : remove ⟨m.firsts⟩ name = ⟨(m.remove name).firsts⟩ := by
  obtain ⟨entries⟩ := m
  induction entries using List.reverseRecOn with
  | nil => rfl
  | append_singleton entries last ih =>
    obtain ⟨n, value⟩ := last
    change remove ⟨(push ⟨entries⟩ n value).firsts⟩ name =
      ⟨((push ⟨entries⟩ n value).remove name).firsts⟩
    rw [firsts_push, remove_push, any_sameName_eq_contains, contains_firsts]
    by_cases hn : sameName n name = true
    · rw [if_pos hn, ← ih]
      split
      · rfl
      · exact (remove_push ⟨firsts ⟨entries⟩⟩ n value name).trans (if_pos hn)
    · have hkept : contains (remove ⟨entries⟩ name) n = contains ⟨entries⟩ n := by
        apply contains_congr
        rw [getAll_remove, sameName_comm, if_neg hn]
      rw [if_neg hn, firsts_push, any_sameName_eq_contains, contains_firsts, hkept]
      split
      · exact ih
      · refine ((remove_push ⟨firsts ⟨entries⟩⟩ n value name).trans (if_neg hn)).trans ?_
        rw [ih]
        rfl

/-! ## Through a mapping -/

theorem addMapping_texts (entries : List (String × String)) (h : ∀ e ∈ entries, e.1 ≠ "") :
    m.addMapping (entries.map fun e => (.text e.1, .text e.2)) = .ok ⟨m.entries ++ entries⟩ := by
  induction entries generalizing m with
  | nil => simp [addMapping]
  | cons e rest ih =>
    obtain ⟨hname, hrest⟩ := List.forall_mem_cons.1 h
    rw [List.map_cons, addMapping, add_text _ hname]
    change (m.push e.1 e.2).addMapping _ = _
    rw [ih _ hrest]
    simp [push]

/-- The headers read back from the plain mapping that they are turned into. -/
def handOver (m : Multimap) : Except RequestSigning.Error Multimap :=
  ofMapping (m.firsts.map fun e => (.text e.1, .text e.2))

theorem handOver_eq {m : Multimap} (h : m.Named) : m.handOver = .ok ⟨m.firsts⟩ :=
  addMapping_texts empty m.firsts fun e he => h e (m.mem_of_mem_firsts he)

end RequestSigning.Header.Multimap
