/-!
# Lines of a text

Line feeds part a text into lines. Texts that are put together with line feeds between them come
apart again exactly where none of them has a line feed of its own.
-/

namespace RequestSigning.Text

/-- The parts of a text between its line feeds. -/
def linesOf (text : String) : List String := (text.toList.splitOn '\n').map String.ofList

theorem not_mem_of_mem_splitOn {x : Char} {cs part : List Char} (h : part ∈ cs.splitOn x) :
    x ∉ part := by
  rw [List.splitOn_eq_splitOnP] at h
  induction cs generalizing part with
  | nil =>
    rw [List.splitOnP_nil, List.mem_singleton] at h
    exact h ▸ List.not_mem_nil
  | cons c rest ih =>
    rw [List.splitOnP_cons_eq_if_modifyHead] at h
    split at h
    · rcases List.mem_cons.1 h with rfl | hlater
      · exact List.not_mem_nil
      · exact ih hlater
    · next hc =>
      obtain ⟨first, others, hparts⟩ := List.exists_cons_of_ne_nil (List.splitOnP_ne_nil _ rest)
      rw [hparts, List.modifyHead_cons] at h
      rcases List.mem_cons.1 h with rfl | hlater
      · rw [List.mem_cons, not_or]
        exact ⟨fun heq => hc (beq_iff_eq.2 heq.symm), ih (hparts ▸ List.mem_cons_self)⟩
      · exact ih (hparts ▸ List.mem_cons_of_mem _ hlater)

theorem lineFeed_not_mem_of_mem_linesOf {text l : String} (h : l ∈ linesOf text) :
    '\n' ∉ l.toList := by
  obtain ⟨part, hpart, rfl⟩ := List.mem_map.1 h
  rw [String.toList_ofList]
  exact not_mem_of_mem_splitOn hpart

theorem linesOf_intercalate_iff {ls : List String} (hne : ls ≠ []) :
    linesOf ("\n".intercalate ls) = ls ↔ ∀ l ∈ ls, '\n' ∉ l.toList := by
  constructor
  · intro h l hl
    rw [← h] at hl
    exact lineFeed_not_mem_of_mem_linesOf hl
  · intro h
    have hsplit : ("\n".intercalate ls).toList.splitOn '\n' = ls.map String.toList := by
      rw [String.toList_intercalate]
      apply List.splitOn_intercalate '\n'
      · intro l hl
        obtain ⟨x, hmem, rfl⟩ := List.mem_map.1 hl
        exact h x hmem
      · exact fun he => hne (List.map_eq_nil_iff.1 he)
    unfold linesOf
    rw [hsplit, List.map_map]
    exact List.map_id'' (fun l => String.ofList_toList) ls

end RequestSigning.Text
