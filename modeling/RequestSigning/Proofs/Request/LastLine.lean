import RequestSigning.Proofs.Request.LineFeeds

/-!
# The end of the string to sign

Lines have line feeds between them and none behind the last, so a text of several lines ends in a
line feed exactly where its last line is empty or ends in one itself. The line of a custom header
does neither, as its value is folded. The line of the path has no line feed, but it is empty where
the endpoint has nothing behind its host.
-/

namespace RequestSigning.Request

/-- Several lines end as the last of them does, and in a line feed where that is empty. -/
theorem getLast?_intercalate {front : List String} (h : front ≠ []) (last : String) :
    ("\n".intercalate (front ++ [last])).toList.getLast? =
      some (last.toList.getLast?.getD '\n') := by
  rw [String.intercalate_append_of_ne_nil h (List.cons_ne_nil last []),
    String.intercalate_singleton, String.toList_append, String.toList_append, List.getLast?_append,
    List.getLast?_append]
  cases last.toList.getLast? <;> rfl

theorem getLast?_pairLine_ne {p : String × String} (h : '\n' ∉ p.2.toList) :
    (pairLine p).toList.getLast?.getD '\n' ≠ '\n' := by
  unfold pairLine
  rw [String.toList_append, String.toList_append, List.getLast?_append, List.getLast?_append]
  cases hlast : p.2.toList.getLast? with
  | none =>
    change ':' ≠ '\n'
    decide
  | some c => exact fun hc => h (hc ▸ List.mem_of_getLast? hlast)

variable {r : Request} {date path : String}

/-- Without custom headers the line of the path is the last. -/
theorem getLast?_lines_of_no_custom
    (hcustom : Header.canonicalize r.headers Header.customStart = []) (hpath : r.path = .ok path) :
    ("\n".intercalate (r.lines date path)).toList.getLast? = some '\n' ↔ path = "" := by
  have hlines : r.lines date path =
      [r.method.name, r.contentTypeLine, r.rangeLine, date] ++ [Text.lower path] := by
    unfold lines
    rw [hcustom]
    rfl
  rw [hlines, getLast?_intercalate (List.cons_ne_nil _ _), Option.some.injEq,
    ← Text.lower_eq_empty_iff]
  have hfeed : '\n' ∉ (Text.lower path).toList :=
    Text.not_mem_lower (by decide) (lineFeed_not_mem_path hpath)
  constructor
  · intro h
    cases hlast : (Text.lower path).toList.getLast? with
    | none => exact String.toList_eq_nil_iff.1 (List.getLast?_eq_none_iff.1 hlast)
    | some c =>
      rw [hlast, Option.getD_some] at h
      exact absurd (List.mem_of_getLast? hlast) (h ▸ hfeed)
  · intro h
    rw [h]
    rfl

theorem getLast?_lines_of_custom (hcustom : Header.canonicalize r.headers Header.customStart ≠ []) :
    ("\n".intercalate (r.lines date path)).toList.getLast? ≠ some '\n' := by
  obtain ⟨front, p, hpairs⟩ := (List.eq_nil_or_concat _).resolve_left hcustom
  rw [List.concat_eq_append] at hpairs
  have hvalue : '\n' ∉ p.2.toList := by
    have hmem : p ∈ Header.canonicalize r.headers Header.customStart :=
      hpairs ▸ List.mem_append_right _ List.mem_cons_self
    rw [Header.canonicalize_eq_map] at hmem
    obtain ⟨name, -, rfl⟩ := List.mem_map.1 hmem
    exact Header.lineFeed_not_mem_joinedValue r.headers name
  have hlines : r.lines date path =
      ([r.method.name, r.contentTypeLine, r.rangeLine, date, Text.lower path] ++
        front.map pairLine) ++
        [pairLine p] := by
    unfold lines
    rw [hpairs, List.map_append]
    rfl
  have hfront : [r.method.name, r.contentTypeLine, r.rangeLine, date, Text.lower path] ++
      front.map pairLine ≠ [] := List.cons_ne_nil _ _
  rw [hlines, getLast?_intercalate hfront, Ne, Option.some.injEq]
  exact getLast?_pairLine_ne hvalue

/-- The string to sign ends in a line feed exactly where the endpoint has an empty path and no
header has a custom name. -/
theorem ends_in_break_iff {text : String} (h : r.stringToSign = .ok text) :
    text.toList.getLast? = some '\n' ↔
      r.path = .ok "" ∧ ∀ e ∈ r.headers.entries, ¬ "x-emc-".toList <+: (Text.lower e.1).toList := by
  obtain ⟨-, date, path, -, -, hpath, rfl⟩ := stringToSign_eq_ok_iff.1 h
  have hcustom : Header.canonicalize r.headers Header.customStart = [] ↔
      ∀ e ∈ r.headers.entries, ¬ "x-emc-".toList <+: (Text.lower e.1).toList := by
    rw [Header.canonicalize_eq_nil_iff, Header.lower_customStart]
    simp only [← List.isPrefixOf_iff_prefix, Bool.not_eq_true]
    rfl
  rw [← hcustom, hpath, Except.ok.injEq]
  by_cases hnone : Header.canonicalize r.headers Header.customStart = []
  · rw [getLast?_lines_of_no_custom hnone hpath, and_iff_left hnone]
  · exact iff_of_false (getLast?_lines_of_custom hnone) fun hboth => hnone hboth.2

/-- A custom header keeps the empty line of the path from being the last, even if its value is a
break. -/
theorem ends_in_break_iff_over_custom :
    let r : Request := ⟨.get, .text "http://h?q", ⟨[("Date", "d"), ("X-Emc-Meta", "\r\n")]⟩, none⟩
    ∃ text, r.stringToSign = .ok text ∧ r.path = .ok "" ∧ text.toList.getLast? ≠ some '\n' := by
  intro r
  have hpath : r.path = .ok "" := by decide +kernel
  have htext : r.stringToSign = .ok "GET\n\n\nd\n\nx-emc-meta:" :=
    stringToSign_eq_ok_iff.2
      ⟨fun h => absurd h (by decide), "d", "", rfl, by decide, hpath, by decide +kernel⟩
  refine ⟨_, htext, hpath, fun hends => ?_⟩
  exact ((ends_in_break_iff htext).1 hends).2 ("X-Emc-Meta", "\r\n") (by decide) (by decide +kernel)

/-- An endpoint with nothing behind its host leaves the line of the date as the last that is not
empty. -/
theorem ends_in_break_without_path :
    ∃ r text, make (.text "GET") (.text "http://h") (.multimap ⟨[("Date", "d")]⟩) none = .ok r ∧
      r.stringToSign = .ok text ∧ text = "GET\n\n\nd\n" ∧ text.toList.getLast? = some '\n' := by
  refine ⟨⟨.get, .text "http://h", ⟨[("Date", "d")]⟩, none⟩, _, rfl, ?_, rfl, by decide⟩
  exact stringToSign_eq_ok_iff.2
    ⟨fun h => absurd h (by decide), "d", "", rfl, by decide, by decide +kernel, by decide +kernel⟩

end RequestSigning.Request
