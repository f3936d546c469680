import RequestSigning.Proofs.Endpoint.Path
import RequestSigning.Proofs.Request.Lines
import RequestSigning.Proofs.Text.LineFeeds
import RequestSigning.Proofs.Text.Lowering

/-!
# Where line feeds in the string to sign can come from

Methods, paths and folded values have none. Content type, echoed value, date and custom names are
signed as they are, so each of them can bring line feeds in.
-/

namespace RequestSigning

theorem Method.lineFeed_not_mem_name (m : Method) : '\n' ∉ m.name.toList := by
  cases m <;> decide

namespace Request

theorem lineFeed_not_mem_path {r : Request} {p : String} (h : r.path = .ok p) :
    '\n' ∉ p.toList := by
  unfold path at h
  split at h
  · split at h
    · next hp => exact Except.ok.inj h ▸ Endpoint.lineFeed_not_mem_path hp
    · cases h
  all_goals cases h

/-- The line of a custom header has the line feeds of its name. -/
theorem lineFeed_not_mem_pairLine_iff (m : Header.Multimap) (name : String) :
    '\n' ∉ (pairLine (name, Header.joinedValue m name)).toList ↔ '\n' ∉ name.toList := by
  have hcolon : '\n' ∉ ":".toList := by decide
  have hvalue := Header.lineFeed_not_mem_joinedValue m name
  unfold pairLine
  simp only [String.toList_append, List.mem_append, hcolon, hvalue, or_false]

theorem forall_lineFeed_not_mem_lines_iff {r : Request} {date path : String}
    (hpath : r.path = .ok path) :
    (∀ l ∈ r.lines date path, '\n' ∉ l.toList) ↔
      '\n' ∉ r.contentTypeLine.toList ∧ '\n' ∉ r.rangeLine.toList ∧ '\n' ∉ date.toList ∧
        ∀ name ∈ Header.customNames r.headers Header.customStart, '\n' ∉ name.toList := by
  have hmethod := r.method.lineFeed_not_mem_name
  have hlower : '\n' ∉ (Text.lower path).toList :=
    Text.not_mem_lower (by decide) (lineFeed_not_mem_path hpath)
  rw [lines_eq]
  simp only [List.forall_mem_append, List.forall_mem_cons, List.forall_mem_map, List.not_mem_nil,
    false_imp_iff, implies_true, lineFeed_not_mem_pairLine_iff, hmethod, hlower, not_false_eq_true,
    true_and, and_true, and_assoc]

/-- The string to sign comes apart into its lines exactly where these parts have no line feed. -/
theorem linesOf_lines_iff {r : Request} {path : String} (hpath : r.path = .ok path)
    (date : String) :
    Text.linesOf ("\n".intercalate (r.lines date path)) = r.lines date path ↔
      '\n' ∉ r.contentTypeLine.toList ∧ '\n' ∉ r.rangeLine.toList ∧ '\n' ∉ date.toList ∧
        ∀ name ∈ Header.customNames r.headers Header.customStart, '\n' ∉ name.toList :=
  (Text.linesOf_intercalate_iff (List.cons_ne_nil _ _)).trans
    (forall_lineFeed_not_mem_lines_iff hpath)

end Request

end RequestSigning
