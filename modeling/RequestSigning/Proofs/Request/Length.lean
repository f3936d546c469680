import Mathlib.Algebra.BigOperators.Group.List.Basic
import Mathlib.Algebra.GroupWithZero.Nat
import RequestSigning.Proofs.Request.Lines

/-!
# The length of the string to sign

Every line of the string to sign counts with its characters and its end. So a string to sign tells
how much its custom headers take up, even where it cannot be read back line by line.
-/

namespace RequestSigning.Request

theorem length_join_map_end (ls : List String) :
    (String.join (ls.map (· ++ "\n"))).length = (ls.map fun l => l.length + 1).sum := by
  induction ls with
  | nil => rfl
  | cons l rest ih =>
    rw [List.map_cons, String.join_cons, String.length_append, ih, String.length_append,
      List.map_cons, List.sum_cons]
    rfl

theorem length_intercalate {ls : List String} (h : ls ≠ []) :
    ("\n".intercalate ls).length + 1 = (ls.map fun l => l.length + 1).sum := by
  rw [← length_join_map_end, ← intercalate_append_end h, String.length_append]
  rfl

/-- What the custom headers of a request take up in its string to sign. -/
def customSize (r : Request) : Nat :=
  ((Header.customNames r.headers Header.customStart).map fun name =>
    (pairLine (name, Header.joinedValue r.headers name)).length + 1).sum

theorem sum_lines (r : Request) (date path : String) :
    ((r.lines date path).map fun l => l.length + 1).sum =
      (([r.method.name, r.contentTypeLine, r.rangeLine, date, Text.lower path].map fun l =>
        l.length + 1).sum) + r.customSize := by
  rw [lines_eq, List.map_append, List.sum_append, List.map_map]
  rfl

/-- A custom name takes up something. -/
theorem customSize_remove_lt {r : Request} {name : String}
    (h : Text.lower name ∈ Header.customNames r.headers Header.customStart) :
    (r.withHeaders (r.headers.remove name)).customSize < r.customSize := by
  have hothers : ∀ other ∈ (Header.customNames r.headers Header.customStart).erase
      (Text.lower name),
      Header.joinedValue (r.headers.remove name) other = Header.joinedValue r.headers other := by
    intro other hother
    obtain ⟨hne, hmem⟩ := (Header.nodup_customNames _ _).mem_erase_iff.1 hother
    obtain ⟨_, e, _, rfl⟩ := Header.mem_customNames_iff.1 hmem
    apply Header.joinedValue_remove
    rw [Bool.eq_false_iff, Ne, Header.sameName_iff]
    exact fun hsame => hne hsame.symm
  have hsum := List.sum_map_erase (fun other =>
    (pairLine (other, Header.joinedValue r.headers other)).length + 1) h
  unfold customSize
  change ((Header.customNames (r.headers.remove name) Header.customStart).map fun other =>
    (pairLine (other, Header.joinedValue (r.headers.remove name) other)).length + 1).sum < _
  rw [Header.customNames_remove, ← hsum,
    List.map_congr_left fun other hother => by rw [hothers other hother]]
  omega

/-- Requests that have one string to sign and agree but for their custom headers have custom headers
of one size. -/
theorem customSize_eq {r₁ r₂ : Request} {text : String} (h₁ : r₁.stringToSign = .ok text)
    (h₂ : r₂.stringToSign = .ok text) (hmethod : r₁.method = r₂.method)
    (htype : r₁.contentTypeLine = r₂.contentTypeLine) (hrange : r₁.rangeLine = r₂.rangeLine)
    (hdate : r₁.headers.getFirst? Header.date = r₂.headers.getFirst? Header.date)
    (hpath : r₁.path = r₂.path) : r₁.customSize = r₂.customSize := by
  obtain ⟨_, date₁, path₁, hdate₁, _, hpath₁, htext₁⟩ := stringToSign_eq_ok_iff.1 h₁
  obtain ⟨_, date₂, path₂, hdate₂, _, hpath₂, htext₂⟩ := stringToSign_eq_ok_iff.1 h₂
  obtain rfl : date₁ = date₂ := Option.some.inj (hdate₁.symm.trans (hdate.trans hdate₂))
  obtain rfl : path₁ = path₂ := Except.ok.inj (hpath₁.symm.trans (hpath.trans hpath₂))
  have hne : ∀ r : Request, r.lines date₁ path₁ ≠ [] := fun _ => List.cons_ne_nil _ _
  -- Content type, date and names may hold line feeds, so the texts cannot be taken apart line by
  -- line.
  have hlength := congrArg (fun s : String => s.length + 1) (htext₁.symm.trans htext₂)
  simp only [length_intercalate (hne r₁), length_intercalate (hne r₂), sum_lines] at hlength
  rw [hmethod, htype, hrange] at hlength
  omega

end RequestSigning.Request
