import Mathlib.Data.List.Induction
import RequestSigning.Proofs.Header.CustomNames
import RequestSigning.Request.StringToSign

/-!
# The lines of the string to sign

The string to sign is five lines and then one line for each custom header, with line feeds between
them. It is there exactly when the content type is a text or counts as none, the first date is not
empty and the endpoint has a path.
-/

namespace RequestSigning.Request

/-- The line of a custom header. -/
def pairLine (p : String × String) : String := p.1 ++ ":" ++ p.2

/-- The content type as it is signed: nothing where none counts as given. -/
def contentTypeLine (r : Request) : String := r.contentType.text?.getD ""

/-- The first value of the echoed header in lower case, nothing where there is none. -/
def rangeLine (r : Request) : String := Text.lower ((r.headers.getFirst? Header.range).getD "")

/-- A content type that is given is a text. -/
def HasTextContentType (r : Request) : Prop :=
  r.contentType.isGiven = true → ∃ s, r.contentType = .text s

/-- The lines that are signed for this date and this path. -/
def lines (r : Request) (date path : String) : List String :=
  r.method.name :: r.contentTypeLine :: r.rangeLine :: date :: Text.lower path ::
    (Header.canonicalize r.headers Header.customStart).map pairLine

theorem lines_eq (r : Request) (date path : String) :
    r.lines date path = [r.method.name, r.contentTypeLine, r.rangeLine, date, Text.lower path] ++
      (Header.customNames r.headers Header.customStart).map fun name =>
        pairLine (name, Header.joinedValue r.headers name) := by
  unfold lines
  rw [Header.canonicalize_eq_map, List.map_map]
  rfl

/-! ## Segments are lines with their ends -/

theorem intercalate_append_end {ls : List String} (h : ls ≠ []) :
    "\n".intercalate ls ++ "\n" = String.join (ls.map (· ++ "\n")) := by
  induction ls with
  | nil => exact absurd rfl h
  | cons l rest ih =>
    cases rest with
    | nil => simp
    | cons k rest =>
      have hrest := ih (List.cons_ne_nil k rest)
      change _ = String.join ((l ++ "\n") :: (k :: rest).map (· ++ "\n"))
      rw [String.join_cons, ← hrest, String.intercalate_cons_cons, String.append_assoc]

theorem dropLastBreak_append_end (s : String) : dropLastBreak (s ++ "\n") = s := by
  unfold dropLastBreak
  have hrev : (s ++ "\n").toList.reverse = '\n' :: s.toList.reverse := by
    rw [String.toList_append, List.reverse_append]
    rfl
  rw [hrev]
  change String.ofList s.toList.reverse.reverse = s
  rw [List.reverse_reverse, String.ofList_toList]

theorem formatPairs_eq_empty_iff (pairs : List (String × String)) :
    Header.formatPairs pairs = "" ↔ pairs = [] := by
  constructor
  · intro h
    cases pairs with
    | nil => rfl
    | cons p rest =>
      have hempty := congrArg String.toList h
      unfold Header.formatPairs at hempty
      cases rest <;> simp at hempty
  · rintro rfl
    rfl

theorem customSegment_eq_join (r : Request) :
    r.customSegment =
      String.join (((Header.canonicalize r.headers Header.customStart).map pairLine).map
        (· ++ "\n")) := by
  unfold customSegment
  by_cases hp : Header.canonicalize r.headers Header.customStart = []
  · rw [hp]
    rfl
  · have hblock : Header.formatPairs (Header.canonicalize r.headers Header.customStart) ≠ "" :=
      fun he => hp ((formatPairs_eq_empty_iff _).1 he)
    have hlines : (Header.canonicalize r.headers Header.customStart).map pairLine ≠ [] :=
      fun he => hp (List.map_eq_nil_iff.1 he)
    rw [← intercalate_append_end hlines]
    exact if_neg hblock

theorem echoedSegment_eq (r : Request) : r.echoedSegment = r.rangeLine ++ "\n" := by
  unfold echoedSegment rangeLine
  rw [Header.Multimap.getFirst?_eq_head?, ← List.headD_eq_head?_getD]
  rw [Header.echoed, List.map_singleton, String.join_cons, String.join_nil, String.append_empty]

theorem getD_text?_of_not_isGiven {v : Value} (h : ¬ v.isGiven = true) : v.text?.getD "" = "" := by
  cases v with
  | text s => simpa [Data.isGiven, Data.text?] using h
  | _ => rfl

theorem contentTypeSegment_eq_ok_iff {r : Request} {segment : String} :
    r.contentTypeSegment = .ok segment ↔
      r.HasTextContentType ∧ segment = r.contentTypeLine ++ "\n" := by
  unfold contentTypeSegment HasTextContentType contentTypeLine
  by_cases hg : r.contentType.isGiven = true
  · rw [if_pos hg]
    cases hc : r.contentType with
    | text s =>
      constructor
      · intro h
        exact ⟨fun _ => ⟨s, rfl⟩, (Except.ok.inj h).symm⟩
      · rintro ⟨_, rfl⟩
        rfl
    | _ =>
      constructor
      · intro h
        cases h
      · rintro ⟨h, _⟩
        obtain ⟨s, hs⟩ := h (hc ▸ hg)
        cases hs
  · rw [if_neg hg, getD_text?_of_not_isGiven hg]
    simp [hg, eq_comm]

theorem dateSegment_eq_ok_iff {r : Request} {segment : String} :
    r.dateSegment = .ok segment ↔
      ∃ date, r.headers.getFirst? Header.date = some date ∧ date ≠ "" ∧ segment = date ++ "\n" := by
  unfold dateSegment
  cases r.headers.getFirst? Header.date with
  | none => simp
  | some date => by_cases hd : date = "" <;> simp [hd, eq_comm]

theorem pathSegment_eq_ok_iff {r : Request} {segment : String} :
    r.pathSegment = .ok segment ↔ ∃ path, r.path = .ok path ∧
      segment = Text.lower path ++ "\n" := by
  unfold pathSegment
  cases r.path <;> simp [Except.map, eq_comm]

/-- The segments one after the other are the lines, each with its end. -/
theorem segments_eq_join (r : Request) (date path : String) :
    r.methodSegment ++ (r.contentTypeLine ++ "\n") ++ r.echoedSegment ++ (date ++ "\n")
        ++ (Text.lower path ++ "\n") ++ r.customSegment =
      String.join ((r.lines date path).map (· ++ "\n")) := by
  rw [echoedSegment_eq, customSegment_eq_join]
  simp only [lines, methodSegment, List.map_cons, String.join_cons, String.append_assoc]

theorem stringToSign_eq_ok_iff {r : Request} {text : String} :
    r.stringToSign = .ok text ↔
      r.HasTextContentType ∧ ∃ date path, r.headers.getFirst? Header.date = some date ∧ date ≠ "" ∧
        r.path = .ok path ∧ text = "\n".intercalate (r.lines date path) := by
  have hjoin : ∀ date path, dropLastBreak (r.methodSegment ++ (r.contentTypeLine ++ "\n")
      ++ r.echoedSegment ++ (date ++ "\n") ++ (Text.lower path ++ "\n") ++ r.customSegment) =
      "\n".intercalate (r.lines date path) := by
    intro date path
    have hne : r.lines date path ≠ [] := List.cons_ne_nil _ _
    rw [segments_eq_join, ← intercalate_append_end hne, dropLastBreak_append_end]
  constructor
  · intro h
    unfold stringToSign at h
    cases hc : r.contentTypeSegment with
    | error e => simp [hc] at h
    | ok contentType =>
      cases hd : r.dateSegment with
      | error e => simp [hc, hd] at h
      | ok dateLine =>
        cases hp : r.pathSegment with
        | error e => simp [hc, hd, hp] at h
        | ok pathLine =>
          simp only [hc, hd, hp, Except.ok.injEq] at h
          obtain ⟨htext, rfl⟩ := contentTypeSegment_eq_ok_iff.1 hc
          obtain ⟨date, hdate, hne, rfl⟩ := dateSegment_eq_ok_iff.1 hd
          obtain ⟨path, hpath, rfl⟩ := pathSegment_eq_ok_iff.1 hp
          exact ⟨htext, date, path, hdate, hne, hpath, h ▸ hjoin date path⟩
  · rintro ⟨htext, date, path, hdate, hne, hpath, rfl⟩
    have hc := contentTypeSegment_eq_ok_iff.2 ⟨htext, rfl⟩
    have hd := dateSegment_eq_ok_iff.2 ⟨date, hdate, hne, rfl⟩
    have hp := pathSegment_eq_ok_iff.2 ⟨path, hpath, rfl⟩
    unfold stringToSign
    simp only [hc, hd, hp, hjoin]

end RequestSigning.Request
