import RequestSigning.Proofs.Header.Canonical
import RequestSigning.Proofs.Request.Lines

/-!
# Requests that agree in what is signed

Of the headers only the first echoed value, the first date and the values of the custom names count.
Requests that agree in these, in method, content type and lower-case path have one string to sign,
or fail alike.
-/

namespace RequestSigning.Request

/-- Agreement in everything that is signed, headers of the ignored names aside. -/
structure AgreeExcept (ignored : List String) (r₁ r₂ : Request) : Prop where
  method : r₁.method = r₂.method
  contentType : r₁.contentType = r₂.contentType
  path : r₁.path.map Text.lower = r₂.path.map Text.lower
  range : r₁.rangeLine = r₂.rangeLine
  date : Header.date ∉ ignored →
    r₁.headers.getFirst? Header.date = r₂.headers.getFirst? Header.date
  custom : ∀ name, Header.startsWith Header.customStart (Text.lower name) = true →
    (∀ own ∈ ignored, Header.sameName own name = false) →
      r₁.headers.getAll name = r₂.headers.getAll name

variable {r₁ r₂ : Request}

/-- Of the headers no more than the values of each name are signed. -/
theorem AgreeExcept.of_getAll_eq (hmethod : r₁.method = r₂.method)
    (hcontent : r₁.contentType = r₂.contentType) (hpath : r₁.path = r₂.path)
    (h : ∀ name, r₁.headers.getAll name = r₂.headers.getAll name) : AgreeExcept [] r₁ r₂ := by
  have hfirst : ∀ name, r₁.headers.getFirst? name = r₂.headers.getFirst? name :=
    fun name => Header.Multimap.getFirst?_congr (h name)
  refine ⟨hmethod, hcontent, congrArg _ hpath, ?_, fun _ => hfirst _, fun name _ _ => h name⟩
  unfold rangeLine
  rw [hfirst]

theorem pathSegment_congr (h : r₁.path.map Text.lower = r₂.path.map Text.lower) :
    r₁.pathSegment = r₂.pathSegment := by
  have hmap : ∀ r : Request, r.pathSegment = (r.path.map Text.lower).map (· ++ "\n") := by
    intro r
    unfold pathSegment
    cases r.path <;> rfl
  rw [hmap, hmap, h]

theorem customSegment_congr
    (h : ∀ name, Header.startsWith Header.customStart (Text.lower name) = true →
      r₁.headers.getAll name = r₂.headers.getAll name) : r₁.customSegment = r₂.customSegment := by
  have hcanonical : Header.canonicalize r₁.headers Header.customStart =
      Header.canonicalize r₂.headers Header.customStart := by
    apply Header.canonicalize_congr
    rw [Header.lower_customStart]
    exact h
  unfold customSegment
  rw [hcanonical]

theorem stringToSign_congr (h : AgreeExcept [] r₁ r₂) : r₁.stringToSign = r₂.stringToSign := by
  have hmethod : r₁.methodSegment = r₂.methodSegment := by
    unfold methodSegment
    rw [h.method]
  have htype : r₁.contentTypeSegment = r₂.contentTypeSegment := by
    unfold contentTypeSegment
    rw [h.contentType]
  have hrange : r₁.echoedSegment = r₂.echoedSegment := by
    rw [echoedSegment_eq, echoedSegment_eq, h.range]
  have hdate : r₁.dateSegment = r₂.dateSegment := by
    unfold dateSegment
    rw [h.date List.not_mem_nil]
  have hcustom : r₁.customSegment = r₂.customSegment :=
    customSegment_congr fun name hs => h.custom name hs fun _ hn => absurd hn List.not_mem_nil
  unfold stringToSign
  rw [hmethod, htype, hrange, hdate, pathSegment_congr h.path, hcustom]

/-- With a content type that can be read and a path, only the date can be missing. -/
theorem stringToSign_ok_or_missing_date {r : Request} (hc : r.HasTextContentType) {path : String}
    (hp : r.path = .ok path) :
    (∃ text, r.stringToSign = .ok text) ∨
      r.stringToSign = .error (.signing (.missingHeader Header.date)) := by
  cases hd : r.dateSegment with
  | ok segment =>
    obtain ⟨date, hdate, hne, _⟩ := dateSegment_eq_ok_iff.1 hd
    exact Or.inl ⟨_, stringToSign_eq_ok_iff.2 ⟨hc, date, path, hdate, hne, hp, rfl⟩⟩
  | error e =>
    apply Or.inr
    have hcontent := contentTypeSegment_eq_ok_iff.2 ⟨hc, rfl⟩
    have he : e = .signing (.missingHeader Header.date) := by
      unfold dateSegment at hd
      split at hd
      · split at hd
        · exact (Except.error.inj hd).symm
        · cases hd
      · exact (Except.error.inj hd).symm
    unfold stringToSign
    simp only [hcontent, hd, he]

end RequestSigning.Request
