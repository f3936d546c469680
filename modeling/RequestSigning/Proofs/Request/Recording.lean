import RequestSigning.Proofs.Request.Lines
import RequestSigning.Proofs.Request.WireRuns

/-!
# Building the string to sign on a wire

Where the content type is a text or counts as none, the string to sign is there exactly with a first
date that is not empty and an endpoint that has a path. The date is looked at before the path. Only
a string that was built is recorded, and it is recorded once.
-/

namespace RequestSigning

namespace Request

/-- The first header with the name of the date, in any case, has a value that is not empty. -/
def HasDate (r : Request) : Prop :=
  ∃ e, r.headers.entries.find? (fun e => Text.lower e.1 == "date") = some e ∧ e.2 ≠ ""

theorem hasDate_iff {r : Request} :
    r.HasDate ↔ ∃ date, r.headers.getFirst? Header.date = some date ∧ date ≠ "" := by
  have hfirst : r.headers.getFirst? Header.date =
      (r.headers.entries.find? fun e => Text.lower e.1 == "date").map (·.2) := rfl
  rw [hfirst]
  constructor
  · rintro ⟨e, he, hne⟩
    exact ⟨e.2, by rw [he, Option.map_some], hne⟩
  · rintro ⟨date, hdate, hne⟩
    obtain ⟨e, he, rfl⟩ := Option.map_eq_some_iff.1 hdate
    exact ⟨e, he, hne⟩

theorem dateSegment_of_not_hasDate {r : Request} (h : ¬ r.HasDate) :
    r.dateSegment = .error (.signing (.missingHeader Header.date)) := by
  unfold dateSegment
  cases hd : r.headers.getFirst? Header.date with
  | none => rfl
  | some date =>
    have hempty : date = "" := by
      by_contra hne
      exact h (hasDate_iff.2 ⟨date, hd, hne⟩)
    simp [hempty]

/-- Without a date the path does not matter. -/
theorem stringToSign_of_not_hasDate {r : Request} (hc : r.HasTextContentType) (h : ¬ r.HasDate) :
    r.stringToSign = .error (.signing (.missingHeader Header.date)) := by
  have hcontent := contentTypeSegment_eq_ok_iff.2 ⟨hc, rfl⟩
  unfold stringToSign
  simp only [hcontent, dateSegment_of_not_hasDate h]

theorem stringToSign_of_path_eq_error {r : Request} (hc : r.HasTextContentType) (h : r.HasDate)
    {e : Error} (hp : r.path = .error e) : r.stringToSign = .error e := by
  obtain ⟨date, hdate, hne⟩ := hasDate_iff.1 h
  have hcontent := contentTypeSegment_eq_ok_iff.2 ⟨hc, rfl⟩
  have hsegment := dateSegment_eq_ok_iff.2 ⟨date, hdate, hne, rfl⟩
  have hpath : r.pathSegment = .error e := by
    unfold pathSegment
    rw [hp]
    rfl
  unfold stringToSign
  simp only [hcontent, hsegment, hpath]

theorem exists_stringToSign_iff {r : Request} (hc : r.HasTextContentType) :
    (∃ text, r.stringToSign = .ok text) ↔ r.HasDate ∧ ∃ path, r.path = .ok path := by
  constructor
  · rintro ⟨text, h⟩
    obtain ⟨-, date, path, hdate, hne, hpath, -⟩ := stringToSign_eq_ok_iff.1 h
    exact ⟨hasDate_iff.2 ⟨date, hdate, hne⟩, path, hpath⟩
  · rintro ⟨h, path, hpath⟩
    obtain ⟨date, hdate, hne⟩ := hasDate_iff.1 h
    exact ⟨_, stringToSign_eq_ok_iff.2 ⟨hc, date, path, hdate, hne, hpath, rfl⟩⟩

end Request

namespace Trace

theorem wire_record (t : Trace) (direction : Direction) (text : String) :
    (t.record direction text).wire = t.wire.map fun w => w.record ⟨direction, text⟩ := by
  unfold record
  cases hw : t.wire with
  | none => exact hw
  | some w => rfl

theorem recording_fst (t : Trace) (build : Except Error String) :
    (t.recording build).1 = build := by
  cases build <;> rfl

theorem recording_of_error (t : Trace) {build : Except Error String} {e : Error}
    (h : build = .error e) : t.recording build = (.error e, t) := by
  rw [h]
  rfl

theorem wire_recording_of_ok (t : Trace) {build : Except Error String} {text : String}
    (h : build = .ok text) :
    (t.recording build).2.wire = t.wire.map fun w => w.record ⟨.output, text⟩ := by
  rw [h]
  exact t.wire_record .output text

/-- When the string to sign is built, what it is and what becomes of the wire. -/
theorem recording_stringToSign {r : Request} (hc : r.HasTextContentType) (t : Trace) :
    ((∃ text, (t.recording r.stringToSign).1 = .ok text) ↔ r.HasDate ∧ ∃ path, r.path = .ok path) ∧
    (∀ text, (t.recording r.stringToSign).1 = .ok text →
      (∃ date path, r.headers.getFirst? Header.date = some date ∧ r.path = .ok path ∧
        text = "\n".intercalate
          ([r.method.name, r.contentTypeLine, r.rangeLine, date, Text.lower path] ++
            (Header.canonicalize r.headers Header.customStart).map fun p => p.1 ++ ":" ++ p.2)) ∧
      (t.wire = none → (t.recording r.stringToSign).2.wire = none) ∧
      ∀ w, t.wire = some w → ∃ w', (t.recording r.stringToSign).2.wire = some w' ∧
        (w.enabled = false → w' = w) ∧
        (w.enabled = true → w.entries.length < w.capacity →
          w' = { w with entries := w.entries ++ [⟨.output, text⟩] }) ∧
        (w.enabled = true → w.capacity ≤ w.entries.length →
          w' = { w with dropped := w.dropped + 1 })) ∧
    (¬ r.HasDate →
      t.recording r.stringToSign = (.error (.signing (.missingHeader Header.date)), t)) ∧
    (∀ e, r.HasDate → r.path = .error e → t.recording r.stringToSign = (.error e, t)) ∧
    ∀ e, (t.recording r.stringToSign).1 = .error e → (t.recording r.stringToSign).2 = t := by
  rw [recording_fst]
  refine ⟨Request.exists_stringToSign_iff hc, fun text htext => ⟨?_, ?_, ?_⟩, ?_, ?_, ?_⟩
  · obtain ⟨-, date, path, hdate, -, hpath, htext⟩ := Request.stringToSign_eq_ok_iff.1 htext
    exact ⟨date, path, hdate, hpath, htext⟩
  · intro hw
    rw [t.wire_recording_of_ok htext, hw]
    rfl
  · intro w hw
    rw [t.wire_recording_of_ok htext, hw]
    exact ⟨_, rfl, fun h => Wire.record_of_disabled h _,
      fun h hroom => Wire.record_of_room h hroom _, fun h hfull => Wire.record_of_full h hfull _⟩
  · intro h
    exact t.recording_of_error (Request.stringToSign_of_not_hasDate hc h)
  · intro e h hpath
    exact t.recording_of_error (Request.stringToSign_of_path_eq_error hc h hpath)
  · intro e h
    rw [t.recording_of_error h]

/-- A full wire, an empty content type, a second date that is empty, and names in different case. -/
theorem recording_stringToSign_on_full_wire :
    let r : Request :=
      ⟨.put, .text "/Rest?x", ⟨[("x-emc-b", "2"), ("DATE", "now"), ("X-Emc-B", "3"),
      ("date", ""), ("x-emc-a", "1")]⟩, some ⟨.text ""⟩⟩
    let w : Wire := ⟨true, 1, [⟨.input, "old"⟩], 0⟩
    let outcome := Trace.recording r.stringToSign ⟨some w, []⟩
    r.HasTextContentType ∧ ∃ text, outcome.1 = .ok text ∧
      text = "PUT\n\n\nnow\n/rest\nx-emc-a:1\nx-emc-b:2 3" ∧
      outcome.2.wire = some { w with dropped := 1 } := by
  intro r w outcome
  have hc : r.HasTextContentType := fun _ => ⟨"", rfl⟩
  have hdate : r.headers.getFirst? Header.date = some "now" := by decide +kernel
  have hpath : r.path = .ok "/Rest" := by decide +kernel
  obtain ⟨hiff, hok, -⟩ := recording_stringToSign hc ⟨some w, []⟩
  obtain ⟨text, htext⟩ := hiff.2 ⟨Request.hasDate_iff.2 ⟨"now", hdate, by decide⟩, "/Rest", hpath⟩
  obtain ⟨⟨date, path, hdate', hpath', hlines⟩, -, hwire⟩ := hok text htext
  obtain ⟨w', hw', -, -, hfull⟩ := hwire w rfl
  obtain rfl : "now" = date := Option.some.inj (hdate.symm.trans hdate')
  obtain rfl : "/Rest" = path := Except.ok.inj (hpath.symm.trans hpath')
  refine ⟨hc, text, htext, hlines.trans (by decide +kernel), ?_⟩
  rw [hw', hfull rfl (by decide)]

end Trace

end RequestSigning
