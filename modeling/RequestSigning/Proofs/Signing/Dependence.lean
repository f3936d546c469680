import RequestSigning.Proofs.Request.Agreement
import RequestSigning.Proofs.Signing.Stamping
import RequestSigning.Signing.Prepared

/-!
# What a signature depends on

Stamping levels the three headers that signing owns. So requests that agree in what is signed, those
three aside, get one signature from one signer at one date.
-/

namespace RequestSigning

namespace Request

theorem rangeLine_stamped (r : Request) (uid date : String) :
    (r.stamped uid date).rangeLine = r.rangeLine := by
  have h : (r.stamped uid date).headers.getAll Header.range = r.headers.getAll Header.range := by
    rw [getAll_stamped]
    simp [Header.sameName]
  unfold rangeLine
  rw [Header.Multimap.getFirst?_congr h]

/-- Stamped requests agree where the given ones do, and in account, date and lack of a signature. -/
theorem AgreeExcept.stamped {r₁ r₂ : Request} (h : AgreeExcept PreparedRequest.signedHeaders r₁ r₂)
    (uid date : String) : AgreeExcept [] (r₁.stamped uid date) (r₂.stamped uid date) where
  method := h.method
  contentType := h.contentType
  path := h.path
  range := by
    rw [rangeLine_stamped, rangeLine_stamped]
    exact h.range
  date _ := by
    apply Header.Multimap.getFirst?_congr
    rw [getAll_stamped, getAll_stamped, if_pos (Header.sameName_self _),
      if_pos (Header.sameName_self _)]
  custom name hs _ := by
    rw [getAll_stamped, getAll_stamped]
    by_cases hown : ∀ own ∈ PreparedRequest.signedHeaders, Header.sameName own name = false
    · rw [h.custom name hs hown]
    · simp only [PreparedRequest.signedHeaders, List.forall_mem_cons, not_and_or, Bool.not_eq_false]
        at hown
      rcases hown with hu | hd | hsig | hnil
      · simp [hu]
      · simp [hd]
      · simp [hsig]
      · exact absurd (fun _ h => absurd h List.not_mem_nil) hnil

/-- The signature that is added is the one of the string to sign, and no other is there. -/
theorem map_signatures_withSignature (sign : String → Except Error String) (r : Request) :
    (r.withSignature sign).map (·.headers.getAll Header.signature) =
      match r.stringToSign with
      | .error e => .error e
      | .ok text => (sign text).map ([·]) := by
  unfold withSignature
  cases r.stringToSign with
  | error e => rfl
  | ok text =>
    dsimp only
    cases sign text with
    | error e => rfl
    | ok signature =>
      change Except.ok (((r.headers.remove Header.signature).push Header.signature signature).getAll
        Header.signature) = Except.ok [signature]
      rw [Header.Multimap.getAll_remove_push, if_pos (Header.sameName_self _)]

end Request

namespace Signer

/-- On requests that agree one signer takes the signature alike. -/
theorem passSignature_congr {r₁ r₂ : Request}
    (h : Request.AgreeExcept PreparedRequest.signedHeaders r₁ r₂) (s : Signer)
    {around₁ around₂ : Surroundings} (hprimitive : around₁.primitive = around₂.primitive)
    (uid : Json.Text) (date : String) :
    s.passSignature around₁ r₁ uid date = s.passSignature around₂ r₂ uid date := by
  unfold passSignature
  rw [hprimitive, Request.stringToSign_congr (h.stamped _ date)]

/-- Requests that agree in all that is signed have one string to sign or fail alike, for want of a
date if content type and endpoint are in order. If they agree but for accounts, dates and
signatures, one signer gives them one signature at one date. -/
theorem signature_of_agreeing (r₁ r₂ : Request) :
    (Request.AgreeExcept [] r₁ r₂ → r₁.stringToSign = r₂.stringToSign ∧
      (r₁.HasTextContentType → (∃ path, r₁.path = .ok path) →
        (∃ text, r₁.stringToSign = .ok text) ∨
          r₁.stringToSign = .error (.signing (.missingHeader Header.date)))) ∧
    (Request.AgreeExcept PreparedRequest.signedHeaders r₁ r₂ →
      ∀ (s : Signer) (around₁ around₂ : Surroundings) (state₁ state₂ : SigningState),
        around₁.primitive = around₂.primitive →
        (state₁.source.next around₁.now).1 = (state₂.source.next around₂.now).1 →
        (s.sign around₁ state₁ r₁).1.map (·.headers.getAll Header.signature) =
          (s.sign around₂ state₂ r₂).1.map (·.headers.getAll Header.signature)) := by
  constructor
  · intro h
    refine ⟨Request.stringToSign_congr h, fun hc hp => ?_⟩
    obtain ⟨path, hp⟩ := hp
    exact Request.stringToSign_ok_or_missing_date hc hp
  · intro h s around₁ around₂ state₁ state₂ hprimitive hdate
    rw [sign_result, sign_result, hdate]
    split
    · next uid date _ _ =>
      rw [Request.map_signatures_withSignature, Request.map_signatures_withSignature,
        passSignature_congr h s hprimitive, Request.stringToSign_congr (h.stamped _ date)]
    all_goals rfl

/-- Old accounts, dates and signatures, order, spelling and other headers do not matter. -/
theorem signature_of_reordered :
    let r₁ : Request := ⟨.put, .text "http://h/Path", ⟨[("X-EMC-Meta", "a"), ("Date", "then"),
      ("x-emc-uid", "c"), ("x-emc-meta", "b"), ("Range", "BYTES=0-1")]⟩, none⟩
    let r₂ : Request := ⟨.put, .text "/path?q", ⟨[("range", "bytes=0-1"), ("x-emc-META", "a"),
      ("Accept", "any"), ("X-EMC-Signature", "old"), ("X-Emc-Meta", "b")]⟩, none⟩
    let s : Signer := ⟨.text "a/b", [1, 2, 3]⟩
    let state : SigningState := ⟨.given [.text "now"], ⟨none, []⟩⟩
    (r₁.stamped "a/b" "now").stringToSign = (r₂.stamped "a/b" "now").stringToSign ∧
      (∃ text, (r₁.stamped "a/b" "now").stringToSign = .ok text) ∧
      (s.sign {} state r₁).1.map (·.headers.getAll Header.signature) =
        (s.sign {} state r₂).1.map (·.headers.getAll Header.signature) := by
  intro r₁ r₂ s state
  have hagree : Request.AgreeExcept PreparedRequest.signedHeaders r₁ r₂ := by
    refine ⟨rfl, rfl, by decide, by decide, fun hd => absurd (by decide) hd, ?_⟩
    intro name hs hown
    have hother : ∀ other, Header.startsWith Header.customStart (Text.lower other) = false →
        Header.sameName other name = false := by
      intro other hno
      apply Bool.eq_false_iff.2
      intro hsame
      rw [Header.sameName_iff.1 hsame, hs] at hno
      cases hno
    have hmeta : ∀ other, Text.lower other = "x-emc-meta" →
        Header.sameName other name = ("x-emc-meta" == Text.lower name) := by
      intro other hlower
      rw [← hlower]
      rfl
    have huid : Header.sameName "x-emc-uid" name = false := hown Header.uid (by decide)
    have hsignature : Header.sameName "X-EMC-Signature" name = false := by
      have hlower : Text.lower "X-EMC-Signature" = "x-emc-signature" := rfl
      rw [← hown Header.signature (by decide), Header.sameName, hlower, Header.sameName,
        Header.lower_signature]
    simp only [r₁, r₂, Header.Multimap.getAll_cons, hother "Date" (by decide),
      hother "Range" (by decide), hother "range" (by decide), hother "Accept" (by decide),
      hmeta "X-EMC-Meta" rfl, hmeta "x-emc-META" rfl, hmeta "X-Emc-Meta" rfl,
      hmeta "x-emc-meta" rfl, huid, hsignature, Bool.false_eq_true, if_false]
  have hsign := (signature_of_agreeing r₁ r₂).2 hagree s {} {} state state rfl rfl
  obtain ⟨htext, hmissing⟩ := (signature_of_agreeing (r₁.stamped "a/b" "now")
    (r₂.stamped "a/b" "now")).1 (hagree.stamped "a/b" "now")
  refine ⟨htext, ?_, hsign⟩
  obtain hok | hdate := hmissing (fun h => (by cases h)) ⟨"/Path", rfl⟩
  · exact hok
  · cases hdate

end Signer

end RequestSigning
