import RequestSigning.Proofs.Request.Endpoints
import RequestSigning.Proofs.Signing.Building
import RequestSigning.Proofs.Signing.Verification

/-!
# How signing fails

With an account and a date that are texts, three things decide the outcome of a pass, one after the
other: whether the date is empty, whether the endpoint has a path, and whether the primitive works.
An empty date and a primitive that fails are told by errors of signing. What is wrong with an
endpoint is told by an error of the endpoint's own.
-/

namespace RequestSigning

namespace Request

variable {r : Request}

theorem endpoint_of_make {method endpoint : Value} {headers : HeadersGiven}
    {payload : Option Payload} (h : make method endpoint headers payload = .ok r) :
    r.endpoint = endpoint := by
  unfold make at h
  split at h
  · cases h
  · split at h
    · cases h
    · cases hread : readHeaders headers with
      | error e =>
        rw [hread] at h
        cases h
      | ok m =>
        rw [hread] at h
        obtain rfl := Except.ok.inj h
        rfl

theorem hasDate_stamped_iff {uid date : String} : (r.stamped uid date).HasDate ↔ date ≠ "" := by
  have hfirst : (r.stamped uid date).headers.getFirst? Header.date = some date := by
    rw [Header.Multimap.getFirst?_eq_head?, getAll_stamped]
    simp [Header.sameName]
  rw [hasDate_iff, hfirst]
  constructor
  · rintro ⟨_, hsome, hne⟩
    exact Option.some.inj hsome ▸ hne
  · exact fun hne => ⟨date, rfl, hne⟩

theorem path_stamped (r : Request) (uid date : String) : (r.stamped uid date).path = r.path := rfl

theorem HasTextContentType.stamped (h : r.HasTextContentType) (uid date : String) :
    (r.stamped uid date).HasTextContentType := h

theorem withSignature_of_error {e : Error} (h : r.stringToSign = .error e)
    (sign : String → Except Error String) : r.withSignature sign = .error e := by
  unfold withSignature
  rw [h]

theorem withSignature_of_fails {text : String} (h : r.stringToSign = .ok text)
    (fault : Digest.Fault) (key : List UInt8) :
    r.withSignature (signText (.fails fault) key) = .error (.signing (.failed fault)) := by
  unfold withSignature
  rw [h]
  rfl

end Request

namespace Signer

/-- What a pass is said to come to: a signed request, or an error of signing for a header that is
missing or a primitive that fails. -/
inductive Told : Except Error Request → Prop
  | signed (r : Request) : Told (.ok r)
  | missingHeader (name : String) : Told (.error (.signing (.missingHeader name)))
  | failed (fault : Digest.Fault) : Told (.error (.signing (.failed fault)))

variable {s : Signer} {around : Surroundings} {state : SigningState} {r : Request}
  {uid date endpoint : String}

theorem sign_of_account_and_date (huid : s.uid = .text uid)
    (hnext : (state.source.next around.now).1 = .ok (.text date)) :
    (s.sign around state r).1 =
      (r.stamped uid date).withSignature (signText around.primitive s.key) := by
  rw [sign_result, huid, hnext]
  dsimp only
  rw [Json.Text.toString_ofString, passSignature_of_text huid]

/-! ## The stages of a pass -/

section Stages

variable (huid : s.uid = .text uid) (hendpoint : r.endpoint = .text endpoint)
  (hcontent : r.HasTextContentType) (hnext : (state.source.next around.now).1 = .ok (.text date))

include huid hcontent hnext

/-- Without a date neither the endpoint nor the primitive is looked at. -/
theorem sign_of_empty_date (hdate : date = "") :
    (s.sign around state r).1 = .error (.signing (.missingHeader Header.date)) := by
  have hnone : ¬ (r.stamped uid date).HasDate := fun h => Request.hasDate_stamped_iff.1 h hdate
  rw [sign_of_account_and_date huid hnext]
  exact Request.withSignature_of_error
    (Request.stringToSign_of_not_hasDate (hcontent.stamped uid date) hnone) _

include hendpoint

/-- Without a path the primitive is not looked at. -/
theorem sign_of_malformed_endpoint (hdate : date ≠ "") {e : Endpoint.Error}
    (hpath : Endpoint.path endpoint = .error e) :
    (s.sign around state r).1 = .error (.invalid (.endpoint e)) := by
  have hstamped : (r.stamped uid date).path = .error (.invalid (.endpoint e)) := by
    rw [Request.path_stamped, Request.path_of_endpoint hendpoint, hpath]
    rfl
  have htext : (r.stamped uid date).stringToSign = .error (.invalid (.endpoint e)) :=
    Request.stringToSign_of_path_eq_error (hcontent.stamped uid date)
      (Request.hasDate_stamped_iff.2 hdate) hstamped
  rw [sign_of_account_and_date huid hnext]
  exact Request.withSignature_of_error htext _

theorem sign_of_failing_primitive (hdate : date ≠ "") {path : String}
    (hpath : Endpoint.path endpoint = .ok path) {fault : Digest.Fault}
    (hfails : around.primitive = .fails fault) :
    (s.sign around state r).1 = .error (.signing (.failed fault)) := by
  have hstamped : (r.stamped uid date).path = .ok path := by
    rw [Request.path_stamped, Request.path_of_endpoint hendpoint, hpath]
    rfl
  obtain ⟨text, htext⟩ := (Request.exists_stringToSign_iff (hcontent.stamped uid date)).2
    ⟨Request.hasDate_stamped_iff.2 hdate, path, hstamped⟩
  rw [sign_of_account_and_date huid hnext, hfails]
  exact Request.withSignature_of_fails htext fault s.key

theorem sign_of_working_primitive (hdate : date ≠ "") {path : String}
    (hpath : Endpoint.path endpoint = .ok path) (hworks : around.primitive = .works) :
    ∃ text, (r.stamped uid date).stringToSign = .ok text ∧
      (s.sign around state r).1 = .ok (r.signedAs uid date (Digest.signature s.key text)) := by
  have hgiven : r.path = .ok path := by
    rw [Request.path_of_endpoint hendpoint, hpath]
    rfl
  exact sign_of_texts huid hcontent hgiven hnext hdate hworks

theorem told_sign_iff (hprimitive : ∀ step, around.primitive ≠ .interrupted step) :
    Told (s.sign around state r).1 ↔ date = "" ∨ ∃ path, Endpoint.path endpoint = .ok path := by
  by_cases hdate : date = ""
  · rw [sign_of_empty_date huid hcontent hnext hdate]
    exact iff_of_true (.missingHeader _) (Or.inl hdate)
  · cases hpath : Endpoint.path endpoint with
    | error e =>
      rw [sign_of_malformed_endpoint huid hendpoint hcontent hnext hdate hpath]
      exact iff_of_false (fun h => by cases h) (by simp [hdate])
    | ok path =>
      refine iff_of_true ?_ (Or.inr ⟨path, rfl⟩)
      cases hcase : around.primitive with
      | works =>
        obtain ⟨text, -, hsigned⟩ :=
          sign_of_working_primitive huid hendpoint hcontent hnext hdate hpath hcase
        rw [hsigned]
        exact .signed _
      | fails fault =>
        rw [sign_of_failing_primitive huid hendpoint hcontent hnext hdate hpath hcase]
        exact .failed fault
      | interrupted step => exact absurd hcase (hprimitive step)

end Stages

/-! ## The outcome of a pass -/

/-- A signer of a textual account and a key signs a request at a textual endpoint, or fails with an
error of signing, exactly if the date is empty or the endpoint has a path. Date, endpoint and
primitive decide in this order, and a malformed endpoint lets an error through that is none of
signing. -/
theorem told_iff_date_empty_or_path {config : SigningConfig} (huid : config.uid = .text uid)
    (hkey : config.key ≠ []) {method : Value} {headers : HeadersGiven} {payload : Option Payload}
    (hmake : Request.make method (.text endpoint) headers payload = .ok r)
    (hcontent : r.HasTextContentType) (hnext : (state.source.next around.now).1 = .ok (.text date))
    (hprimitive : ∀ step, around.primitive ≠ .interrupted step) :
    ∃ signer, ofConfig config = .ok signer ∧
      (Told (signer.sign around state r).1 ↔ date = "" ∨
        ∃ path, Endpoint.path endpoint = .ok path) ∧
      (date = "" → (signer.sign around state r).1 =
        .error (.signing (.missingHeader Header.date))) ∧
      (∀ e, date ≠ "" → Endpoint.path endpoint = .error e →
        (signer.sign around state r).1 = .error (.invalid (.endpoint e))) ∧
      (∀ path fault, date ≠ "" → Endpoint.path endpoint = .ok path →
        around.primitive = .fails fault →
        (signer.sign around state r).1 = .error (.signing (.failed fault))) ∧
      ∀ path, date ≠ "" → Endpoint.path endpoint = .ok path → around.primitive = .works →
        ∃ text, (r.stamped uid date).stringToSign = .ok text ∧
          (signer.sign around state r).1 =
            .ok (r.signedAs uid date (Digest.signature config.key text)) := by
  have hendpoint := Request.endpoint_of_make hmake
  refine ⟨⟨config.uid, config.key⟩, ofConfig_of_key hkey, ?_, ?_, ?_, ?_, ?_⟩
  · exact told_sign_iff huid hendpoint hcontent hnext hprimitive
  · exact sign_of_empty_date huid hcontent hnext
  · exact fun _ hdate hpath => sign_of_malformed_endpoint huid hendpoint hcontent hnext hdate hpath
  · exact fun _ _ hdate hpath hfails =>
      sign_of_failing_primitive huid hendpoint hcontent hnext hdate hpath hfails
  · exact fun _ hdate hpath hworks =>
      sign_of_working_primitive huid hendpoint hcontent hnext hdate hpath hworks

/-- A primitive that breaks down at its last step, below a host in brackets. -/
theorem told_iff_date_empty_or_path_of_runtime_fault :
    let config : SigningConfig := ⟨.text "u", [1, 2, 3], .given [.text "d"], none⟩
    let r : Request := ⟨.put, .text "http://[::1]/x", ⟨[("X-Emc-Uid", "old")]⟩, some ⟨.text "t"⟩⟩
    let fault : Digest.Fault := ⟨.finish, .runtime, "broken"⟩
    let around : Surroundings := { primitive := .fails fault }
    ∃ signer, ofConfig config = .ok signer ∧
      Request.make (.text "put") (.text "http://[::1]/x") (.multimap r.headers) r.payload = .ok r ∧
      (signer.sign around (initialState config) r).1 = .error (.signing (.failed fault)) := by
  intro config r fault around
  have huid : config.uid = .text "u" := rfl
  have hkey : config.key ≠ [] := by decide
  have hmake : Request.make (.text "put") (.text "http://[::1]/x") (.multimap r.headers) r.payload =
      .ok r := by rfl
  have hcontent : r.HasTextContentType := fun _ => ⟨"t", rfl⟩
  have hnext : ((initialState config).source.next around.now).1 = .ok (.text "d") := rfl
  have hprimitive : ∀ step, around.primitive ≠ .interrupted step := fun step h => by cases h
  obtain ⟨signer, hsigner, -, -, -, hfails, -⟩ :=
    told_iff_date_empty_or_path huid hkey hmake hcontent hnext hprimitive
  exact ⟨signer, hsigner, hmake, hfails "/x" fault (by decide) (by decide +kernel) rfl⟩

/-- An open bracket in the place of a host is found only when the path is to be signed, and told as
an invalid value. -/
theorem not_told_of_open_bracket :
    let config : SigningConfig := ⟨.text "u", [1, 2, 3], .given [.text "d"], none⟩
    let headers : HeadersGiven := .multimap ⟨[("Range", "r")]⟩
    ∃ r signer, Request.make (.text "GET") (.text "http://[/x") headers none = .ok r ∧
      ofConfig config = .ok signer ∧
      (signer.sign {} (initialState config) r).1 =
        .error (.invalid (.endpoint .malformedBrackets)) ∧
      ¬ Told (signer.sign {} (initialState config) r).1 := by
  intro config headers
  let r : Request := ⟨.get, .text "http://[/x", ⟨[("Range", "r")]⟩, none⟩
  let s : Signer := ⟨.text "u", [1, 2, 3]⟩
  have huid : s.uid = .text "u" := rfl
  have hendpoint : r.endpoint = .text "http://[/x" := rfl
  have hcontent : r.HasTextContentType := fun h => absurd h (by decide)
  have hpath : Endpoint.path "http://[/x" = .error .malformedBrackets := by decide +kernel
  have herror : (s.sign {} (initialState config) r).1 =
      .error (.invalid (.endpoint .malformedBrackets)) :=
    sign_of_malformed_endpoint huid hendpoint hcontent rfl (by decide : "d" ≠ "") hpath
  refine ⟨r, s, by rfl, ofConfig_of_key (by decide), herror, fun h => ?_⟩
  rw [herror] at h
  cases h

end Signer

end RequestSigning
