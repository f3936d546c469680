import RequestSigning.Proofs.Signing.InPlace

/-!
# Writing back what was signed

Absent headers are read like empty ones, so a request without headers is signed like any other. Its
signature cannot be written back into it, though: there signing fails, and the request stays as it
is.
-/

namespace RequestSigning

namespace TransportHeaders

theorem get?_copied_of_getAll {signed : Header.Multimap} {names : List String}
    {headers : TransportHeaders} {name v : String} (hname : name ∈ names)
    (hv : signed.getAll name = [v]) :
    get? name (copied signed names headers) = some (.text v) := by
  rw [get?_copied, if_pos ⟨name, hname, Header.sameName_self name⟩, copiedValue_of_getAll hv]

end TransportHeaders

namespace PreparedRequest

open TransportHeaders

variable {p : PreparedRequest} {r signed : Request} {s : Signer} {around : Surroundings}
  {state : SigningState}

/-! ## What is read -/

theorem exists_assembled_of_toRequest (h : p.toRequest = .ok r) :
    ∃ method m, r = assembled method p.url m := by
  unfold toRequest at h
  split at h
  · cases h
  · split at h
    · cases h
    · split at h
      · exact ⟨_, _, (Except.ok.inj h).symm⟩
      · cases h

/-- The content type is the text of a header, if there is one. -/
theorem hasTextContentType_assembled (method : Method) (url : Value) (m : Header.Multimap) :
    (assembled method url m).HasTextContentType := by
  unfold Request.HasTextContentType assembled Request.contentType
  cases m.getFirst? Header.contentType with
  | none => exact fun h => absurd h Bool.false_ne_true
  | some c => exact fun _ => ⟨c, rfl⟩

/-! ## What is written -/

theorem copyHeaders_of_absent (signed : Request) {names : List String} (hnames : names ≠ [])
    (hp : p.headers = none) : copyHeaders signed names p = (.error .wrongKind, p) := by
  cases names with
  | nil => exact absurd rfl hnames
  | cons name names => rw [copyHeaders, setHeader, hp]

theorem signInPlace_of_signed (hr : p.toRequest = .ok r)
    (hsign : (s.sign around state r).1 = .ok signed) :
    p.signInPlace s around state =
      ((copyHeaders signed signedHeaders p).1, (copyHeaders signed signedHeaders p).2,
        (s.sign around state r).2) := by
  unfold signInPlace
  rw [hr]
  dsimp only
  cases hresult : s.sign around state r with
  | mk result state' =>
    rw [hresult] at hsign
    obtain rfl : result = .ok signed := hsign
    rfl

/-- Where everything that signing needs is there, what was read is signed exactly when the request
has headers. They then carry account, date and signature; without them the request is not
changed. -/
theorem signInPlace_ok_iff_headers {uid date path : String} (hr : p.toRequest = .ok r)
    (hpath : r.path = .ok path) (huid : s.uid = .text uid)
    (hnext : (state.source.next around.now).1 = .ok (.text date)) (hdate : date ≠ "")
    (hworks : around.primitive = .works) :
    ∃ result p' state', p.signInPlace s around state = (result, p', state') ∧
      (result = .ok () ↔ p.headers ≠ none) ∧
      (p.headers = none → result = .error .wrongKind ∧ p' = p) ∧
      (p.headers ≠ none → ∃ text headers', (r.stamped uid date).stringToSign = .ok text ∧
        p' = { p with headers := some headers' } ∧ get? "x-emc-uid" headers' = some (.text uid) ∧
        get? "Date" headers' = some (.text date) ∧
        get? "x-emc-signature" headers' = some (.text (Digest.signature s.key text))) := by
  obtain ⟨method, m, rfl⟩ := exists_assembled_of_toRequest hr
  obtain ⟨text, htext, hsign⟩ :=
    Signer.sign_of_texts huid (hasTextContentType_assembled method p.url m) hpath hnext hdate hworks
  refine ⟨_, _, _, signInPlace_of_signed hr hsign, ?_⟩
  cases hp : p.headers with
  | none =>
    rw [copyHeaders_of_absent _ (by decide) hp]
    exact ⟨iff_of_false nofun fun h => h rfl, fun _ => ⟨rfl, rfl⟩, fun h => absurd rfl h⟩
  | some headers =>
    rw [copyHeaders_eq_ok _ _ hp]
    refine ⟨iff_of_true rfl nofun, nofun, fun _ => ⟨text, _, htext, rfl, ?_, ?_, ?_⟩⟩
    · exact get?_copied_of_getAll (by decide) (Request.getAll_uid_signed _ uid date _)
    · exact get?_copied_of_getAll (by decide) (Request.getAll_date_signed _ uid date _)
    · exact get?_copied_of_getAll (by decide) (Request.getAll_signature_signed _ uid date _)

/-- Headers without an entry are a place to write. -/
theorem signInPlace_ok_iff_headers_of_empty :
    let p : PreparedRequest := ⟨.text "get", .text "http://h/X", some []⟩
    let r : Request := ⟨.get, .text "http://h/X", ⟨[]⟩, none⟩
    let s : Signer := ⟨.text "u", [1, 2, 3]⟩
    let state : SigningState := ⟨.given [.text "d"], ⟨none, []⟩⟩
    p.toRequest = .ok r ∧ r.path = .ok "/X" ∧ (p.signInPlace s {} state).1 = .ok () ∧
      ∃ text headers', (r.stamped "u" "d").stringToSign = .ok text ∧
        (p.signInPlace s {} state).2.1 = { p with headers := some headers' } ∧
        get? "x-emc-signature" headers' = some (.text (Digest.signature [1, 2, 3] text)) := by
  intro p r s state
  have hr : p.toRequest = .ok r := rfl
  have hpath : r.path = .ok "/X" := by decide +kernel
  have huid : s.uid = .text "u" := rfl
  have hnext : (state.source.next ({} : Surroundings).now).1 = .ok (.text "d") := rfl
  obtain ⟨result, p', state', h, hok, -, hwritten⟩ :=
    signInPlace_ok_iff_headers hr hpath huid hnext (by decide) rfl
  have hheaders : p.headers ≠ none := nofun
  obtain ⟨text, headers', htext, hp', -, -, hsignature⟩ := hwritten hheaders
  rw [h]
  exact ⟨hr, hpath, hok.2 hheaders, text, headers', htext, hp', hsignature⟩

/-- A request without headers is read and has a path, but is not signed. -/
theorem signInPlace_of_absent_headers :
    let p : PreparedRequest := ⟨.text "GET", .text "/x", none⟩
    let r : Request := ⟨.get, .text "/x", ⟨[]⟩, none⟩
    let s : Signer := ⟨.text "u", [1, 2, 3]⟩
    let state : SigningState := ⟨.given [.text "d"], ⟨none, []⟩⟩
    p.toRequest = .ok r ∧ r.path = .ok "/x" ∧ (p.signInPlace s {} state).1 = .error .wrongKind := by
  intro p r s state
  have hr : p.toRequest = .ok r := rfl
  have hpath : r.path = .ok "/x" := by decide +kernel
  have hcontent : r.HasTextContentType := hasTextContentType_assembled .get (.text "/x") ⟨[]⟩
  have huid : s.uid = .text "u" := rfl
  have hnext : (state.source.next ({} : Surroundings).now).1 = .ok (.text "d") := rfl
  obtain ⟨text, -, hsign⟩ := Signer.sign_of_texts huid hcontent hpath hnext (by decide) rfl
  refine ⟨hr, hpath, ?_⟩
  rw [signInPlace_of_signed hr hsign, copyHeaders_of_absent _ (by decide) rfl]

end PreparedRequest

end RequestSigning
