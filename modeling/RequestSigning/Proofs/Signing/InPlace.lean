import RequestSigning.Proofs.Request.Agreement
import RequestSigning.Proofs.Signing.TransportHeaders
import RequestSigning.Proofs.Signing.Verification

/-!
# Signing in place

Signing copies values into headers that keep their own order and spelling. What is sent then agrees
in all values with the signed request, so it has the string to sign that was signed. No copy fails,
so a request that is not signed is not changed.
-/

namespace RequestSigning

namespace TransportHeaders

def copiedValue (signed : Header.Multimap) (name : String) : Value :=
  (signed.getFirst? name).elim .null .text

/-- The headers with the values of these names copied into them. -/
def copied (signed : Header.Multimap) (names : List String) (headers : TransportHeaders) :
    TransportHeaders :=
  names.foldl (fun acc name => set name (copiedValue signed name) acc) headers

variable {signed : Header.Multimap} {names : List String} {headers : TransportHeaders}

theorem Distinct.copied (h : Distinct headers) : Distinct (copied signed names headers) := by
  induction names generalizing headers with
  | nil => exact h
  | cons name names ih => exact ih (h.set name _)

theorem copiedValue_congr {a b : String} (h : Header.sameName a b = true) :
    copiedValue signed a = copiedValue signed b := by
  unfold copiedValue
  rw [Header.Multimap.getFirst?_congr (signed.getAll_congr_name h)]

theorem copiedValue_of_getAll {name v : String} (h : signed.getAll name = [v]) :
    copiedValue signed name = .text v := by
  unfold copiedValue
  rw [Header.Multimap.getFirst?_eq_head?, h]
  rfl

theorem Readable.copied (h : Readable headers)
    (hnames : ∀ name ∈ names, name ≠ "" ∧ ∃ v, signed.getAll name = [v]) :
    Readable (copied signed names headers) := by
  induction names generalizing headers with
  | nil => exact h
  | cons name names ih =>
    obtain ⟨⟨hname, v, hv⟩, hrest⟩ := List.forall_mem_cons.1 hnames
    change Readable (TransportHeaders.copied signed names
      (TransportHeaders.set name (copiedValue signed name) headers))
    rw [copiedValue_of_getAll hv]
    exact ih (h.set hname v) hrest

/-- A copied name has the copied value, every other name its own. -/
theorem get?_copied (other : String) :
    get? other (copied signed names headers) =
      if ∃ name ∈ names, Header.sameName name other = true then some (copiedValue signed other)
      else get? other headers := by
  induction names generalizing headers with
  | nil => simp [copied]
  | cons name names ih =>
    change get? other (copied signed names (set name (copiedValue signed name) headers)) = _
    rw [ih, get?_set]
    by_cases hlater : ∃ name ∈ names, Header.sameName name other = true
    · obtain ⟨later, hmem, hsame⟩ := hlater
      rw [if_pos ⟨later, hmem, hsame⟩, if_pos ⟨later, List.mem_cons_of_mem _ hmem, hsame⟩]
    · rw [if_neg hlater]
      by_cases hname : Header.sameName name other = true
      · rw [if_pos hname, if_pos ⟨name, List.mem_cons_self, hname⟩, copiedValue_congr hname]
      · rw [if_neg hname, if_neg]
        simpa [hname] using hlater

theorem filter_copied (keep : String → Bool)
    (hnames : ∀ name ∈ names, keep (Text.lower name) = false) :
    (copied signed names headers).filter (fun e => keep (Text.lower e.1)) =
      headers.filter fun e => keep (Text.lower e.1) := by
  induction names generalizing headers with
  | nil => rfl
  | cons name names ih =>
    obtain ⟨hname, hrest⟩ := List.forall_mem_cons.1 hnames
    change (copied signed names (set name (copiedValue signed name) headers)).filter _ = _
    rw [ih hrest, filter_set keep hname]

/-- Where the copied names have one value each and the others agree already, all values agree
afterwards. -/
theorem getAll_texts_copied (hd : Distinct headers)
    (hnames : ∀ name ∈ names, ∃ v, signed.getAll name = [v])
    (hothers : ∀ other, (∀ name ∈ names, Header.sameName name other = false) →
      signed.getAll other = Header.Multimap.getAll ⟨texts headers⟩ other) (other : String) :
    Header.Multimap.getAll ⟨texts (copied signed names headers)⟩ other = signed.getAll other := by
  rw [hd.copied.getAll_texts, get?_copied]
  by_cases h : ∃ name ∈ names, Header.sameName name other = true
  · obtain ⟨name, hmem, hsame⟩ := h
    obtain ⟨v, hv⟩ := hnames name hmem
    rw [if_pos ⟨name, hmem, hsame⟩, ← copiedValue_congr hsame,
      ← signed.getAll_congr_name hsame, hv, copiedValue_of_getAll hv]
    rfl
  · rw [if_neg h, ← hd.getAll_texts]
    apply (hothers other _).symm
    intro name hmem
    exact Bool.eq_false_iff.2 fun hsame => h ⟨name, hmem, hsame⟩

end TransportHeaders

namespace PreparedRequest

open TransportHeaders

/-- With headers to copy into no copy fails. -/
theorem copyHeaders_eq_ok (signed : Request) (names : List String) {p : PreparedRequest}
    {headers : TransportHeaders} (hp : p.headers = some headers) :
    copyHeaders signed names p =
      (.ok (), { p with headers := some (copied signed.headers names headers) }) := by
  induction names generalizing p headers with
  | nil =>
    unfold copyHeaders copied
    rw [List.foldl_nil, ← hp]
  | cons name names ih =>
    unfold copyHeaders setHeader
    rw [hp]
    exact ih rfl

/-- The request that is read from these headers. -/
def assembled (method : Method) (url : Value) (headers : Header.Multimap) : Request :=
  ⟨method, url, headers, (headers.getFirst? Header.contentType).map fun c => ⟨.text c⟩⟩

theorem readHeaders_eq_ok_iff {p : PreparedRequest} {headers : TransportHeaders}
    (hp : p.headers = some headers) {m : Header.Multimap} :
    p.readHeaders = .ok m ↔ Readable headers ∧ m = ⟨texts headers⟩ := by
  have hread := addEntries_eq_ok_iff Header.Multimap.empty m headers
  change _ ↔ Readable headers ∧ m = ⟨texts headers⟩ at hread
  rw [← hread]
  unfold readHeaders
  rw [hp, Option.getD_some]
  cases Header.Multimap.empty.addEntries (headers.map fun e => (.text e.1, e.2)) <;> simp

theorem toRequest_eq_ok_iff {p : PreparedRequest} {headers : TransportHeaders}
    (hp : p.headers = some headers) {r : Request} :
    p.toRequest = .ok r ↔
      Readable headers ∧ p.url.isGiven = true ∧ ∃ method, p.readMethod = .ok method ∧
        r = assembled method p.url ⟨texts headers⟩ := by
  constructor
  · intro h
    unfold toRequest at h
    cases hm : p.readHeaders with
    | error e => simp [hm] at h
    | ok m =>
      cases hmethod : p.readMethod with
      | error e => simp [hm, hmethod] at h
      | ok method =>
        obtain ⟨hreadable, rfl⟩ := (readHeaders_eq_ok_iff hp).1 hm
        simp only [hm, hmethod] at h
        split at h
        · next hurl => exact ⟨hreadable, hurl, method, rfl, (Except.ok.inj h).symm⟩
        · cases h
  · rintro ⟨hreadable, hurl, method, hmethod, rfl⟩
    unfold toRequest
    simp only [(readHeaders_eq_ok_iff hp).2 ⟨hreadable, rfl⟩, hmethod, hurl, if_true]
    rfl

theorem getAll_signed_own (r : Request) (uid date signature : String) :
    ∀ name ∈ signedHeaders, ∃ v, (r.signedAs uid date signature).headers.getAll name = [v] := by
  simp only [signedHeaders, List.forall_mem_cons]
  exact ⟨⟨uid, r.getAll_uid_signed uid date signature⟩,
    ⟨date, r.getAll_date_signed uid date signature⟩,
    ⟨signature, r.getAll_signature_signed uid date signature⟩, fun _ h => absurd h List.not_mem_nil⟩

theorem getAll_texts_signed {headers : TransportHeaders} (hd : Distinct headers) {r : Request}
    (hr : r.headers = ⟨texts headers⟩) (uid date signature name : String) :
    Header.Multimap.getAll ⟨texts (copied (r.signedAs uid date signature).headers signedHeaders
      headers)⟩ name = (r.signedAs uid date signature).headers.getAll name := by
  apply getAll_texts_copied hd (getAll_signed_own r uid date signature)
  intro other hother
  simp only [signedHeaders, List.forall_mem_cons] at hother
  rw [getAll_signed, hr]
  simp [hother]

theorem contentType_assembled (method : Method) (url : Value) (m : Header.Multimap) :
    (assembled method url m).contentType =
      (m.getAll Header.contentType).head?.elim .null .text := by
  unfold assembled Request.contentType
  rw [← Header.Multimap.getFirst?_eq_head?]
  cases m.getFirst? Header.contentType <;> rfl

/-- What is sent has the string to sign that was signed. -/
theorem stringToSign_copied {headers : TransportHeaders} (hd : Distinct headers) (method : Method)
    (url : Value) (uid date signature : String) :
    let stamped := (assembled method url ⟨texts headers⟩).stamped uid date
    let signed := ((assembled method url ⟨texts headers⟩).signedAs uid date signature).headers
    (assembled method url ⟨texts (copied signed signedHeaders headers)⟩).unsigned.stringToSign =
      stamped.stringToSign := by
  intro stamped signed
  have hvalues := getAll_texts_signed hd (r := assembled method url ⟨texts headers⟩) rfl uid date
    signature
  have htype : signed.getAll Header.contentType =
      Header.Multimap.getAll ⟨texts headers⟩ Header.contentType := by
    apply (getAll_signed _ uid date signature _).trans
    simp [Header.sameName, assembled]
  refine Request.stringToSign_congr (Request.AgreeExcept.of_getAll_eq rfl ?_ rfl ?_)
  · change (assembled method url ⟨texts (copied signed signedHeaders headers)⟩).contentType =
      (assembled method url ⟨texts headers⟩).contentType
    rw [contentType_assembled, contentType_assembled, hvalues, htype]
  · intro name
    change (Header.Multimap.remove ⟨texts (copied signed signedHeaders headers)⟩
      Header.signature).getAll name = stamped.headers.getAll name
    rw [Header.Multimap.getAll_remove, hvalues, ← Header.Multimap.getAll_remove]
    exact congrArg (fun r => r.headers.getAll name)
      (Request.unsigned_push_signature _ uid date signature)

theorem readable_signed {headers : TransportHeaders} (hreadable : Readable headers) (r : Request)
    (uid date signature : String) :
    Readable (copied (r.signedAs uid date signature).headers signedHeaders headers) := by
  have hnonempty : ∀ name ∈ signedHeaders, name ≠ "" := by decide
  have hone := getAll_signed_own r uid date signature
  exact hreadable.copied fun name hmem => ⟨hnonempty name hmem, hone name hmem⟩

/-- Either nothing is written, or all headers that signing owns are copied. -/
theorem signInPlace_cases {p : PreparedRequest} {headers : TransportHeaders}
    (hp : p.headers = some headers) {s : Signer} {around : Surroundings} {state : SigningState}
    {result : Except Error Unit} {p' : PreparedRequest} {state' : SigningState}
    (h : p.signInPlace s around state = (result, p', state')) :
    (∃ e, result = .error e ∧ p' = p ∧
      (p.toRequest = .error e ∨ ∃ r, p.toRequest = .ok r ∧ (s.sign around state r).1 = .error e)) ∨
      (result = .ok () ∧ ∃ r signed, p.toRequest = .ok r ∧ (s.sign around state r).1 = .ok signed ∧
        p' = { p with headers := some (copied signed.headers signedHeaders headers) }) := by
  unfold signInPlace at h
  cases hr : p.toRequest with
  | error e =>
    rw [hr] at h
    obtain ⟨rfl, rfl, rfl⟩ := h
    exact Or.inl ⟨e, rfl, rfl, Or.inl rfl⟩
  | ok r =>
    rw [hr] at h
    cases hs : s.sign around state r with
    | mk outcome state₁ =>
      cases outcome with
      | error e =>
        simp only [hs] at h
        obtain ⟨rfl, rfl, rfl⟩ := h
        exact Or.inl ⟨e, rfl, rfl, Or.inr ⟨r, rfl, by rw [hs]⟩⟩
      | ok signed =>
        simp only [hs, copyHeaders_eq_ok _ _ hp] at h
        obtain ⟨rfl, rfl, rfl⟩ := h
        exact Or.inr ⟨rfl, r, signed, rfl, by rw [hs], rfl⟩

/-- Signing in place fails as reading or signing does and changes nothing, or it leaves a request
that carries the signature of its own string to sign, with all headers but the three of signing as
they were. -/
theorem signInPlace_all_or_nothing {p : PreparedRequest} {headers : TransportHeaders}
    (hp : p.headers = some headers) (hd : Distinct headers) {s : Signer} {around : Surroundings}
    {state : SigningState} {result : Except Error Unit} {p' : PreparedRequest}
    {state' : SigningState} (h : p.signInPlace s around state = (result, p', state')) :
    (∃ e, result = .error e ∧ p' = p ∧
      (p.toRequest = .error e ∨ ∃ r, p.toRequest = .ok r ∧ (s.sign around state r).1 = .error e)) ∨
      (result = .ok () ∧ ∃ headers' r text signature,
        p' = { p with headers := some headers' } ∧ Distinct headers' ∧
        p'.toRequest = .ok r ∧ r.unsigned.stringToSign = .ok text ∧
        signText around.primitive s.key text = .ok signature ∧
        get? "x-emc-signature" headers' = some (.text signature) ∧
        headers'.filter (fun e => Text.lower e.1 ∉ ["x-emc-signature", "x-emc-uid", "date"]) =
          headers.filter fun e => Text.lower e.1 ∉ ["x-emc-signature", "x-emc-uid", "date"]) := by
  obtain hfailed | ⟨rfl, r, signed, hr, hsign, rfl⟩ := signInPlace_cases hp h
  · exact Or.inl hfailed
  obtain ⟨hreadable, hurl, method, hmethod, rfl⟩ := (toRequest_eq_ok_iff hp).1 hr
  obtain ⟨uid, date, text, signature, _, _, htext, hsignature, rfl⟩ := Signer.sign_eq_ok_iff.1 hsign
  refine Or.inr ⟨rfl, _, _, text, signature, rfl, hd.copied,
    (toRequest_eq_ok_iff rfl).2 ⟨?_, hurl, method, hmethod, rfl⟩, ?_, hsignature, ?_, ?_⟩
  · exact readable_signed hreadable _ uid date signature
  · exact (stringToSign_copied hd method p.url uid date signature).trans htext
  · have hmem : Header.signature ∈ signedHeaders := by decide
    change get? Header.signature _ = _
    rw [get?_copied, if_pos ⟨Header.signature, hmem, Header.sameName_self _⟩]
    apply congrArg some
    apply copiedValue_of_getAll
    exact (getAll_signed _ uid date signature _).trans (if_pos (Header.sameName_self _))
  · apply filter_copied fun name => name ∉ ["x-emc-signature", "x-emc-uid", "date"]
    decide

/-- Old values give way at their places, in the spelling of signing. -/
theorem signInPlace_keeps_places :
    let p : PreparedRequest := ⟨.text "put", .text "http://h/Rest", some (TransportHeaders.ofList
      [("date", .text "then"), ("Content-Type", .text "text/plain"), ("X-EMC-UID", .text "c"),
        ("Accept", .text "*/*")])⟩
    let s : Signer := ⟨.text "a/b", [1, 2, 3]⟩
    let state : SigningState := ⟨.given [.text "now"], ⟨none, []⟩⟩
    let after := p.signInPlace s {} state
    after.1 = .ok () ∧ ∃ headers' r text signature, after.2.1.headers = some headers' ∧
      headers'.map (·.1) = ["Date", "Content-Type", "x-emc-uid", "Accept", "x-emc-signature"] ∧
      after.2.1.toRequest = .ok r ∧ r.unsigned.stringToSign = .ok text ∧
      signature = Digest.signature [1, 2, 3] text ∧
      get? "x-emc-signature" headers' = some (.text signature) := by
  intro p s state after
  have hok : after.1 = .ok () := rfl
  have hnames : after.2.1.headers.map (·.map (·.1)) =
      some ["Date", "Content-Type", "x-emc-uid", "Accept", "x-emc-signature"] := rfl
  have h : p.signInPlace s {} state = (after.1, after.2.1, after.2.2) := rfl
  obtain ⟨e, herror, _, _⟩ |
      ⟨_, headers', r, text, signature, hafter, _, hr, htext, hsign, hget, _⟩ :=
    signInPlace_all_or_nothing rfl (distinct_ofList _) h
  · rw [hok] at herror
    cases herror
  · rw [hafter] at hnames
    refine ⟨hok, headers', r, text, signature, ?_, Option.some.inj hnames, hr, htext, ?_, hget⟩
    · rw [hafter]
    · exact (signText_eq_ok_iff.1 hsign).2

end PreparedRequest

end RequestSigning
