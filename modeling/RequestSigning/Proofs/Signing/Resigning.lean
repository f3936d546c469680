import RequestSigning.Proofs.Signing.Dependence
import RequestSigning.Proofs.Signing.InPlace

/-!
# Signing again

A second signing removes all that the first one added before it looks at the request, so its outcome
is that of signing the given request. In place the first signing also fixes where the three headers
stand; the second one finds them there and writes over them.
-/

namespace RequestSigning

namespace TransportHeaders

variable {first second : Header.Multimap} {names : List String} {headers : TransportHeaders}

theorem copied_cons (m : Header.Multimap) (name : String) (names : List String)
    (headers : TransportHeaders) :
    copied m (name :: names) headers = copied m names (set name (copiedValue m name) headers) := rfl

theorem copied_congr (h : ∀ name ∈ names, copiedValue first name = copiedValue second name) :
    copied first names headers = copied second names headers := by
  induction names generalizing headers with
  | nil => rfl
  | cons name names ih =>
    obtain ⟨hname, hrest⟩ := List.forall_mem_cons.1 h
    rw [copied_cons, copied_cons, hname, ih hrest]

/-- A name that is there already can be set before other names are copied. -/
theorem set_copied {name : String} (hnames : ∀ other ∈ names, Header.sameName name other = false)
    (hmem : Text.lower name ∈ lowerNames headers) (value : Value) :
    set name value (copied first names headers) = copied first names (set name value headers) := by
  induction names generalizing headers with
  | nil => rfl
  | cons other names ih =>
    obtain ⟨hother, hrest⟩ := List.forall_mem_cons.1 hnames
    -- The name has its place already, so the two writes do not compete for the end.
    have hlater : Text.lower name ∈ lowerNames (set other (copiedValue first other) headers) := by
      rw [lowerNames_set]
      split
      · exact hmem
      · exact List.mem_append_left _ hmem
    rw [copied_cons, copied_cons, ih hrest hlater, set_comm hother _ _ hmem]

/-- What was copied under the same names before leaves no trace. -/
theorem copied_copied (hnames : names.Pairwise fun a b => Header.sameName a b = false) :
    copied second names (copied first names headers) = copied second names headers := by
  induction names generalizing headers with
  | nil => rfl
  | cons name names ih =>
    obtain ⟨hname, hrest⟩ := List.pairwise_cons.1 hnames
    have hmem : Text.lower name ∈ lowerNames (set name (copiedValue first name) headers) := by
      rw [lowerNames_set]
      split
      · assumption
      · exact List.mem_append_right _ List.mem_cons_self
    rw [copied_cons, copied_cons, copied_cons, set_copied hname hmem, ih hrest,
      set_set (Header.sameName_self name)]

end TransportHeaders

namespace Request

/-- Stamping a signed request again stamps the given one. -/
theorem stamped_signed (r : Request) (uid date signature uid' date' : String) :
    (r.signedAs uid date signature).stamped uid' date' = r.stamped uid' date' := by
  -- The names that stamping removes are those that signing has added.
  have hlower : ∀ name ∈ PreparedRequest.signedHeaders,
      Text.lower name ∈ ["x-emc-signature", "x-emc-uid", "date"] := by decide
  have hown : [("x-emc-uid", uid), ("Date", date), ("x-emc-signature", signature)].filter
      (fun e => Text.lower e.1 ∉ ["x-emc-signature", "x-emc-uid", "date"]) = [] := by
    rw [List.filter_eq_nil_iff]
    intro e he hkept
    have hname : e.1 ∈ PreparedRequest.signedHeaders :=
      List.mem_map_of_mem (f := Prod.fst) he
    exact of_decide_eq_true hkept (hlower e.1 hname)
  have hentries : ((r.signedAs uid date signature).stamped uid' date').headers.entries =
      (r.stamped uid' date').headers.entries := by
    rw [entries_stamped, entries_stamped]
    change ((r.stamped uid date).headers.entries ++
      [("x-emc-signature", signature)]).filter _ ++ _ = _
    rw [entries_stamped, List.append_assoc, List.cons_append, List.singleton_append,
      List.filter_append, hown, List.append_nil, List.filter_filter]
    simp only [Bool.and_self]
  exact congrArg (fun entries => r.withHeaders ⟨entries⟩) hentries

/-- Requests with one string to sign get one signature; what is made of the outcome may differ in
the requests only. -/
theorem map_withSignature_congr {α : Type} {r₁ r₂ : Request}
    (htext : r₁.stringToSign = r₂.stringToSign) (sign : String → Except Error String)
    {f g : Request → α}
    (h : ∀ signature,
      f (r₁.withHeaders ((r₁.headers.remove Header.signature).push Header.signature signature)) =
        g (r₂.withHeaders ((r₂.headers.remove Header.signature).push Header.signature signature))) :
    (r₁.withSignature sign).map f = (r₂.withSignature sign).map g := by
  unfold withSignature
  rw [htext]
  cases r₂.stringToSign with
  | error e => rfl
  | ok text =>
    dsimp only
    cases sign text with
    | error e => rfl
    | ok signature => exact congrArg Except.ok (h signature)

end Request

namespace Signer

/-- The outcome of signing again is that of signing the given request. -/
theorem sign_signed {s₁ s₂ : Signer} {around₁ around₂ around : Surroundings}
    {state₁ state₂ state : SigningState} {r signed : Request}
    (h : (s₁.sign around₁ state₁ r).1 = .ok signed)
    (hprimitive : around.primitive = around₂.primitive)
    (hdate : (state.source.next around.now).1 = (state₂.source.next around₂.now).1) :
    (s₂.sign around state signed).1 = (s₂.sign around₂ state₂ r).1 := by
  obtain ⟨uid, date, text, signature, _, _, _, _, rfl⟩ := sign_eq_ok_iff.1 h
  rw [sign_result, sign_result, hdate]
  unfold passSignature
  simp only [Request.stamped_signed, hprimitive]

/-- On requests that agree, the headers that signing owns aside, one signer at one date fails alike
or adds the same three headers. -/
theorem map_sign_of_agreeing {α : Type} {r₁ r₂ : Request}
    (hagree : Request.AgreeExcept PreparedRequest.signedHeaders r₁ r₂) (s : Signer)
    {around₁ around₂ : Surroundings} {state₁ state₂ : SigningState}
    (hprimitive : around₁.primitive = around₂.primitive)
    (hdate : (state₁.source.next around₁.now).1 = (state₂.source.next around₂.now).1)
    {f g : Request → α}
    (h : ∀ uid date signature,
      f (r₁.signedAs uid date signature) = g (r₂.signedAs uid date signature)) :
    (s.sign around₁ state₁ r₁).1.map f = (s.sign around₂ state₂ r₂).1.map g := by
  rw [sign_result, sign_result, hdate]
  split
  · next uid date _ _ =>
    rw [passSignature_congr hagree s hprimitive]
    apply Request.map_withSignature_congr (Request.stringToSign_congr (hagree.stamped _ date))
    intro signature
    rw [Request.remove_signature_stamped, Request.remove_signature_stamped]
    exact h _ date signature
  all_goals rfl

end Signer

namespace PreparedRequest

open TransportHeaders

/-- The request with the three headers of a signed request copied into it. -/
def withCopied (p : PreparedRequest) (headers : TransportHeaders) (signed : Request) :
    PreparedRequest :=
  { p with headers := some (copied signed.headers signedHeaders headers) }

theorem sign_result {p : PreparedRequest} {headers : TransportHeaders}
    (hp : p.headers = some headers) (s : Signer) (around : Surroundings) (state : SigningState) :
    (p.sign s around state).1 =
      match p.toRequest with
      | .error e => .error e
      | .ok r => (s.sign around state r).1.map (p.withCopied headers) := by
  unfold sign signInPlace
  cases p.toRequest with
  | error e => rfl
  | ok r =>
    dsimp only
    cases hs : s.sign around state r with
    | mk outcome state =>
      cases outcome with
      | error e => rfl
      | ok signed =>
        simp only [copyHeaders_eq_ok signed signedHeaders hp]
        rfl

/-- Copying the headers of a signed request changes nothing but what signing owns. -/
theorem agreeExcept_copied {headers : TransportHeaders} (hd : Distinct headers) (method : Method)
    (url : Value) (uid date signature : String) :
    Request.AgreeExcept signedHeaders
      (assembled method url ⟨texts (copied ((assembled method url ⟨texts headers⟩).signedAs uid date
        signature).headers signedHeaders headers)⟩)
      (assembled method url ⟨texts headers⟩) := by
  have hvalues : ∀ name, (∀ own ∈ signedHeaders, Header.sameName own name = false) →
      Header.Multimap.getAll
        ⟨texts (copied ((assembled method url ⟨texts headers⟩).signedAs uid date
        signature).headers signedHeaders headers)⟩ name =
        Header.Multimap.getAll ⟨texts headers⟩ name := by
    intro name hown
    rw [getAll_texts_signed hd rfl, getAll_signed]
    simp only [signedHeaders, List.forall_mem_cons] at hown
    simp only [hown, Bool.false_eq_true, if_false]
    rfl
  have htype := hvalues Header.contentType (by decide)
  have hrange := hvalues Header.range (by decide)
  refine ⟨rfl, ?_, rfl, ?_, fun hdate => absurd (by decide) hdate, fun name _ => hvalues name⟩
  · rw [contentType_assembled, contentType_assembled, htype]
  · unfold Request.rangeLine
    exact congrArg (fun v => Text.lower (Option.getD v "")) (Header.Multimap.getFirst?_congr hrange)

/-- The three headers of signing do not tell which request was signed. -/
theorem getAll_signed_own_eq (r₁ r₂ : Request) (uid date signature : String) :
    ∀ name ∈ signedHeaders,
      (r₁.signedAs uid date signature).headers.getAll name =
        (r₂.signedAs uid date signature).headers.getAll name := by
  intro name hname
  rw [getAll_signed, getAll_signed]
  simp only [signedHeaders, List.mem_cons, List.not_mem_nil, or_false] at hname
  rcases hname with rfl | rfl | rfl <;> rfl

theorem withCopied_withCopied {p : PreparedRequest} {headers : TransportHeaders} {earlier : Request}
    (r₁ r₂ : Request) (uid date signature : String) :
    (p.withCopied headers earlier).withCopied (copied earlier.headers signedHeaders headers)
        (r₁.signedAs uid date signature) =
      p.withCopied headers (r₂.signedAs uid date signature) := by
  have hnames : signedHeaders.Pairwise fun a b => Header.sameName a b = false := by decide
  unfold withCopied
  rw [copied_copied hnames]
  congr 2
  apply copied_congr
  intro name hname
  unfold copiedValue
  congr 1
  exact Header.Multimap.getFirst?_congr (getAll_signed_own_eq r₁ r₂ uid date signature name hname)

theorem toRequest_withCopied {p : PreparedRequest} {headers : TransportHeaders}
    (hreadable : Readable headers) (hurl : p.url.isGiven = true) {method : Method}
    (hmethod : p.readMethod = .ok method) (r : Request) (uid date signature : String) :
    (p.withCopied headers (r.signedAs uid date signature)).toRequest =
      .ok
        (assembled method p.url ⟨texts (copied (r.signedAs uid date signature).headers signedHeaders
        headers)⟩) :=
  (toRequest_eq_ok_iff rfl).2
    ⟨readable_signed hreadable r uid date signature, hurl, method, hmethod, rfl⟩

/-- Signing a request in place that was signed in place before gives what signing it gave before. -/
theorem sign_signed {p signed : PreparedRequest} {headers : TransportHeaders}
    (hp : p.headers = some headers) (hd : Distinct headers) {s₁ s₂ : Signer}
    {around₁ around₂ around : Surroundings} {state₁ state₂ state : SigningState}
    (h : (p.sign s₁ around₁ state₁).1 = .ok signed)
    (hprimitive : around.primitive = around₂.primitive)
    (hdate : (state.source.next around.now).1 = (state₂.source.next around₂.now).1) :
    (signed.sign s₂ around state).1 = (p.sign s₂ around₂ state₂).1 := by
  rw [sign_result hp] at h
  cases hr : p.toRequest with
  | error e => simp [hr] at h
  | ok r =>
    simp only [hr] at h
    cases hsign : (s₁.sign around₁ state₁ r).1 with
    | error e => simp [hsign, Except.map] at h
    | ok signed₁ =>
      rw [hsign] at h
      obtain rfl := Except.ok.inj h
      obtain ⟨hreadable, hurl, method, hmethod, rfl⟩ := (toRequest_eq_ok_iff hp).1 hr
      obtain ⟨uid, date, text, signature, _, _, _, _, rfl⟩ := Signer.sign_eq_ok_iff.1 hsign
      rw [sign_result rfl, sign_result hp, hr,
        toRequest_withCopied hreadable hurl hmethod _ uid date signature]
      exact Signer.map_sign_of_agreeing (agreeExcept_copied hd method p.url uid date signature) s₂
        hprimitive hdate (withCopied_withCopied _ _)

end PreparedRequest

/-- The last signing wins: on what was signed before, by the same signer or another one, it has the
outcome that it has on the request as it was before that, and so it has in place. -/
theorem Signer.last_signing_wins {s₁ s₂ : Signer} {around₁ around₂ around : Surroundings}
    {state₁ state₂ state : SigningState} (hprimitive : around.primitive = around₂.primitive)
    (hdate : (state.source.next around.now).1 = (state₂.source.next around₂.now).1) :
    (∀ r signed : Request, (s₁.sign around₁ state₁ r).1 = .ok signed →
      (s₂.sign around state signed).1 = (s₂.sign around₂ state₂ r).1) ∧
    (∀ (p signed : PreparedRequest) (headers : TransportHeaders), p.headers = some headers →
      TransportHeaders.Distinct headers → (p.sign s₁ around₁ state₁).1 = .ok signed →
        (signed.sign s₂ around state).1 = (p.sign s₂ around₂ state₂).1) :=
  ⟨fun _ _ h => sign_signed h hprimitive hdate,
    fun _ _ _ hp hd h => PreparedRequest.sign_signed hp hd h hprimitive hdate⟩

/-- A second account at a later date, over old headers in any case. -/
theorem Signer.last_signing_wins_stale :
    let s₁ : Signer := ⟨.text "a/b", [1, 2, 3]⟩
    let s₂ : Signer := ⟨.text "c", [4]⟩
    let state₁ : SigningState := ⟨.given [.text "now"], ⟨none, []⟩⟩
    let state₂ : SigningState := ⟨.given [.text "later"], ⟨none, []⟩⟩
    let r : Request := ⟨.get, .text "/Rest?x", ⟨[("X-EMC-Signature", "old"), ("x-emc-Meta", "a  b"),
      ("DATE", "then"), ("x-emc-signature", "older")]⟩, none⟩
    let p : PreparedRequest := ⟨.text "put", .text "http://h/Rest", some (TransportHeaders.ofList
      [("date", .text "then"), ("X-EMC-UID", .text "c"), ("Accept", .text "*/*")])⟩
    (∃ signed, (s₁.sign {} state₁ r).1 = .ok signed ∧
      (s₂.sign {} state₂ signed).1 = (s₂.sign {} state₂ r).1) ∧
    ∃ signed, (p.sign s₁ {} state₁).1 = .ok signed ∧
      (signed.sign s₂ {} state₂).1 = (p.sign s₂ {} state₂).1 := by
  intro s₁ s₂ state₁ state₂ r p
  obtain ⟨hrequest, hprepared⟩ :=
    @last_signing_wins s₁ s₂ {} {} {} state₁ state₂ state₂ rfl rfl
  refine ⟨⟨_, rfl, hrequest r _ rfl⟩, _, rfl, hprepared p _ _ rfl ?_ rfl⟩
  exact TransportHeaders.distinct_ofList _

end RequestSigning
