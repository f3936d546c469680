import RequestSigning.Proofs.Request.Lines
import RequestSigning.Proofs.Signing.Stamping

/-!
# Signed requests verify

A verifier takes the signatures out of a request, builds the string to sign again and signs it. For
a request that signing has returned this gives the signature that the request carries.
-/

namespace RequestSigning

theorem signText_eq_ok_iff {primitive : Digest.Primitive} {key : List UInt8}
    {text signature : String} :
    signText primitive key text = .ok signature ↔
      primitive = .works ∧ signature = Digest.signature key text := by
  cases primitive with
  | works =>
    constructor
    · intro h
      exact ⟨rfl, (Except.ok.inj h).symm⟩
    · rintro ⟨_, rfl⟩
      rfl
  | fails fault => exact ⟨fun h => (by cases h), fun h => (by cases h.1)⟩
  | interrupted step => exact ⟨fun h => (by cases h), fun h => (by cases h.1)⟩

namespace Request

theorem withSignature_eq_ok_iff {sign : String → Except Error String} {r signed : Request} :
    r.withSignature sign = .ok signed ↔
      ∃ text signature, r.stringToSign = .ok text ∧ sign text = .ok signature ∧
        signed = r.withHeaders
          ((r.headers.remove Header.signature).push Header.signature signature) := by
  unfold withSignature
  cases hr : r.stringToSign with
  | error e => simp
  | ok text =>
    cases hs : sign text with
    | error e => simp [Except.map, hs]
    | ok signature => simp [Except.map, hs, eq_comm]

/-- The stamped request has no signature, so nothing but a new one is added to it. -/
theorem remove_signature_stamped (r : Request) (uid date : String) :
    (r.stamped uid date).headers.remove Header.signature = (r.stamped uid date).headers := by
  apply Header.Multimap.remove_eq_self
  rw [getAll_stamped]
  simp [Header.sameName]

theorem unsigned_push_signature (r : Request) (uid date signature : String) :
    (r.signedAs uid date signature).unsigned = r.stamped uid date := by
  unfold unsigned
  change (r.stamped uid date).withHeaders
    (((r.stamped uid date).headers.push Header.signature signature).remove Header.signature) = _
  rw [Header.Multimap.remove_push_self, remove_signature_stamped]
  rfl

end Request

theorem getAll_signed (r : Request) (uid date signature name : String) :
    (r.signedAs uid date signature).headers.getAll name =
      if Header.sameName Header.signature name then [signature]
      else if Header.sameName Header.date name then [date]
      else if Header.sameName Header.uid name then [uid]
      else r.headers.getAll name := by
  change ((r.stamped uid date).headers.push Header.signature signature).getAll name = _
  rw [Header.Multimap.getAll_push, Request.getAll_stamped]
  by_cases h : Header.sameName Header.signature name = true
  · have hname : "x-emc-signature" = Text.lower name := Header.sameName_iff.1 h
    simp [Header.sameName, ← hname]
  · simp [h]

namespace Request

@[simp] theorem getAll_uid_signed (r : Request) (uid date signature : String) :
    (r.signedAs uid date signature).headers.getAll Header.uid = [uid] := by
  rw [getAll_signed]
  simp [Header.sameName]

@[simp] theorem getAll_date_signed (r : Request) (uid date signature : String) :
    (r.signedAs uid date signature).headers.getAll Header.date = [date] := by
  rw [getAll_signed]
  simp [Header.sameName]

@[simp] theorem getAll_signature_signed (r : Request) (uid date signature : String) :
    (r.signedAs uid date signature).headers.getAll Header.signature = [signature] := by
  rw [getAll_signed]
  simp [Header.sameName]

end Request

theorem refuseFeed_ne_ok (primitive : Digest.Primitive) (fault : Digest.Fault)
    (signature : String) :
    refuseFeed primitive fault ≠ .ok signature := by
  unfold refuseFeed
  split <;> nofun

/-- The stamped request has a string to sign once the request has a path and a text as its content
type. -/
theorem Request.exists_stringToSign_stamped {r : Request} {date path : String}
    (hcontent : r.HasTextContentType) (hpath : r.path = .ok path) (hdate : date ≠ "")
    (uid : String) : ∃ text, (r.stamped uid date).stringToSign = .ok text := by
  have hfirst : (r.stamped uid date).headers.getFirst? Header.date = some date := by
    rw [Header.Multimap.getFirst?_eq_head?, getAll_stamped]
    simp [Header.sameName]
  exact ⟨_, stringToSign_eq_ok_iff.2 ⟨hcontent, date, path, hfirst, hdate, hpath, rfl⟩⟩

namespace Signer

/-- What signs refuses an account with half a pair. -/
theorem passSignature_of_half {s : Signer} {uid : Json.Text} (huid : s.uid = .text uid)
    (hhalf : uid.half? ≠ none) (around : Surroundings) (r : Request) (date text : String) :
    ∃ u, s.passSignature around r uid date text =
      refuseFeed around.primitive (unencodableFault u) := by
  obtain ⟨half, hhalf⟩ := Option.ne_none_iff_exists'.1 hhalf
  unfold passSignature Signer.signature
  rw [huid]
  dsimp only
  rw [hhalf]
  exact ⟨_, rfl⟩

/-- Only an account without halves of pairs is encoded. -/
theorem passSignature_eq_ok_iff {s : Signer} {around : Surroundings} {uid : Json.Text} {r : Request}
    {date text signature : String} (huid : s.uid = .text uid) :
    s.passSignature around r uid date text = .ok signature ↔
      uid.half? = none ∧ signText around.primitive s.key text = .ok signature := by
  by_cases hhalf : uid.half? = none
  · rw [passSignature, signature_of_whole huid hhalf, and_iff_right hhalf]
  · obtain ⟨u, hrefused⟩ := passSignature_of_half huid hhalf around r date text
    rw [hrefused]
    exact iff_of_false (refuseFeed_ne_ok _ _ _) fun h => hhalf h.1

/-- Signing succeeds exactly with an account and a date that are texts, a string to sign and a
primitive that works. -/
theorem sign_eq_ok_iff {s : Signer} {around : Surroundings} {state : SigningState}
    {r signed : Request} :
    (s.sign around state r).1 = .ok signed ↔
      ∃ uid date text signature : String, s.uid = .text uid ∧
        (state.source.next around.now).1 = .ok (.text date) ∧
        (r.stamped uid date).stringToSign = .ok text ∧
        signText around.primitive s.key text = .ok signature ∧
        signed = r.signedAs uid date signature := by
  rw [sign_result]
  constructor
  · intro h
    split at h
    · next uid date hu hd =>
      obtain ⟨text, signature, htext, hsign, rfl⟩ := Request.withSignature_eq_ok_iff.1 h
      obtain ⟨hwhole, hsign⟩ := (passSignature_eq_ok_iff hu).1 hsign
      rw [Request.remove_signature_stamped]
      exact ⟨uid.toString, date, text, signature,
        hu.trans (congrArg _ (Json.Text.ofString_toString hwhole).symm), hd, htext, hsign, rfl⟩
    all_goals cases h
  · rintro ⟨uid, date, text, signature, hu, hd, htext, hsign, rfl⟩
    rw [hu, hd]
    dsimp only
    rw [Json.Text.toString_ofString, passSignature_of_text hu]
    apply Request.withSignature_eq_ok_iff.2
    rw [Request.remove_signature_stamped]
    exact ⟨text, signature, htext, hsign, rfl⟩

/-- A request with a path and a text as its content type is signed once account and date are
texts. -/
theorem sign_of_texts {s : Signer} {around : Surroundings} {state : SigningState} {r : Request}
    {uid date path : String} (huid : s.uid = .text uid) (hcontent : r.HasTextContentType)
    (hpath : r.path = .ok path) (hnext : (state.source.next around.now).1 = .ok (.text date))
    (hdate : date ≠ "") (hworks : around.primitive = .works) :
    ∃ text, (r.stamped uid date).stringToSign = .ok text ∧
      (s.sign around state r).1 = .ok (r.signedAs uid date (Digest.signature s.key text)) := by
  obtain ⟨text, htext⟩ := Request.exists_stringToSign_stamped hcontent hpath hdate uid
  exact ⟨text, htext, sign_eq_ok_iff.2
    ⟨uid, date, text, _, huid, hnext, htext, signText_eq_ok_iff.2 ⟨hworks, rfl⟩, rfl⟩⟩

/-- Nothing is signed for an account with half a pair. -/
theorem sign_ne_ok_of_half {s : Signer} {uid : Json.Text} (huid : s.uid = .text uid)
    (hhalf : uid.half? ≠ none) (around : Surroundings) (state : SigningState) (r signed : Request) :
    (s.sign around state r).1 ≠ .ok signed := by
  intro h
  obtain ⟨whole, _, _, _, hwhole, -⟩ := sign_eq_ok_iff.1 h
  obtain rfl : uid = .ofString whole := Data.text.inj (huid.symm.trans hwhole)
  exact hhalf (Json.Text.half?_ofString whole)

/-- A request that a text would be signed for fails with an account that cannot be encoded. -/
theorem sign_of_half {s : Signer} {around : Surroundings} {state : SigningState} {r : Request}
    {uid : Json.Text} {date path : String} (huid : s.uid = .text uid) (hhalf : uid.half? ≠ none)
    (hcontent : r.HasTextContentType) (hpath : r.path = .ok path)
    (hnext : (state.source.next around.now).1 = .ok (.text date)) (hdate : date ≠ "")
    (hworks : around.primitive = .works) :
    ∃ u, (s.sign around state r).1 = .error (.signing (.failed (unencodableFault u))) := by
  obtain ⟨text, htext⟩ := Request.exists_stringToSign_stamped hcontent hpath hdate uid.toString
  obtain ⟨u, hrefused⟩ := passSignature_of_half huid hhalf around r date text
  rw [hworks] at hrefused
  refine ⟨u, ?_⟩
  rw [sign_result, huid, hnext]
  dsimp only [Request.withSignature]
  rw [htext]
  dsimp only
  rw [hrefused]
  rfl

/-- An account that is no text is told at the first header that is set. -/
theorem sign_of_uid_not_text {s : Signer} (huid : ∀ uid, s.uid ≠ .text uid) (around : Surroundings)
    (state : SigningState) (r : Request) :
    (s.sign around state r).1 = .error (.invalid (.header (.valueNotText Header.uid))) := by
  rw [sign_result]
  cases h : s.uid with
  | text uid => exact absurd h (huid uid)
  | _ => rfl

/-- A signed request is the given one up to the three headers that signing owns, and its signature
is the one of the string to sign that it has without signatures. -/
theorem sign_verifies {s : Signer} {around : Surroundings} {state : SigningState}
    {r signed : Request} (h : (s.sign around state r).1 = .ok signed) :
    signed.method = r.method ∧ signed.endpoint = r.endpoint ∧ signed.payload = r.payload ∧
      ∃ uid date text signature : String, s.uid = .text uid ∧
        (state.source.next around.now).1 = .ok (.text date) ∧
        signed.headers.entries =
          (r.headers.entries.filter fun e =>
            Text.lower e.1 ∉ ["x-emc-signature", "x-emc-uid", "date"])
            ++ [("x-emc-uid", uid), ("Date", date), ("x-emc-signature", signature)] ∧
        signed.unsigned.stringToSign = .ok text ∧
        signText around.primitive s.key text = .ok signature ∧
        signature = Digest.signature s.key text := by
  obtain ⟨uid, date, text, signature, hu, hd, htext, hsign, rfl⟩ := sign_eq_ok_iff.1 h
  refine ⟨rfl, rfl, rfl, uid, date, text, signature, hu, hd, ?_, ?_, hsign, ?_⟩
  · change (r.stamped uid date).headers.entries ++ [(Header.signature, signature)] = _
    rw [Request.entries_stamped, List.append_assoc]
    rfl
  · rw [Request.unsigned_push_signature]
    exact htext
  · exact (signText_eq_ok_iff.1 hsign).2

/-- Stale signatures, accounts and dates in any case give way, and the rest stays as it was. -/
theorem sign_verifies_stale :
    let s : Signer := ⟨.text "a/b", [1, 2, 3]⟩
    let state : SigningState := ⟨.given [.text "now"], ⟨none, []⟩⟩
    let r : Request := ⟨.get, .text "/Rest?x", ⟨[("X-EMC-Signature", "old"), ("x-emc-Meta", "a  b"),
      ("DATE", "then"), ("X-Emc-Uid", "c"), ("date", "before"),
      ("x-emc-signature", "older")]⟩, none⟩
    ∃ signed, (s.sign {} state r).1 = .ok signed ∧ ∃ text signature,
      signed.headers.entries = [("x-emc-Meta", "a  b"), ("x-emc-uid", "a/b"), ("Date", "now"),
        ("x-emc-signature", signature)] ∧
      signed.unsigned.stringToSign = .ok text ∧ signature = Digest.signature [1, 2, 3] text := by
  intro s state r
  have htext : (r.stamped "a/b" "now").stringToSign =
      .ok "GET\n\n\nnow\n/rest\nx-emc-meta:a b\nx-emc-uid:a/b" :=
    Request.stringToSign_eq_ok_iff.2
      ⟨fun h => (by cases h), "now", "/Rest", rfl, by decide, rfl, by decide +kernel⟩
  have h : (s.sign {} state r).1 = .ok _ :=
    sign_eq_ok_iff.2 ⟨"a/b", "now", _, _, rfl, rfl, htext, rfl, rfl⟩
  refine ⟨_, h, ?_⟩
  obtain ⟨_, _, _, _, _, text, signature, hu, hd, hentries, htext, _, hsign⟩ := sign_verifies h
  obtain rfl := Json.Text.ofString_inj.1 (Data.text.inj hu)
  cases hd
  refine ⟨text, signature, ?_, htext, hsign⟩
  rw [hentries]
  rfl

end Signer

end RequestSigning
