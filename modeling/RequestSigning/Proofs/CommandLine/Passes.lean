import RequestSigning.Proofs.CommandLine.Runs
import RequestSigning.Proofs.Signing.Records

/-!
# Passes of the sign command

Before it signs, the command reads the request, finds credentials, decodes the secret, takes a date
and builds the string to sign; each of these can fail, and then nothing is printed. What is left is
the signature of the string, and behind that nothing can fail. So the command is a pass and then the
primitive.
-/

namespace RequestSigning

theorem Credentials.ofEnvironment_eq_ok_iff {env : Environment} {c : Credentials} :
    ofEnvironment env = .ok c ↔
      (env.get uidVariable).isGiven = true ∧ (env.get secretVariable).isGiven = true ∧
        c = ⟨(env.get uidVariable).loose, (env.get secretVariable).loose⟩ := by
  unfold ofEnvironment Environment.missing
  cases huid : (env.get uidVariable).isGiven <;>
    cases hsecret : (env.get secretVariable).isGiven <;>
    simp [huid, hsecret, make_eq_ok_iff]

theorem SecretStore.load_eq_ok {s : SecretStore} {k : Keyring} {uid : String} {c : Credentials}
    (h : s.load k uid = .ok c) :
    ∃ secret, k.find? s.service uid = some secret ∧
      Credentials.make (.text uid) (.text secret) = .ok c := by
  unfold load at h
  cases hfault : k.faults.read with
  | some cause => simp [hfault] at h
  | none =>
    cases hfind : k.find? s.service uid with
    | none => simp [hfault, hfind] at h
    | some secret =>
      simp only [hfault, hfind] at h
      exact ⟨secret, rfl, h⟩

namespace CommandLine

variable {r : RequestArguments} {secret : Option String} {fromKeyring : Bool} {place : Place}

/-! ## Credentials -/

/-- Account and secret that are both among the arguments are the credentials. -/
theorem resolveCredentials_of_both {uid s : String} (huid : r.uid = some uid) :
    resolveCredentials r (some s) false place =
      (Credentials.make (.text uid) (.text s)).mapError .credential := by
  unfold resolveCredentials
  rw [huid]
  cases h : Credentials.make (.text uid) (.text s) <;> simp [h, Except.mapError]

/-- With one of the two missing the environment gives both. -/
theorem resolveCredentials_of_environment (h : r.uid = none ∨ secret = none) :
    resolveCredentials r secret false place =
      (Credentials.ofEnvironment place.environment).mapError .credential := by
  unfold resolveCredentials
  rcases h with h | h
  · rw [h]
    cases Credentials.ofEnvironment place.environment <;> rfl
  · subst h
    cases r.uid <;> cases Credentials.ofEnvironment place.environment <;> rfl

theorem resolveCredentials_of_keyring {uid : String} (huid : r.uid = some uid) :
    resolveCredentials r secret true place =
      (({} : SecretStore).load place.keyring uid).mapError .credential := by
  unfold resolveCredentials
  rw [huid]
  cases h : ({} : SecretStore).load place.keyring uid <;> simp [h, Except.mapError]

theorem mapError_eq_ok_iff {ε ε' α : Type} {f : ε → ε'} {x : Except ε α} {a : α} :
    x.mapError f = .ok a ↔ x = .ok a := by
  cases x <;> simp [Except.mapError]

/-- An account as the program finds it: it is given, and its texts have no half pairs. -/
def IsAccount (uid : Loose) : Prop := ∃ v : Value, uid = v.loose ∧ v.isGiven = true

theorem IsAccount.isGiven {uid : Loose} (h : IsAccount uid) : uid.isGiven = true := by
  obtain ⟨v, rfl, hgiven⟩ := h
  exact (Value.isGiven_loose v).trans hgiven

/-- Credentials come from one source, which gives none without an account. -/
theorem resolveCredentials_cases (r : RequestArguments) (secret : Option String)
    (fromKeyring : Bool) (place : Place) :
    resolveCredentials r secret fromKeyring place = .error (.invalid .keyringNeedsUid) ∨
      ∃ source : Except CredentialError Credentials,
        resolveCredentials r secret fromKeyring place = source.mapError .credential ∧
        ∀ c, source = .ok c → IsAccount c.uid := by
  have henvironment :
      ∀ c, Credentials.ofEnvironment place.environment = .ok c → IsAccount c.uid := by
    intro c hc
    obtain ⟨huid, -, rfl⟩ := Credentials.ofEnvironment_eq_ok_iff.1 hc
    exact ⟨_, rfl, huid⟩
  have hmade : ∀ (uid s : String) c, Credentials.make (.text uid) (.text s) = .ok c →
      IsAccount c.uid := by
    intro uid s c hc
    obtain ⟨huid, -, rfl⟩ := Credentials.make_eq_ok_iff.1 hc
    exact ⟨.text uid, rfl, (Value.isGiven_loose _).symm.trans huid⟩
  cases huid : r.uid with
  | none =>
    cases fromKeyring with
    | true =>
      apply Or.inl
      unfold resolveCredentials
      rw [huid]
    | false => exact Or.inr ⟨_, resolveCredentials_of_environment (.inl huid), henvironment⟩
  | some uid =>
    cases fromKeyring with
    | true =>
      refine Or.inr ⟨_, resolveCredentials_of_keyring huid, fun c hc => ?_⟩
      obtain ⟨s, -, hmake⟩ := SecretStore.load_eq_ok hc
      exact hmade _ _ c hmake
    | false =>
      cases secret with
      | none => exact Or.inr ⟨_, resolveCredentials_of_environment (.inr rfl), henvironment⟩
      | some s => exact Or.inr ⟨_, resolveCredentials_of_both huid, hmade _ _⟩

theorem isAccount_of_resolveCredentials {c : Credentials}
    (h : resolveCredentials r secret fromKeyring place = .ok c) : IsAccount c.uid := by
  rcases resolveCredentials_cases r secret fromKeyring place with hnone | ⟨source, hsource, hgiven⟩
  · rw [hnone] at h
    cases h
  · rw [hsource] at h
    exact hgiven c (mapError_eq_ok_iff.1 h)

/-! ## Passes -/

/-- What the primitive is handed, with the request and the account and date that it is stamped
with. -/
structure Pass where
  request : Request
  uid : String
  date : String
  key : List UInt8
  text : String

namespace Pass

/-- The pass over a request with these credentials, as far as it comes. -/
def make (request : Request) (c : Credentials) (date : Except Error String) : Except Error Pass :=
  match Secret.decode c.secret with
  | .error e => .error (.signing (.malformedKey e))
  | .ok key =>
    match c.uid, date with
    | .text t, .ok date =>
      let uid := t.toString
      (request.stamped uid date).stringToSign.map fun text => ⟨request, uid, date, key, text⟩
    | .text _, .error e => .error e
    | _, _ => .error (.invalid (.header (.valueNotText Header.uid)))

/-- The pass that the arguments ask for. -/
def of (r : RequestArguments) (secret : Option String) (fromKeyring : Bool) (place : Place) :
    Except Error Pass :=
  match r.toRequest with
  | .error e => .error e
  | .ok request =>
    match resolveCredentials r secret fromKeyring place with
    | .error e => .error e
    | .ok c => make request c (dateOf r place.around.now)

/-- What is printed once there is a signature: the string that was signed if it is to be shown, then
the three headers that signing adds. -/
def printed (p : Pass) (showString : Bool) (signature : String) : String :=
  (if showString then "String to sign:\n" ++ p.text ++ "\n\n" else "") ++
    String.join ["x-emc-uid: " ++ p.uid ++ "\n", "Date: " ++ p.date ++ "\n",
      "x-emc-signature: " ++ signature ++ "\n"]

end Pass

theorem signedText_signedAs (request : Request) (uid date signature : String) :
    signedText (request.signedAs uid date signature) =
      String.join ["x-emc-uid: " ++ uid ++ "\n", "Date: " ++ date ++ "\n",
        "x-emc-signature: " ++ signature ++ "\n"] := by
  unfold signedText
  simp only [List.map_cons, List.map_nil, Header.Multimap.getFirst?_eq_head?,
    Request.getAll_uid_signed, Request.getAll_date_signed, Request.getAll_signature_signed,
    List.head?_cons, Option.getD_some]
  rfl

theorem next_signingState (r : RequestArguments) (showString : Bool) (now : Date.Instant) :
    ((signingState r showString).source.next now).1 = (dateOf r now).map .text := by
  unfold signingState dateOf
  cases r.date with
  | some d => rfl
  | none =>
    change (DateSource.clock.next now).1 = _
    unfold DateSource.next
    cases Date.httpDate now <;> rfl

namespace Pass

theorem printed_false (p : Pass) (signature : String) :
    p.printed false signature = String.join ["x-emc-uid: " ++ p.uid ++ "\n",
      "Date: " ++ p.date ++ "\n", "x-emc-signature: " ++ signature ++ "\n"] :=
  String.empty_append

theorem make_eq_ok_iff {request : Request} {c : Credentials} {date : Except Error String}
    {p : Pass} :
    make request c date = .ok p ↔
      p.request = request ∧ (∃ t, c.uid = .text t ∧ t.toString = p.uid) ∧
        Secret.decode c.secret = .ok p.key ∧ date = .ok p.date ∧
        (request.stamped p.uid p.date).stringToSign = .ok p.text := by
  obtain ⟨request', uid', date', key', text'⟩ := p
  unfold make
  cases hkey : Secret.decode c.secret with
  | error e => simp
  | ok key =>
    cases huid : c.uid with
    | text t =>
      cases date with
      | error e => simp
      | ok date =>
        constructor
        · intro h
          cases htext : (request.stamped t.toString date).stringToSign with
          | error e => simp [htext, Except.map] at h
          | ok text =>
            simp only [htext, Except.map, Except.ok.injEq, mk.injEq] at h
            obtain ⟨rfl, rfl, rfl, rfl, rfl⟩ := h
            exact ⟨rfl, ⟨t, rfl, rfl⟩, rfl, rfl, htext⟩
        · rintro ⟨rfl, ⟨t', hu, rfl⟩, hk, hd, htext⟩
          cases hu
          cases hk
          cases hd
          simp only [htext, Except.map]
    | _ => simp

theorem uid_of_make {request : Request} {c : Credentials} {date : Except Error String} {p : Pass}
    (haccount : IsAccount c.uid) (h : make request c date = .ok p) : c.uid = .text p.uid := by
  obtain ⟨-, ⟨t, huid, ht⟩, -⟩ := make_eq_ok_iff.1 h
  obtain ⟨v, hv, -⟩ := haccount
  obtain ⟨uid, -, rfl⟩ := Value.loose_eq_text_iff.1 (hv.symm.trans huid)
  rw [huid, ← ht, Json.Text.toString_ofString]

theorem of_eq_ok_iff {p : Pass} :
    of r secret fromKeyring place = .ok p ↔
      ∃ c, r.toRequest = .ok p.request ∧ resolveCredentials r secret fromKeyring place = .ok c ∧
        make p.request c (dateOf r place.around.now) = .ok p := by
  unfold of
  constructor
  · intro h
    cases hrequest : r.toRequest with
    | error e => simp [hrequest] at h
    | ok request =>
      cases hcredentials : resolveCredentials r secret fromKeyring place with
      | error e => simp [hrequest, hcredentials] at h
      | ok c =>
        simp only [hrequest, hcredentials] at h
        obtain rfl := (make_eq_ok_iff.1 h).1
        exact ⟨c, rfl, rfl, h⟩
  · rintro ⟨c, hrequest, hcredentials, h⟩
    simp only [hrequest, hcredentials]
    exact h

end Pass

/-- Signing in terms of the pass: only the primitive stands between the pass and a signed
request. -/
theorem sign_eq_make (request : Request) {c : Credentials} (haccount : IsAccount c.uid)
    {key : List UInt8} (hkey : Secret.decode c.secret = .ok key) (r : RequestArguments)
    (showString : Bool) (around : Surroundings) :
    ((⟨c.uid, key⟩ : Signer).sign around (signingState r showString) request).1 =
      match Pass.make request c (dateOf r around.now) with
      | .error e => .error e
      | .ok p => (signText around.primitive p.key p.text).map (request.signedAs p.uid p.date) := by
  rw [Signer.sign_result, next_signingState]
  -- Both sides look at account and date in the same order, and then at the string to sign.
  unfold Pass.make
  rw [hkey]
  cases huid : c.uid with
  | text t =>
    cases hdate : dateOf r around.now with
    | error e => rfl
    | ok date =>
      obtain ⟨v, hv, -⟩ := haccount
      obtain ⟨uid, -, rfl⟩ := Value.loose_eq_text_iff.1 (hv.symm.trans huid)
      simp only [Except.map, Json.Text.toString_ofString,
        Signer.passSignature_of_text (s := ⟨.text uid, key⟩) rfl]
      unfold Request.withSignature
      rw [Request.remove_signature_stamped]
      cases htext : (request.stamped uid date).stringToSign <;> rfl
  | _ => rfl

/-- A wire with room shows the string to sign that was recorded. -/
theorem wireText_recorded (text signature : String) :
    wireText (some ((⟨true, 1000, [], 0⟩ : Wire).recordAll
        [⟨.output, text⟩, ⟨.input, signature⟩])) =
      "String to sign:\n" ++ text ++ "\n\n" := by
  simp [wireText, Wire.recordAll, Wire.record]

/-- What the command prints when the signer has returned: the string if it is shown, and the
headers. -/
theorem map_printed_sign (request : Request) {c : Credentials} (haccount : IsAccount c.uid)
    {key : List UInt8} (hkey : Secret.decode c.secret = .ok key) (r : RequestArguments)
    (showString : Bool) (around : Surroundings) :
    let outcome := (⟨c.uid, key⟩ : Signer).sign around (signingState r showString) request
    (outcome.1.map fun signed =>
        (if showString then wireText outcome.2.trace.wire else "") ++ signedText signed) =
      match Pass.make request c (dateOf r around.now) with
      | .error e => .error e
      | .ok p => (signText around.primitive p.key p.text).map (p.printed showString) := by
  intro outcome
  have hsign : outcome.1 = _ := sign_eq_make request haccount hkey r showString around
  cases hpass : Pass.make request c (dateOf r around.now) with
  | error e =>
    rw [hsign, hpass]
    rfl
  | ok p =>
    rw [hpass] at hsign
    dsimp only at hsign ⊢
    cases hsignature : signText around.primitive p.key p.text with
    | error e =>
      rw [hsign, hsignature]
      rfl
    | ok signature =>
      rw [hsignature] at hsign
      obtain ⟨text, _, htext, _, hwire⟩ := Signer.wire_sign_of_ok hsign
      obtain ⟨-, -, -, -, hstring⟩ := Pass.make_eq_ok_iff.1 hpass
      rw [Request.unsigned_push_signature, hstring] at htext
      cases htext
      change Except.map _ outcome.1 = .ok (p.printed showString signature)
      rw [hsign]
      change Except.ok ((if showString then wireText outcome.2.trace.wire else "") ++
        signedText (request.signedAs p.uid p.date signature)) = _
      rw [signedText_signedAs]
      cases showString with
      | false => rfl
      | true =>
        rw [if_pos rfl, hwire]
        exact congrArg (fun shown => Except.ok (shown ++ _)) (wireText_recorded _ _)

/-- The sign command is a pass and then the primitive, and prints nothing before the signature is
there. -/
theorem printSigned_eq (r : RequestArguments) (secret : Option String)
    (fromKeyring showString : Bool) (place : Place) :
    (printSigned r secret fromKeyring showString place).1 =
      match Pass.of r secret fromKeyring place with
      | .error e => .error e
      | .ok p => (signText place.around.primitive p.key p.text).map (p.printed showString) := by
  unfold printSigned Pass.of
  cases r.toRequest with
  | error e => rfl
  | ok request =>
    dsimp only
    cases hcredentials : resolveCredentials r secret fromKeyring place with
    | error e => rfl
    | ok c =>
      have haccount := isAccount_of_resolveCredentials hcredentials
      dsimp only
      rw [SigningConfig.ofCredentials_eq haccount.isGiven]
      cases hkey : Secret.decode c.secret with
      | error e => simp only [Pass.make, hkey]
      | ok key =>
        dsimp only
        rw [Signer.ofConfig_of_key (Secret.decode_ne_nil hkey)]
        exact map_printed_sign request haccount hkey r showString place.around

theorem printSigned_eq_ok_iff {showString : Bool} {out : String} :
    (printSigned r secret fromKeyring showString place).1 = .ok out ↔
      ∃ p signature, Pass.of r secret fromKeyring place = .ok p ∧
        signText place.around.primitive p.key p.text = .ok signature ∧
        out = p.printed showString signature := by
  rw [printSigned_eq]
  cases Pass.of r secret fromKeyring place with
  | error e => simp
  | ok p =>
    cases hsignature : signText place.around.primitive p.key p.text <;>
      simp [hsignature, Except.map, eq_comm]

end CommandLine

end RequestSigning
