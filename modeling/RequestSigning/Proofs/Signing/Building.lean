import Mathlib.Data.List.Induction
import RequestSigning.Error.Report
import RequestSigning.Signing.Signer

/-!
# Building configurations

A builder is set part by part, in any order and as often as one likes. What it builds depends on
nothing but the parts that were set last, where a secret that cannot be decoded sets nothing, and a
signer is made of everything that it builds.
-/

namespace RequestSigning

theorem Secret.decode_ne_nil {secret : Loose} {key : List UInt8} (h : decode secret = .ok key) :
    key ≠ [] := by
  unfold decode at h
  cases secret with
  | text s => exact decodeText_ne_nil h
  | _ => cases h

theorem Signer.ofConfig_of_key {config : SigningConfig} (hkey : config.key ≠ []) :
    ofConfig config = .ok ⟨config.uid, config.key⟩ := by
  unfold ofConfig
  cases hbytes : config.key with
  | nil => exact absurd hbytes hkey
  | cons first rest => rfl

namespace SigningConfigBuilder

variable {b : SigningConfigBuilder}

/-! ## What is built of four parts -/

theorem build_of_uid (huid : ¬ b.uid.isGiven = true) : b.build = .error .uidRequired := by
  unfold build
  rw [if_pos (by simpa using huid)]

theorem build_of_no_key (huid : b.uid.isGiven = true) (hkey : b.key = .other .null) :
    b.build = .error .secretRequired := by
  simp [build, huid, hkey, checkKey]

theorem checkKey_of_malformed {k : KeyGiven} (hset : k ≠ .other .null)
    (hbytes : ∀ key, k = .bytes key → key = []) :
    checkKey k = .error (.malformedKey .notBytes) := by
  cases k with
  | bytes key =>
    obtain rfl := hbytes key rfl
    rfl
  | other v =>
    cases v with
    | null => exact absurd rfl hset
    | _ => rfl

theorem build_of_malformed_key (huid : b.uid.isGiven = true) (hset : b.key ≠ .other .null)
    (hbytes : ∀ key, b.key = .bytes key → key = []) :
    b.build = .error (.malformedKey .notBytes) := by
  simp [build, huid, checkKey_of_malformed hset hbytes]

theorem checkKey_bytes {key : List UInt8} (hkey : key ≠ []) : checkKey (.bytes key) = .ok key := by
  cases key with
  | nil => exact absurd rfl hkey
  | cons first rest => rfl

theorem build_of_no_source {key : List UInt8} {v : Value} (huid : b.uid.isGiven = true)
    (hkey : b.key = .bytes key) (hne : key ≠ []) (hprovider : b.provider = .other v) :
    b.build = .error (.invalidConfig .providerNotCallable) := by
  simp [build, huid, hkey, checkKey_bytes hne, SigningConfig.make, hprovider]

theorem build_of_parts {key : List UInt8} {source : DateSource} (huid : b.uid.isGiven = true)
    (hkey : b.key = .bytes key) (hne : key ≠ []) (hprovider : b.provider = .source source) :
    b.build = .ok ⟨b.uid, key, source, b.wire⟩ := by
  simp [build, huid, hkey, checkKey_bytes hne, SigningConfig.make, hprovider]

end SigningConfigBuilder

/-! ## Configurations of credentials -/

theorem Credentials.make_eq_ok_iff {uid secret : Loose} {c : Credentials} :
    make uid secret = .ok c ↔ uid.isGiven = true ∧ secret.isGiven = true ∧ c = ⟨uid, secret⟩ := by
  unfold make
  cases uid.isGiven <;> cases secret.isGiven <;> simp [eq_comm]

theorem SigningConfig.ofCredentials_eq {c : Credentials} (huid : c.uid.isGiven = true)
    (source : Option DateSource) (wire : Option Wire) :
    ofCredentials c source wire =
      match Secret.decode c.secret with
      | .error e => .error (.malformedKey e)
      | .ok key => .ok ⟨c.uid, key, source.getD .clock, wire⟩ := by
  unfold ofCredentials SigningConfigBuilder.setEncodedKey
  cases hkey : Secret.decode c.secret with
  | error e => rfl
  | ok key => exact SigningConfigBuilder.build_of_parts huid rfl (Secret.decode_ne_nil hkey) rfl

namespace SigningConfigBuilder

/-! ## Runs of a builder -/

inductive Call
  | uid (v : Loose)
  | encodedKey (secret : Loose)
  | key (k : KeyGiven)
  | provider (p : Provider)
  | wire (w : Option Wire)
  | build

/-- What a call returns, nothing unless it builds, and the builder after it. -/
def call (b : SigningConfigBuilder) :
    Call → Except SigningError (Option SigningConfig) × SigningConfigBuilder
  | .uid v => (.ok none, b.setUid v)
  | .encodedKey secret =>
    match b.setEncodedKey secret with
    | .ok b' => (.ok none, b')
    | .error e => (.error e, b)
  | .key k => (.ok none, b.setKey k)
  | .provider p => (.ok none, b.setProvider p)
  | .wire w => (.ok none, b.setWire w)
  | .build => (b.build.map some, b)

def after (b : SigningConfigBuilder) (c : Call) : SigningConfigBuilder := (b.call c).2

def run (b : SigningConfigBuilder) (calls : List Call) : SigningConfigBuilder := calls.foldl after b

/-- What the calls of a run return. -/
def outcomes (b : SigningConfigBuilder) :
    List Call → List (Except SigningError (Option SigningConfig))
  | [] => []
  | c :: rest => (b.call c).1 :: (b.after c).outcomes rest

theorem run_append (b : SigningConfigBuilder) (calls later : List Call) :
    b.run (calls ++ later) = (b.run calls).run later := List.foldl_append

theorem outcomes_append (b : SigningConfigBuilder) (calls later : List Call) :
    b.outcomes (calls ++ later) = b.outcomes calls ++ (b.run calls).outcomes later := by
  induction calls generalizing b with
  | nil => rfl
  | cons c rest ih => exact congrArg (_ :: ·) (ih _)

theorem length_outcomes (b : SigningConfigBuilder) (calls : List Call) :
    (b.outcomes calls).length = calls.length := by
  induction calls generalizing b with
  | nil => rfl
  | cons c rest ih => exact congrArg (· + 1) (ih _)

theorem outcomes_getElem?_build (b : SigningConfigBuilder) (calls later : List Call) :
    (b.outcomes (calls ++ .build :: later))[calls.length]? =
      some ((b.run calls).build.map some) := by
  rw [outcomes_append, List.getElem?_append_right (Nat.le_of_eq (b.length_outcomes calls)),
    length_outcomes, Nat.sub_self]
  rfl

/-! ## The parts that were set last -/

namespace Call

def uid? : Call → Option Loose
  | uid v => some v
  | _ => none

/-- The key that a call stores; a secret that cannot be decoded gives none. -/
def key? : Call → Option KeyGiven
  | key k => some k
  | encodedKey secret => (Secret.decode secret).toOption.map .bytes
  | _ => none

def provider? : Call → Option Provider
  | provider p => some p
  | _ => none

def wire? : Call → Option (Option Wire)
  | wire w => some w
  | _ => none

/-- The part that the last call with such a part sets. -/
def last? {α : Type} (part : Call → Option α) (calls : List Call) : Option α :=
  (calls.filterMap part).getLast?

theorem last?_concat {α : Type} (part : Call → Option α) (calls : List Call) (c : Call) :
    last? part (calls ++ [c]) = (part c).or (last? part calls) := by
  unfold last?
  rw [List.filterMap_append]
  cases hc : part c with
  | none => simp [hc]
  | some a => simp [hc]

end Call

/-- The builder with the parts that were set last, those never set being as they are at the
start. -/
def ofLast (calls : List Call) : SigningConfigBuilder :=
  { uid := (Call.last? Call.uid? calls).getD .null
    key := (Call.last? Call.key? calls).getD (.other .null)
    provider := (Call.last? Call.provider? calls).getD (.source .clock)
    wire := (Call.last? Call.wire? calls).getD none }

theorem after_ofLast (calls : List Call) (c : Call) :
    (ofLast calls).after c = ofLast (calls ++ [c]) := by
  unfold ofLast
  simp only [Call.last?_concat]
  -- Each call sets its own part and no other; only a secret may set none.
  cases c with
  | encodedKey secret =>
    cases hkey : Secret.decode secret <;>
      simp [after, call, setEncodedKey, hkey, Call.uid?, Call.key?, Call.provider?, Call.wire?,
        Except.toOption]
  | _ => rfl

/-- A run leaves nothing behind but the parts that were set last. -/
theorem run_eq_ofLast (calls : List Call) : run {} calls = ofLast calls := by
  induction calls using List.reverseRecOn with
  | nil => rfl
  | append_singleton rest c ih =>
    rw [run_append, ih]
    exact after_ofLast rest c

/-- The family and the code with which a call is refused. -/
def refusal? {α : Type} : Except SigningError α → Option (Family × String)
  | .error e => some (e.family, e.code)
  | .ok _ => none

/-- A builder builds the parts that were set last, or tells the first of them that is missing or
wrong: account, key, source of dates. It stays as it is then, and so it does when a secret cannot be
decoded. -/
theorem builds_what_was_set_last (calls later : List Call) :
    let last := ofLast calls
    (∃ outcome, (outcomes {} (calls ++ .build :: later))[calls.length]? = some outcome ∧
      (outcomes {} (calls ++ .build :: .build :: later))[calls.length + 1]? = some outcome ∧
      (last.uid.isGiven = false → refusal? outcome = some (.signing, "INVALID_UID")) ∧
      (last.uid.isGiven = true → last.key = .other .null →
        refusal? outcome = some (.signing, "INVALID_CONFIG")) ∧
      (last.uid.isGiven = true → last.key ≠ .other .null →
        (∀ key, last.key = .bytes key → key = []) →
        refusal? outcome = some (.malformedKey, "INVALID_SECRET_KEY")) ∧
      ∀ key, last.uid.isGiven = true → last.key = .bytes key → key ≠ [] →
        (∀ v, last.provider = .other v → refusal? outcome = some (.signing, "INVALID_CONFIG")) ∧
        ∀ source, last.provider = .source source →
          outcome = .ok (some ⟨last.uid, key, source, last.wire⟩) ∧
          Signer.ofConfig ⟨last.uid, key, source, last.wire⟩ = .ok ⟨last.uid, key⟩) ∧
    run {} (calls ++ [.build]) = run {} calls ∧
    ∀ secret fault, Secret.decode secret = .error fault →
      (run {} calls).call (.encodedKey secret) = (.error (.malformedKey fault), run {} calls) := by
  intro last
  have hrun : run {} calls = last := run_eq_ofLast calls
  have hbuild : run {} (calls ++ [.build]) = run {} calls := run_append _ _ _
  refine ⟨⟨last.build.map some, ?_, ?_, ?_, ?_, ?_, ?_⟩, hbuild, ?_⟩
  · rw [outcomes_getElem?_build, hrun]
  · have hsecond := outcomes_getElem?_build {} (calls ++ [.build]) later
    rw [hbuild, hrun, List.length_append, List.append_assoc] at hsecond
    exact hsecond
  · intro huid
    rw [build_of_uid (by simp [huid])]
    rfl
  · intro huid hkey
    rw [build_of_no_key huid hkey]
    rfl
  · intro huid hset hbytes
    rw [build_of_malformed_key huid hset hbytes]
    rfl
  · intro key huid hkey hne
    refine ⟨fun v hprovider => ?_, fun source hprovider => ⟨?_, Signer.ofConfig_of_key hne⟩⟩
    · rw [build_of_no_source huid hkey hne hprovider]
      rfl
    · rw [build_of_parts huid hkey hne hprovider]
      rfl
  · intro secret fault hfault
    simp [call, setEncodedKey, hfault]

/-- A key that cannot be decoded and a source that is none do no harm once other parts are set. -/
theorem builds_what_was_set_last_over_failed_key :
    let calls : List Call := [.encodedKey "AQID", .build, .uid "a", .provider (.other (.int 0)),
      .encodedKey "?", .build, .uid "b", .provider (.source (.given ["d"]))]
    (outcomes {} (calls ++ [.build]))[8]? =
        some (.ok (some ⟨.text "b", [1, 2, 3], .given [.text "d"], none⟩)) ∧
      Signer.ofConfig ⟨.text "b", [1, 2, 3], .given [.text "d"], none⟩ =
        .ok ⟨.text "b", [1, 2, 3]⟩ := by
  intro calls
  have hkey : (ofLast calls).key = .bytes [1, 2, 3] := by rfl
  obtain ⟨⟨outcome, houtcome, -, -, -, -, hbuilt⟩, -⟩ := builds_what_was_set_last calls []
  obtain ⟨rfl, hsigner⟩ := (hbuilt [1, 2, 3] rfl hkey (by decide)).2 _ rfl
  exact ⟨houtcome, hsigner⟩

end SigningConfigBuilder

end RequestSigning
