import RequestSigning.Config.Client
import RequestSigning.Proofs.Signing.Building
import RequestSigning.Proofs.Signing.Verification

/-!
# Clients that can sign

A client is loaded from a document and then converted for signing. Loading checks endpoint, level
and the presence of account and secret, conversion decodes the secret. What the account is, is
checked by neither: with one that is no text, or a text with half a pair, a client is loaded and
converted, and then signs nothing.
-/

namespace RequestSigning

/-! ## Fields of a document -/

theorem Json.find?_toEntries (key : Json.Text) (entries : List (Json.Text × Json)) :
    Loose.find? key (toValue.toEntries entries) = (find? key entries).map toValue := by
  induction entries with
  | nil => rfl
  | cons e rest ih =>
    unfold toValue.toEntries Loose.find? find?
    rw [ih, apply_ite (Option.map toValue)]
    rfl

/-- Only a text without half a pair has a text without one as its upper case. -/
theorem Json.Text.upper_eq_ofString_iff {t : Json.Text} {u : String} :
    t.upper = ofString u ↔ ∃ s, t = ofString s ∧ RequestSigning.Text.upper s = u := by
  constructor
  · intro h
    have hwhole : t.half? = none := by
      rw [half?, List.find?_eq_none]
      intro s hs hhalf
      have hmem : s ∈ t.upper := by
        refine List.mem_flatMap.2 ⟨s, hs, ?_⟩
        cases s with
        | char c => cases hhalf
        | surrogate offset => exact List.mem_singleton_self _
      rw [h] at hmem
      exact List.find?_eq_none.1 (half?_ofString u) s hmem hhalf
    refine ⟨t.toString, (ofString_toString hwhole).symm, ?_⟩
    rwa [← ofString_toString hwhole, upper_ofString, ofString_inj] at h
  · rintro ⟨s, rfl, rfl⟩
    exact upper_ofString s

theorem bind_eq_ok_iff {ε α β : Type} {x : Except ε α} {f : α → Except ε β} {b : β} :
    x >>= f = .ok b ↔ ∃ a, x = .ok a ∧ f a = .ok b := by
  cases x <;> simp [bind, Except.bind]

namespace ClientConfig

variable {c : ClientConfig}

/-! ## Loading -/

/-- What loading checks of the fields. -/
structure Checked (c : ClientConfig) : Prop where
  endpoint : ∃ s, c.endpoint = .text s ∧ isUrl s = true
  uid : c.uid.isGiven = true
  secret : c.secret.isGiven = true
  level : ∃ s : String, c.logging.level = .text s ∧ Text.upper s ∈ validLevels

theorem needText_eq_ok_iff {v : Loose} {operation : String} {t : Json.Text} :
    needText v operation = .ok t ↔ v = .text t := by
  cases v <;> simp [needText]

theorem isGiven_of_isUrl {t : Json.Text} (h : isUrl t = true) :
    Data.isGiven (.text t : Loose) = true := by
  cases t with
  | nil => cases h
  | cons s rest => rfl

theorem mem_validLevels_iff {t : Json.Text} :
    (validLevels.map Json.Text.ofString).contains t.upper = true ↔
      ∃ s : String, t = s ∧ Text.upper s ∈ validLevels := by
  rw [List.contains_iff_mem, List.mem_map]
  constructor
  · rintro ⟨level, hlevel, h⟩
    obtain ⟨s, rfl, rfl⟩ := Json.Text.upper_eq_ofString_iff.1 h.symm
    exact ⟨s, rfl, hlevel⟩
  · rintro ⟨s, rfl, hlevel⟩
    exact ⟨_, hlevel, (Json.Text.upper_ofString s).symm⟩

theorem validate_eq_ok_iff {c' : ClientConfig} : c.validate = .ok c' ↔ c.Checked ∧ c' = c := by
  unfold validate
  constructor
  · intro h
    by_cases hendpoint : c.endpoint.isGiven = true
    · simp only [hendpoint, Bool.not_true, Bool.false_eq_true, if_false, bind_eq_ok_iff,
        needText_eq_ok_iff] at h
      obtain ⟨endpoint, he, h⟩ := h
      by_cases hurl : isUrl endpoint = true
      · by_cases huid : c.uid.isGiven = true
        · by_cases hsecret : c.secret.isGiven = true
          · simp only [hurl, huid, hsecret, Bool.not_true, Bool.false_eq_true, if_false,
              bind_eq_ok_iff, needText_eq_ok_iff] at h
            obtain ⟨level, hl, h⟩ := h
            split at h
            · next hlevel =>
              obtain ⟨s, rfl, hs⟩ := mem_validLevels_iff.1 hlevel
              exact ⟨⟨⟨endpoint, he, hurl⟩, huid, hsecret, s, hl, hs⟩, (Except.ok.inj h).symm⟩
            · cases h
          · simp [hurl, huid, hsecret] at h
        · simp [hurl, huid] at h
      · simp [hurl] at h
    · simp [hendpoint] at h
  · rintro ⟨⟨⟨endpoint, he, hurl⟩, huid, hsecret, level, hl, hlevel⟩, rfl⟩
    simp only [he, isGiven_of_isUrl hurl, hurl, huid, hsecret, hl, needText, bind, Except.bind,
      mem_validLevels_iff.2 ⟨level, rfl, hlevel⟩, Bool.not_true, Bool.false_eq_true, if_false,
      if_true]

/-- What a configuration takes from the entries of a document. -/
structure Takes (c : ClientConfig) (entries : List (Loose × Loose)) : Prop where
  endpoint : Loose.find? "endpoint" entries = some c.endpoint
  uid : Loose.find? "uid" entries = some c.uid
  secret : Loose.find? "secret" entries = some c.secret
  signatureWire :
    c.signatureWire = ((Loose.find? "signature_wire" entries).getD (.bool false)).isGiven
  logging : ∃ fields, (Loose.find? "logging" entries).getD (.table []) = .table fields ∧
    c.logging = ⟨(Loose.find? "level" fields).getD (.text "WARNING"),
      ((Loose.find? "log_signatures" fields).getD (.bool false)).isGiven⟩

theorem need_eq_ok_iff {entries : List (Loose × Loose)} {name : String} {v : Loose} :
    need entries name = .ok v ↔ Loose.find? name entries = some v := by
  unfold need
  cases Loose.find? (.ofString name) entries <;> simp

theorem needTable_eq_ok_iff {v : Loose} {entries : List (Loose × Loose)} :
    needTable v = .ok entries ↔ v = .table entries := by
  cases v <;> simp [needTable]

theorem ofValue_eq_ok_iff {entries : List (Loose × Loose)} :
    ofValue (.table entries) = .ok c ↔ c.Takes entries ∧ c.Checked := by
  unfold ofValue
  simp only [bind_eq_ok_iff, needTable_eq_ok_iff, need_eq_ok_iff, validate_eq_ok_iff]
  constructor
  · rintro ⟨_, hentries, endpoint, he, uid, hu, secret, hs, fields, hfields, hchecked, rfl⟩
    cases hentries
    exact ⟨⟨he, hu, hs, rfl, fields, hfields, rfl⟩, hchecked⟩
  · obtain ⟨endpoint, uid, secret, wire, logging⟩ := c
    rintro ⟨⟨he, hu, hs, hwire, fields, hfields, hlogging⟩, hchecked⟩
    dsimp only at hwire hlogging
    subst hwire hlogging
    exact ⟨entries, rfl, endpoint, he, uid, hu, secret, hs, fields, hfields, hchecked, rfl⟩

/-- A client is loaded exactly from the objects whose fields pass the checks. -/
theorem ofText_eq_ok_iff {s : Json.Text} :
    ofText s = .ok c ↔ ∃ entries, Json.parse s = .ok (.object entries) ∧
      c.Takes (Json.toValue.toEntries entries) ∧ c.Checked := by
  unfold ofText
  cases hparse : Json.parse s with
  | error e => cases e <;> simp
  | ok document =>
    cases document with
    | object entries =>
      have hok : ofValue (Json.object entries).toValue = .ok c ↔
          c.Takes (Json.toValue.toEntries entries) ∧ c.Checked := by
        rw [Json.toValue]
        exact ofValue_eq_ok_iff
      dsimp only
      cases hload : ofValue (Json.object entries).toValue <;> simp [← hok, hload]
    | _ => simp

/-! ## Conversion -/

/-- Conversion decodes the secret, and changes nothing else. -/
theorem toSigningConfig_eq_ok_iff {source : Option DateSource} {config : SigningConfig} :
    c.toSigningConfig source = .ok config ↔
      c.uid.isGiven = true ∧ c.secret.isGiven = true ∧ ∃ key, Secret.decode c.secret = .ok key ∧
        config = ⟨c.uid, key, source.getD .clock,
          if c.signatureWire then some ⟨true, 1000, [], 0⟩ else none⟩ := by
  unfold toSigningConfig
  constructor
  · intro h
    cases hmake : Credentials.make c.uid c.secret with
    | error e => simp [hmake] at h
    | ok credentials =>
      obtain ⟨huid, hsecret, rfl⟩ := Credentials.make_eq_ok_iff.1 hmake
      simp only [hmake, SigningConfig.ofCredentials_eq (c := ⟨c.uid, c.secret⟩) huid] at h
      cases hkey : Secret.decode c.secret with
      | error e => simp [hkey] at h
      | ok key =>
        simp only [hkey, Except.ok.injEq] at h
        exact ⟨huid, hsecret, key, rfl, h.symm⟩
  · rintro ⟨huid, hsecret, key, hkey, rfl⟩
    rw [Credentials.make_eq_ok_iff.2 ⟨huid, hsecret, rfl⟩]
    dsimp only
    rw [SigningConfig.ofCredentials_eq (c := ⟨c.uid, c.secret⟩) huid]
    simp only [hkey]

/-! ## Signing -/

variable {s : Json.Text} {source : Option DateSource} {config : SigningConfig}

/-- A client that is loaded from a document and converted makes a signer, with every field checked
but the account. If the account in the document is a text of characters, the signer signs every
request with a path and with no content type but a text; if it is no text, it signs no request, and
says so only then. A text with half a pair is refused just as late, when it is to be encoded. -/
theorem signing_of_loaded (hload : ofText s = .ok c)
    (hconvert : c.toSigningConfig source = .ok config) :
    ∃ entries account signer, Json.parse s = .ok (.object entries) ∧
      Json.find? (.ofString "uid") entries = some account ∧ c.Checked ∧
      Secret.decode c.secret = .ok signer.key ∧ Signer.ofConfig config = .ok signer ∧
      (∀ uid : String, account = .text (.ofString uid) →
        ∀ around state (r : Request) date path, r.HasTextContentType → r.path = .ok path →
          (state.source.next around.now).1 = .ok (.text date) → date ≠ "" →
          around.primitive = .works →
          ∃ text, (r.stamped uid date).stringToSign = .ok text ∧
            (signer.sign around state r).1 =
              .ok (r.signedAs uid date (Digest.signature signer.key text))) ∧
      ((∀ t, account ≠ .text t) → ∀ around state (r : Request),
        (signer.sign around state r).1 = .error (.invalid (.header (.valueNotText Header.uid)))) ∧
      (∀ t : Json.Text, account = .text t → t.half? ≠ none → ∀ around state (r : Request),
        (∀ signed, (signer.sign around state r).1 ≠ .ok signed) ∧
        ∀ date path, r.HasTextContentType → r.path = .ok path →
          (state.source.next around.now).1 = .ok (.text date) → date ≠ "" →
          around.primitive = .works →
          ∃ u, (signer.sign around state r).1 =
            .error (.signing (.failed (unencodableFault u)))) := by
  obtain ⟨entries, hparse, htakes, hchecked⟩ := ofText_eq_ok_iff.1 hload
  obtain ⟨-, -, key, hkey, rfl⟩ := toSigningConfig_eq_ok_iff.1 hconvert
  have hfind := htakes.uid
  rw [Json.find?_toEntries] at hfind
  obtain ⟨account, haccount, hvalue⟩ := Option.map_eq_some_iff.1 hfind
  refine ⟨entries, account, ⟨c.uid, key⟩, hparse, haccount, hchecked, hkey,
    Signer.ofConfig_of_key (Secret.decode_ne_nil hkey), ?_, ?_, ?_⟩
  · rintro uid rfl around state r date path hcontent hpath hnext hdate hworks
    exact Signer.sign_of_texts hvalue.symm hcontent hpath hnext hdate hworks
  · intro hnone
    apply Signer.sign_of_uid_not_text
    intro uid huid
    rw [← hvalue] at huid
    cases haccount : account with
    | text t => exact hnone t haccount
    | _ =>
      rw [haccount, Json.toValue] at huid
      cases huid
  · rintro t rfl hhalf around state r
    exact ⟨Signer.sign_ne_ok_of_half hvalue.symm hhalf around state r,
      fun date path hcontent hpath hnext hdate hworks =>
        Signer.sign_of_half hvalue.symm hhalf hcontent hpath hnext hdate hworks⟩

/-- An account that is a text, with level and wire left out of the document. -/
theorem signing_of_loaded_text :
    let document := "\x7b\"endpoint\": \"https://h\", \"uid\": \"a/b\", \"secret\": \"AQID\"\x7d"
    let r : Request := ⟨.get, .text "/x", .empty, none⟩
    ∃ c config signer signature, ofText document = .ok c ∧
      c.toSigningConfig (some (.given [.text "d"])) = .ok config ∧
        Signer.ofConfig config = .ok signer ∧
      (signer.sign {} (Signer.initialState config) r).1 = .ok (r.signedAs "a/b" "d" signature) := by
  intro document r
  have hparse :
      Json.parse document = .ok (.object [(.ofString "endpoint", .text (.ofString "https://h")),
        (.ofString "uid", .text (.ofString "a/b")),
        (.ofString "secret", .text (.ofString "AQID"))]) := by
    simp only [document, Json.parse, Json.Text.ofString, String.reduceToList]
    rfl
  have hload : ofText document = .ok ⟨.text "https://h", .text "a/b", .text "AQID", false, {}⟩ :=
    ofText_eq_ok_iff.2 ⟨_, hparse, ⟨by rfl, by rfl, by rfl, by rfl, [], by rfl, by rfl⟩,
      ⟨"https://h", rfl, by decide +kernel⟩, by decide, by decide,
      "WARNING", rfl, by decide +kernel⟩
  let config : SigningConfig := ⟨.text "a/b", [1, 2, 3], .given [.text "d"], none⟩
  have hconvert : toSigningConfig ⟨.text "https://h", .text "a/b", .text "AQID", false, {}⟩
      (some (.given [.text "d"])) = .ok config := by rfl
  obtain ⟨entries, account, signer, hentries, haccount, -, -, hsigner, hsigns, -, -⟩ :=
    signing_of_loaded hload hconvert
  cases hentries.symm.trans hparse
  obtain rfl : Json.text (.ofString "a/b") = account := Option.some.inj haccount
  obtain ⟨text, -, hsigned⟩ := hsigns "a/b" rfl {} (Signer.initialState config) r "d" "/x"
    (fun h => by cases h) rfl rfl (by decide) rfl
  exact ⟨_, _, signer, _, hload, hconvert, hsigner, hsigned⟩

/-- A number as the account is taken by loading and by conversion, and refused when a request is to
be signed. -/
theorem signing_of_loaded_number :
    let document := "\x7b\"endpoint\": \"http://h\", \"uid\": 5, \"secret\": \"AQID\"\x7d"
    let r : Request := ⟨.get, .text "/x", .empty, none⟩
    ∃ c config signer, ofText document = .ok c ∧
      c.toSigningConfig (some (.given [.text "d"])) = .ok config ∧
        Signer.ofConfig config = .ok signer ∧
      (signer.sign {} (Signer.initialState config) r).1 =
        .error (.invalid (.header (.valueNotText Header.uid))) := by
  intro document r
  have hparse :
      Json.parse document = .ok (.object [(.ofString "endpoint", .text (.ofString "http://h")),
        (.ofString "uid", .int 5), (.ofString "secret", .text (.ofString "AQID"))]) := by
    simp only [document, Json.parse, Json.Text.ofString, String.reduceToList]
    rfl
  have hload : ofText document = .ok ⟨.text "http://h", .int 5, .text "AQID", false, {}⟩ :=
    ofText_eq_ok_iff.2 ⟨_, hparse, ⟨by rfl, by rfl, by rfl, by rfl, [], by rfl, by rfl⟩,
      ⟨"http://h", rfl, by decide +kernel⟩, by decide, by decide, "WARNING", rfl, by decide +kernel⟩
  have hconvert : toSigningConfig ⟨.text "http://h", .int 5, .text "AQID", false, {}⟩
      (some (.given [.text "d"])) = .ok ⟨.int 5, [1, 2, 3], .given [.text "d"], none⟩ := by rfl
  exact ⟨_, _, _, hload, hconvert, Signer.ofConfig_of_key (by decide),
    Signer.sign_of_uid_not_text (fun uid h => by cases h) _ _ _⟩

end ClientConfig

end RequestSigning
