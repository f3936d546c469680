import RequestSigning.Proofs.CommandLine.ExitCodes

/-!
# Whose signature a run prints

A run without a keyring signs with the account and the secret of its arguments where it has both,
and else with those of the environment. One of the two alone among the arguments counts for nothing,
although it stands for its own variable: then a run signs for the account of the environment,
whatever account it was given.
-/

namespace RequestSigning.CommandLine

/-- What an option stands for by itself: its value if one is given, else the variable of this
name. -/
def Reading.standsFor (reading : Reading) (env : Environment) (option name : String) : Value :=
  ((reading.given? option).map .text).getD (env.get name)

/-- An option that stands for the value of its variable says the same, or nothing. -/
theorem Reading.standsFor_eq_get_iff {reading : Reading} {env : Environment}
    {option name : String} :
    reading.standsFor env option name = env.get name ↔
      ∀ value, reading.given? option = some value → env.get name = .text value := by
  unfold standsFor
  cases reading.given? option with
  | none => simp
  | some value => simp [eq_comm]

variable {args : List String} {place : Place} {reading : Reading} {o : Outcome}

/-- A run of the sign command that ends well has printed the signature of a pass. -/
theorem printed_of_exit_zero (hread : read args = .ok reading) (hcommand : reading.command = .sign)
    (hcheck : reading.has "--check-compatibility" = false) (hrun : (run args place).outcome = .ok o)
    (hexit : o.exit = 0) :
    ∃ p signature,
      Pass.of reading.request (reading.given? "--secret") (reading.has "--keyring") place = .ok p ∧
      signText place.around.primitive p.key p.text = .ok signature ∧
      o.out = p.printed (reading.has "--show-string-to-sign") signature := by
  have hinvocation : (read args).map Reading.invocation =
      .ok ⟨false, reading.has "--verbose", .sign reading.request (reading.given? "--secret")
        (reading.has "--keyring") (reading.has "--show-string-to-sign")⟩ := by
    rw [hread]
    unfold Reading.invocation Reading.task
    simp only [Except.map, hcommand, hcheck]
  exact printSigned_eq_ok_iff.1 (run_sign_exit_zero hinvocation hrun hexit)

/-- Account and secret of a pass without a keyring: both are arguments, or both are variables. -/
theorem credentials_of_pass {r : RequestArguments} {secret : Option String} {p : Pass}
    (h : Pass.of r secret false place = .ok p) :
    ∃ s : String, Secret.decode (.text s) = .ok p.key ∧
      (r.uid = some p.uid ∧ secret = some s ∨
        (r.uid = none ∨ secret = none) ∧ place.environment.get uidVariable = .text p.uid ∧
          place.environment.get secretVariable = .text s) := by
  obtain ⟨c, -, hcredentials, hmake⟩ := Pass.of_eq_ok_iff.1 h
  obtain ⟨-, -, hkey, -, -⟩ := Pass.make_eq_ok_iff.1 hmake
  have huid := Pass.uid_of_make (isAccount_of_resolveCredentials hcredentials) hmake
  by_cases hboth : r.uid = none ∨ secret = none
  · rw [resolveCredentials_of_environment hboth] at hcredentials
    obtain ⟨-, -, rfl⟩ :=
      Credentials.ofEnvironment_eq_ok_iff.1 (mapError_eq_ok_iff.1 hcredentials)
    obtain ⟨t, ht⟩ := Secret.exists_text_of_decode hkey
    obtain ⟨s, hs, rfl⟩ := Value.loose_eq_text_iff.1 ht
    obtain ⟨uid, hu, huid⟩ := Value.loose_eq_text_iff.1 huid
    obtain rfl := Json.Text.ofString_inj.1 huid
    exact ⟨s, ht ▸ hkey, Or.inr ⟨hboth, hu, hs⟩⟩
  · rw [not_or] at hboth
    obtain ⟨uid, hu⟩ := Option.ne_none_iff_exists'.1 hboth.1
    obtain ⟨given, hgiven⟩ := Option.ne_none_iff_exists'.1 hboth.2
    subst hgiven
    rw [resolveCredentials_of_both hu] at hcredentials
    obtain ⟨-, -, rfl⟩ := Credentials.make_eq_ok_iff.1 (mapError_eq_ok_iff.1 hcredentials)
    obtain rfl := Json.Text.ofString_inj.1 (Data.text.inj huid)
    exact ⟨given, hkey, Or.inl ⟨hu, rfl⟩⟩

/-- Arguments without an account, or without a secret, are signed for the account of the
environment. -/
theorem run_of_environment {request : Request} {uid secret date text : String} {key : List UInt8}
    (hread : read args = .ok reading) (hcommand : reading.command = .sign)
    (hcheck : reading.has "--check-compatibility" = false)
    (hkeyring : reading.has "--keyring" = false)
    (hmissing : reading.given? "--uid" = none ∨ reading.given? "--secret" = none)
    (henvironment : Credentials.ofEnvironment place.environment = .ok ⟨.text uid, .text secret⟩)
    (hkey : Secret.decode (.text secret) = .ok key)
    (hrequest : reading.request.toRequest = .ok request)
    (hdate : dateOf reading.request place.around.now = .ok date)
    (htext : (request.stamped uid date).stringToSign = .ok text)
    (hworks : place.around.primitive = .works) :
    ∃ o, (run args place).outcome = .ok o ∧ o.exit = 0 ∧
      o.out = (⟨request, uid, date, key, text⟩ : Pass).printed (reading.has "--show-string-to-sign")
        (Digest.signature key text) := by
  have hcredentials : resolveCredentials reading.request (reading.given? "--secret") false place =
      (Credentials.ofEnvironment place.environment).mapError .credential :=
    resolveCredentials_of_environment hmissing
  rw [henvironment] at hcredentials
  have hpass : Pass.of reading.request (reading.given? "--secret") (reading.has "--keyring") place =
      .ok ⟨request, uid, date, key, text⟩ := by
    rw [hkeyring]
    exact Pass.of_eq_ok_iff.2
      ⟨_, hrequest, hcredentials, Pass.make_eq_ok_iff.2
        ⟨rfl, ⟨_, rfl, Json.Text.toString_ofString uid⟩, hkey, hdate, htext⟩⟩
  exact run_of_pass hread hcommand hcheck hpass hworks

/-- A run without a keyring that ends well has signed with account and secret of its arguments if it
has both, else with those of the environment. So each option stands for its own variable exactly if
both are given, or if those that are given say the same as their variables; and the account is the
one that is named exactly if there is a secret with it, or if it is the account of the
environment. -/
theorem signs_with_arguments_or_environment (hread : read args = .ok reading)
    (hcommand : reading.command = .sign) (hcheck : reading.has "--check-compatibility" = false)
    (hkeyring : reading.has "--keyring" = false) (hrun : (run args place).outcome = .ok o)
    (hexit : o.exit = 0) :
    let env := place.environment
    ∃ (request : Request) (uid secret date : String) (key : List UInt8) (text : String),
      reading.request.toRequest = .ok request ∧
      Secret.decode (.text secret) = .ok key ∧ (request.stamped uid date).stringToSign = .ok text ∧
      o.out =
        (if reading.has "--show-string-to-sign" then "String to sign:\n" ++ text ++ "\n\n"
          else "") ++
          String.join ["x-emc-uid: " ++ uid ++ "\n", "Date: " ++ date ++ "\n",
            "x-emc-signature: " ++ Digest.signature key text ++ "\n"] ∧
      (reading.given? "--uid" = some uid ∧ reading.given? "--secret" = some secret ∨
        (reading.given? "--uid" = none ∨ reading.given? "--secret" = none) ∧
          env.get uidVariable = .text uid ∧ env.get secretVariable = .text secret) ∧
      (reading.standsFor env "--uid" uidVariable = .text uid ∧
          reading.standsFor env "--secret" secretVariable = .text secret ↔
        (reading.given? "--uid" ≠ none ∧ reading.given? "--secret" ≠ none) ∨
          (∀ u, reading.given? "--uid" = some u → env.get uidVariable = .text u) ∧
          ∀ s, reading.given? "--secret" = some s → env.get secretVariable = .text s) ∧
      ∀ u, reading.given? "--uid" = some u →
        (uid = u ↔ reading.given? "--secret" ≠ none ∨ env.get uidVariable = .text u) := by
  intro env
  obtain ⟨p, signature, hpass, hsignature, hout⟩ :=
    printed_of_exit_zero hread hcommand hcheck hrun hexit
  rw [hkeyring] at hpass
  obtain ⟨c, hrequest, -, hmake⟩ := Pass.of_eq_ok_iff.1 hpass
  obtain ⟨-, -, -, -, htext⟩ := Pass.make_eq_ok_iff.1 hmake
  obtain ⟨s, hkey, hused⟩ := credentials_of_pass hpass
  have hused : reading.given? "--uid" = some p.uid ∧ reading.given? "--secret" = some s ∨
      (reading.given? "--uid" = none ∨ reading.given? "--secret" = none) ∧
        env.get uidVariable = .text p.uid ∧ env.get secretVariable = .text s := hused
  rw [(signText_eq_ok_iff.1 hsignature).2] at hout
  refine ⟨p.request, p.uid, s, p.date, p.key, p.text, hrequest, hkey, htext, hout, hused, ?_, ?_⟩
  -- With both among the arguments each stands for itself, else the variables stand for both.
  · rcases hused with ⟨hu, hs⟩ | ⟨hmissing, hu, hs⟩
    · simp [Reading.standsFor, hu, hs]
    · rw [← hu, ← hs, Reading.standsFor_eq_get_iff, Reading.standsFor_eq_get_iff]
      refine (or_iff_right fun hboth => ?_).symm
      exact hmissing.elim hboth.1 hboth.2
  · intro u hu
    rcases hused with ⟨hgiven, hs⟩ | ⟨hmissing, henv, -⟩
    · rw [hu] at hgiven
      obtain rfl := Option.some.inj hgiven
      simp [hs]
    · have hnone : reading.given? "--secret" = none := hmissing.resolve_left (by simp [hu])
      simp [hnone, henv]

/-- Account and secret of the arguments go before those of the environment. -/
theorem signs_with_arguments_over_environment :
    let args := ["sign", "--path", "/x", "--date", "d", "--uid", "alice", "--secret", "BAUG"]
    let place : Place :=
      { environment := [("ATMOS_UID", .text "bob"), ("ATMOS_SECRET", .text "AQID")] }
    ∃ o date text, (run args place).outcome = .ok o ∧ o.exit = 0 ∧
      o.out = String.join ["x-emc-uid: alice\n", "Date: " ++ date ++ "\n",
        "x-emc-signature: " ++ Digest.signature [4, 5, 6] text ++ "\n"] := by
  intro args place
  let reading : Reading :=
    ⟨.sign, [⟨"--path", "/x"⟩, ⟨"--date", "d"⟩, ⟨"--uid", "alice"⟩, ⟨"--secret", "BAUG"⟩], []⟩
  have hread : read args = .ok reading := by decide +kernel
  have hrequest : reading.request = ⟨"GET", "/x", [], none, some "d", some "alice"⟩ := by
    decide +kernel
  have hsecret : reading.given? "--secret" = some "BAUG" := by decide +kernel
  have hpass : Pass.of reading.request (reading.given? "--secret") false place =
      .ok ⟨⟨.get, .text "/x", .empty, none⟩, "alice", "d", [4, 5, 6],
        "GET\n\n\nd\n/x\nx-emc-uid:alice"⟩ := by
    rw [hrequest, hsecret]
    rfl
  obtain ⟨o, hrun, hexit, -⟩ := run_of_pass hread rfl rfl hpass rfl
  obtain ⟨_, uid, secret, date, key, text, -, hkey, -, hout, hused, -⟩ :=
    signs_with_arguments_or_environment hread rfl rfl rfl hrun hexit
  have huid : reading.given? "--uid" = some "alice" := by decide +kernel
  rw [huid, hsecret] at hused
  obtain ⟨hu, hs⟩ := hused.resolve_right (by simp)
  cases hu
  cases hs
  have hdecoded : Secret.decode (.text "BAUG") = .ok [4, 5, 6] := by rfl
  obtain rfl := Except.ok.inj (hdecoded.symm.trans hkey)
  exact ⟨o, date, text, hrun, hexit, hout⟩

/-- An account without a secret is passed over, and a secret without an account: both runs are
signed for the account of the environment and with its secret. -/
theorem signs_for_other_account :
    let request := ["sign", "--path", "/x", "--date", "d"]
    let place : Place :=
      { environment := [("ATMOS_UID", .text "bob"), ("ATMOS_SECRET", .text "AQID")] }
    let printed := String.join ["x-emc-uid: bob\n", "Date: d\n", "x-emc-signature: " ++
      Digest.signature [1, 2, 3] "GET\n\n\nd\n/x\nx-emc-uid:bob" ++ "\n"]
    (∃ o, (run (request ++ ["--uid", "alice"]) place).outcome = .ok o ∧ o.exit = 0 ∧
      o.out = printed) ∧
      ∃ o, (run (request ++ ["--secret", "BAUG"]) place).outcome = .ok o ∧ o.exit = 0 ∧
        o.out = printed := by
  intro request place printed
  have henvironment : Credentials.ofEnvironment place.environment =
      .ok ⟨.text "bob", .text "AQID"⟩ := by rfl
  have hkey : Secret.decode (.text "AQID") = .ok [1, 2, 3] := by rfl
  have htext :
      Request.stringToSign ((⟨.get, .text "/x", .empty, none⟩ : Request).stamped "bob" "d") =
      .ok "GET\n\n\nd\n/x\nx-emc-uid:bob" := by rfl
  constructor
  · let reading : Reading :=
      ⟨.sign, [⟨"--path", "/x"⟩, ⟨"--date", "d"⟩, ⟨"--uid", "alice"⟩], []⟩
    have hread : read (request ++ ["--uid", "alice"]) = .ok reading := by decide +kernel
    have hrequest : reading.request = ⟨"GET", "/x", [], none, some "d", some "alice"⟩ := by
      decide +kernel
    obtain ⟨o, ho, hexit, hout⟩ := run_of_environment hread rfl rfl rfl (.inr rfl) henvironment hkey
      (by rw [hrequest]; rfl) (by rw [hrequest]; rfl) htext rfl
    exact ⟨o, ho, hexit, hout.trans (Pass.printed_false _ _)⟩
  · let reading : Reading :=
      ⟨.sign, [⟨"--path", "/x"⟩, ⟨"--date", "d"⟩, ⟨"--secret", "BAUG"⟩], []⟩
    have hread : read (request ++ ["--secret", "BAUG"]) = .ok reading := by decide +kernel
    have hrequest : reading.request = ⟨"GET", "/x", [], none, some "d", none⟩ := by decide +kernel
    obtain ⟨o, ho, hexit, hout⟩ := run_of_environment hread rfl rfl rfl (.inl rfl) henvironment hkey
      (by rw [hrequest]; rfl) (by rw [hrequest]; rfl) htext rfl
    exact ⟨o, ho, hexit, hout.trans (Pass.printed_false _ _)⟩

end RequestSigning.CommandLine
