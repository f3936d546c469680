import RequestSigning.Proofs.CommandLine.Passes
import RequestSigning.Proofs.Date.HttpDate
import RequestSigning.Proofs.Request.Recording

/-!
# Exit codes

A command either prints what it gives, or is broken off by the user, or tells its error and prints
nothing. Errors come up all the way from reading the headers to the primitive; every one of them is
of a kind that the command tells.
-/

namespace RequestSigning

/-- The string to sign of a request with a textual endpoint is missing for want of a date or of a
path. -/
theorem Request.stringToSign_eq_error {r : Request} (hc : r.HasTextContentType) {endpoint : String}
    (hendpoint : r.endpoint = .text endpoint) {e : Error} (h : r.stringToSign = .error e) :
    e = .signing (.missingHeader Header.date) ∨ ∃ cause, e = .invalid (.endpoint cause) := by
  by_cases hdate : r.HasDate
  · cases hpath : Endpoint.path endpoint with
    | ok path =>
      have hp : r.path = .ok path := by
        unfold Request.path
        simp only [hendpoint, hpath]
      obtain ⟨text, htext⟩ := (Request.exists_stringToSign_iff hc).2 ⟨hdate, path, hp⟩
      rw [htext] at h
      cases h
    | error cause =>
      have hp : r.path = .error (.invalid (.endpoint cause)) := by
        unfold Request.path
        simp only [hendpoint, hpath]
      rw [Request.stringToSign_of_path_eq_error hc hdate hp] at h
      exact Or.inr ⟨cause, (Except.error.inj h).symm⟩
  · rw [Request.stringToSign_of_not_hasDate hc hdate] at h
    exact Or.inl (Except.error.inj h).symm

namespace CommandLine

/-! ## Errors that commands tell -/

/-- Errors that are told without a look at credentials. -/
def isPlain (e : Error) : Bool := isValueError e || isSigningError e

theorem RequestArguments.hasTextContentType {r : RequestArguments} {request : Request}
    (h : r.toRequest = .ok request) : request.HasTextContentType := by
  unfold Request.HasTextContentType
  rw [(of_toRequest_eq_ok h).2.2]
  cases r.contentType with
  | none => exact fun hgiven => by cases hgiven
  | some s => exact fun _ => ⟨s, rfl⟩

/-- Whatever headers a request of arguments is given, its string to sign fails with an error that
both commands tell. -/
theorem isPlain_of_stringToSign {r : RequestArguments} {request : Request}
    (h : r.toRequest = .ok request) (headers : Header.Multimap) {e : Error}
    (he : (request.withHeaders headers).stringToSign = .error e) :
    isPlain e = true := by
  have hc : (request.withHeaders headers).HasTextContentType :=
    (RequestArguments.hasTextContentType h : request.HasTextContentType)
  have hendpoint : (request.withHeaders headers).endpoint = .text r.path :=
    (RequestArguments.of_toRequest_eq_ok h).2.1
  rcases Request.stringToSign_eq_error hc hendpoint he with rfl | ⟨cause, rfl⟩
  · rfl
  · rfl

/-- A run has a date: it is among the arguments, or the clock shows one of the years 1 to 9999. -/
def HasDate (r : RequestArguments) (now : Date.Instant) : Prop := r.date = none → now.InCalendar

theorem exists_dateOf {r : RequestArguments} {now : Date.Instant} (h : HasDate r now) :
    ∃ date, dateOf r now = .ok date := by
  unfold dateOf
  cases hdate : r.date with
  | some d => exact ⟨d, rfl⟩
  | none =>
    obtain ⟨date, hclock⟩ := Date.exists_httpDate (h hdate)
    exact ⟨date, by simp only [hclock]⟩

theorem isPlain_of_printStringToSign {r : RequestArguments} {now : Date.Instant}
    (hdate : HasDate r now) {e : Error} (h : printStringToSign r now = .error e) :
    isPlain e = true := by
  obtain ⟨date, hd⟩ := exists_dateOf hdate
  unfold printStringToSign stamped at h
  cases hrequest : r.toRequest with
  | error e' =>
    simp only [hrequest, Except.error.injEq] at h
    obtain ⟨cause, rfl⟩ := RequestArguments.toRequest_eq_error (h ▸ hrequest)
    rfl
  | ok request =>
    simp only [hrequest, hd] at h
    -- The errors do not depend on the headers that the request is stamped with.
    generalize hheaders : Header.Multimap.push _ Header.date date = headers at h
    cases htext : (request.withHeaders headers).stringToSign with
    | error e' =>
      simp only [htext, Except.map, Except.error.injEq] at h
      exact isPlain_of_stringToSign hrequest headers (h ▸ htext)
    | ok text => simp [htext, Except.map] at h

theorem isTold_of_resolveCredentials {r : RequestArguments} {secret : Option String}
    {fromKeyring : Bool} {place : Place} {e : Error}
    (h : resolveCredentials r secret fromKeyring place = .error e) :
    (isPlain e || isLibraryError e) = true := by
  rcases resolveCredentials_cases r secret fromKeyring place with hnone | ⟨source, hsource, -⟩
  · rw [hnone] at h
    obtain rfl := Except.error.inj h
    rfl
  · rw [hsource] at h
    cases source with
    | error cause =>
      obtain rfl := Except.error.inj h
      rfl
    | ok c => cases h

/-- A pass that does not come to the primitive fails with an error that the command tells. -/
theorem isTold_of_pass {r : RequestArguments} {secret : Option String} {fromKeyring : Bool}
    {place : Place} (hdate : HasDate r place.around.now) {e : Error}
    (h : Pass.of r secret fromKeyring place = .error e) :
    (isPlain e || isLibraryError e) = true := by
  obtain ⟨date, hd⟩ := exists_dateOf hdate
  unfold Pass.of at h
  cases hrequest : r.toRequest with
  | error e' =>
    simp only [hrequest, Except.error.injEq] at h
    obtain ⟨cause, rfl⟩ := RequestArguments.toRequest_eq_error (h ▸ hrequest)
    rfl
  | ok request =>
    cases hcredentials : resolveCredentials r secret fromKeyring place with
    | error e' =>
      simp only [hrequest, hcredentials, Except.error.injEq] at h
      exact isTold_of_resolveCredentials (h ▸ hcredentials)
    | ok c =>
      simp only [hrequest, hcredentials, hd, Pass.make] at h
      cases hkey : Secret.decode c.secret with
      | error fault =>
        simp only [hkey, Except.error.injEq] at h
        exact h ▸ rfl
      | ok key =>
        cases huid : c.uid with
        | text t =>
          cases htext : (request.stamped t.toString date).stringToSign with
          | error e' =>
            simp only [hkey, huid, htext, Except.map, Except.error.injEq] at h
            rw [isPlain_of_stringToSign hrequest _ (h ▸ htext)]
            rfl
          | ok text => simp [hkey, huid, htext, Except.map] at h
        | _ =>
          simp only [hkey, huid, Except.error.injEq] at h
          exact h ▸ rfl

/-! ## How runs conclude -/

/-- How the outcome of a run belongs to what its command gives; logs are printed in front of
errors. -/
inductive Concludes : Except Error String → Outcome → Prop
  | printed (out err : String) : Concludes (.ok out) ⟨0, out, err⟩
  | cancelled (err : String) : Concludes (.error .interrupted) ⟨130, "", err⟩
  | told {e : Error} (h : e ≠ .interrupted) (err : String) : Concludes (.error e) ⟨1, "", err⟩

namespace Concludes

variable {result : Except Error String} {o : Outcome}

theorem exit_mem (h : Concludes result o) : o.exit ∈ [0, 1, 130] := by
  cases h <;> simp

theorem exit_eq_zero_iff (h : Concludes result o) : o.exit = 0 ↔ result = .ok o.out := by
  cases h <;> simp

theorem exit_eq_cancelled_iff (h : Concludes result o) :
    o.exit = 130 ↔ result = .error .interrupted := by
  cases h with
  | told h => simp [h]
  | _ => simp

theorem of_ok {out : String} (h : Concludes (.ok out) o) : o.exit = 0 ∧ o.out = out := by
  cases h
  exact ⟨rfl, rfl⟩

theorem out_eq_empty (h : Concludes result o) (hexit : o.exit ≠ 0) : o.out = "" := by
  cases h with
  | printed out err => exact absurd rfl hexit
  | _ => rfl

theorem withError (h : Concludes result o) (log : String) :
    Concludes result { o with err := log ++ o.err } := by
  cases h with
  | printed out err => exact .printed out _
  | cancelled err => exact .cancelled _
  | told h err => exact .told h _

end Concludes

theorem concludes_conclude {tells : Error → Bool} {label : String} {result : Except Error String}
    (h : ∀ e, result = .error e → e = .interrupted ∨ tells e = true) :
    ∃ o, conclude tells label result = .ok o ∧ Concludes result o := by
  cases result with
  | ok out => exact ⟨_, rfl, .printed out ""⟩
  | error e =>
    by_cases he : e = .interrupted
    · subst he
      exact ⟨_, rfl, .cancelled _⟩
    · have htold : tells e = true := (h e rfl).resolve_left he
      refine ⟨_, ?_, .told he (label ++ ": " ++ e.text ++ "\n")⟩
      unfold conclude
      cases e with
      | interrupted => exact absurd rfl he
      | _ => exact if_pos htold

variable {args : List String} {place : Place} {reading : Reading}

/-- Without a check of compatibility a run is its task, behind its log on standard error. -/
theorem concludes_run {result : Except Error String} (hread : read args = .ok reading)
    (hcheck : reading.has "--check-compatibility" = false)
    (h : ∃ o, (runTask reading.task place).outcome = .ok o ∧ Concludes result o) :
    ∃ o, (run args place).outcome = .ok o ∧ Concludes result o := by
  obtain ⟨o, ho, hconcludes⟩ := h
  have hrun : run args place = (runTask reading.task place).withLog (reading.has "--verbose") := by
    unfold run runInvocation Reading.invocation
    simp only [hread, hcheck]
    rfl
  rw [hrun]
  unfold Run.withLog
  rw [ho]
  exact ⟨_, rfl, hconcludes.withError _⟩

/-! ## The two commands -/

theorem concludes_stringToSign (hread : read args = .ok reading)
    (hcommand : reading.command = .stringToSign)
    (hcheck : reading.has "--check-compatibility" = false)
    (hdate : HasDate reading.request place.around.now) :
    ∃ o, (run args place).outcome = .ok o ∧
      Concludes (printStringToSign reading.request place.around.now) o := by
  have htask : reading.task = .stringToSign reading.request := by
    unfold Reading.task
    rw [hcommand]
  apply concludes_run hread hcheck
  rw [htask]
  exact concludes_conclude fun e he => Or.inr (isPlain_of_printStringToSign hdate he)

/-- The sign command fails with an error that it tells, unless the primitive is broken off. -/
theorem printSigned_eq_error {r : RequestArguments} {secret : Option String}
    {fromKeyring showString : Bool} (hdate : HasDate r place.around.now) {e : Error}
    (h : (printSigned r secret fromKeyring showString place).1 = .error e) :
    (isPlain e || isLibraryError e) = true ∨
      e = .interrupted ∧ ∃ p, Pass.of r secret fromKeyring place = .ok p ∧
        signText place.around.primitive p.key p.text = .error .interrupted := by
  rw [printSigned_eq] at h
  cases hpass : Pass.of r secret fromKeyring place with
  | error e' =>
    simp only [hpass, Except.error.injEq] at h
    exact Or.inl (isTold_of_pass hdate (h ▸ hpass))
  | ok p =>
    rw [hpass] at h
    unfold signText at h
    cases hprimitive : place.around.primitive with
    | works => simp [hprimitive, Except.map] at h
    | fails fault =>
      simp only [hprimitive, Except.map, Except.error.injEq] at h
      exact Or.inl (h ▸ rfl)
    | interrupted step =>
      simp only [hprimitive, Except.map, Except.error.injEq] at h
      exact Or.inr ⟨h.symm, p, rfl, rfl⟩

theorem printSigned_eq_interrupted_iff {r : RequestArguments} {secret : Option String}
    {fromKeyring showString : Bool} (hdate : HasDate r place.around.now) :
    (printSigned r secret fromKeyring showString place).1 = .error .interrupted ↔
      ∃ p, Pass.of r secret fromKeyring place = .ok p ∧
        signText place.around.primitive p.key p.text = .error .interrupted := by
  constructor
  · intro h
    rcases printSigned_eq_error hdate h with htold | ⟨-, hpass⟩
    · cases htold
    · exact hpass
  · rintro ⟨p, hpass, hsignature⟩
    rw [printSigned_eq, hpass]
    dsimp only
    rw [hsignature]
    rfl

theorem concludes_sign (place : Place) (hread : read args = .ok reading)
    (hcommand : reading.command = .sign) (hcheck : reading.has "--check-compatibility" = false)
    (htold : ∀ e, (printSigned reading.request (reading.given? "--secret") (reading.has "--keyring")
      (reading.has "--show-string-to-sign") place).1 = .error e →
        e = .interrupted ∨ (isPlain e || isLibraryError e) = true) :
    ∃ o, (run args place).outcome = .ok o ∧
      Concludes (printSigned reading.request (reading.given? "--secret") (reading.has "--keyring")
        (reading.has "--show-string-to-sign") place).1 o := by
  have htask : reading.task = .sign reading.request (reading.given? "--secret")
      (reading.has "--keyring") (reading.has "--show-string-to-sign") := by
    unfold Reading.task
    rw [hcommand]
  apply concludes_run hread hcheck
  rw [htask]
  exact concludes_conclude htold

theorem run_of_pass {p : Pass} (hread : read args = .ok reading)
    (hcommand : reading.command = .sign) (hcheck : reading.has "--check-compatibility" = false)
    (hpass : Pass.of reading.request (reading.given? "--secret") (reading.has "--keyring") place =
      .ok p)
    (hworks : place.around.primitive = .works) :
    ∃ o, (run args place).outcome = .ok o ∧ o.exit = 0 ∧
      o.out = p.printed (reading.has "--show-string-to-sign") (Digest.signature p.key p.text) := by
  have hprinted := printSigned_eq_ok_iff.2
    ⟨p, _, hpass, signText_eq_ok_iff.2 ⟨hworks, rfl⟩,
     Eq.refl (p.printed (reading.has "--show-string-to-sign") _)⟩
  obtain ⟨o, ho, hconcludes⟩ := concludes_sign place hread hcommand hcheck fun e he => by
    rw [hprinted] at he
    cases he
  rw [hprinted] at hconcludes
  exact ⟨o, ho, hconcludes.of_ok⟩

/-- What is signed and printed once a pass has come to the primitive and got its signature. -/
theorem signed_of_pass {r : RequestArguments} {secret : Option String} {fromKeyring : Bool}
    (showString : Bool) {p : Pass} {signature : String}
    (hpass : Pass.of r secret fromKeyring place = .ok p)
    (hsignature : signText place.around.primitive p.key p.text = .ok signature) :
    ∃ signed,
      ((⟨.text p.uid, p.key⟩ : Signer).sign place.around (signingState r showString) p.request).1 =
        .ok signed ∧
      signed.unsigned.stringToSign = .ok p.text ∧ signed.headers.getAll Header.uid = [p.uid] ∧
      signed.headers.getAll Header.date = [p.date] ∧
      signed.headers.getAll Header.signature = [signature] := by
  obtain ⟨c, -, hcredentials, hmake⟩ := Pass.of_eq_ok_iff.1 hpass
  obtain ⟨-, -, hkey, -, htext⟩ := Pass.make_eq_ok_iff.1 hmake
  have haccount := isAccount_of_resolveCredentials hcredentials
  have hsign := sign_eq_make p.request haccount hkey r showString place.around
  rw [hmake, Pass.uid_of_make haccount hmake] at hsign
  dsimp only at hsign
  rw [hsignature] at hsign
  refine ⟨_, hsign, ?_, Request.getAll_uid_signed _ _ _ _, Request.getAll_date_signed _ _ _ _,
    Request.getAll_signature_signed _ _ _ _⟩
  rw [Request.unsigned_push_signature]
  exact htext

/-- A command about a request ends with exit code 0, 1 or 130. It ends with 130 exactly when the
primitive is broken off, and prints nothing unless it ends with 0; then the sign command prints the
account, the date and the signature of the signed request, behind the string that was signed if that
is to be shown. -/
theorem request_commands_conclude (hread : read args = .ok reading)
    (hcommand : reading.command = .stringToSign ∨ reading.command = .sign)
    (hcheck : reading.has "--check-compatibility" = false)
    (hdate : reading.given? "--date" = none → place.around.now.InCalendar) :
    let showString := reading.has "--show-string-to-sign"
    let pass := Pass.of reading.request (reading.given? "--secret") (reading.has "--keyring") place
    let signature (p : Pass) := signText place.around.primitive p.key p.text
    ∃ o, (run args place).outcome = .ok o ∧ o.exit ∈ [0, 1, 130] ∧
      (o.exit = 130 ↔
        reading.command = .sign ∧ ∃ p, pass = .ok p ∧ signature p = .error .interrupted) ∧
      (o.exit ≠ 0 → o.out = "") ∧
      (reading.command = .stringToSign →
        (o.exit = 0 ↔ printStringToSign reading.request place.around.now = .ok o.out)) ∧
      (reading.command = .sign →
        (o.exit = 0 ↔ ∃ p s, pass = .ok p ∧ signature p = .ok s) ∧
        ∀ p s, pass = .ok p → signature p = .ok s →
          (∃ signed,
            ((⟨.text p.uid, p.key⟩ : Signer).sign place.around
              (signingState reading.request showString) p.request).1 = .ok signed ∧
            signed.unsigned.stringToSign = .ok p.text ∧ signed.headers.getAll Header.uid = [p.uid] ∧
            signed.headers.getAll Header.date = [p.date] ∧
            signed.headers.getAll Header.signature = [s]) ∧
          o.out = (if showString then "String to sign:\n" ++ p.text ++ "\n\n" else "") ++
            String.join ["x-emc-uid: " ++ p.uid ++ "\n", "Date: " ++ p.date ++ "\n",
              "x-emc-signature: " ++ s ++ "\n"]) := by
  intro showString pass signature
  have hdated : HasDate reading.request place.around.now := hdate
  rcases hcommand with hcommand | hcommand
  · obtain ⟨o, ho, hconcludes⟩ := concludes_stringToSign hread hcommand hcheck hdated
    refine ⟨o, ho, hconcludes.exit_mem, ?_, hconcludes.out_eq_empty,
      fun _ => hconcludes.exit_eq_zero_iff, fun h => ?_⟩
    · rw [hconcludes.exit_eq_cancelled_iff, hcommand]
      constructor
      · intro h
        cases isPlain_of_printStringToSign hdated h
      · rintro ⟨h, -⟩
        cases h
    · rw [hcommand] at h
      cases h
  · obtain ⟨o, ho, hconcludes⟩ := concludes_sign place hread hcommand hcheck
      fun e he => (printSigned_eq_error hdated he).symm.imp And.left id
    have hprinted : ∀ p s, pass = .ok p → signature p = .ok s →
        o.exit = 0 ∧ o.out = p.printed showString s := by
      intro p s hpass hsignature
      rw [printSigned_eq_ok_iff.2 ⟨p, s, hpass, hsignature, rfl⟩] at hconcludes
      exact hconcludes.of_ok
    refine ⟨o, ho, hconcludes.exit_mem, ?_, hconcludes.out_eq_empty, fun h => ?_, fun _ =>
      ⟨⟨fun hexit => ?_, ?_⟩, fun p s hpass hsignature =>
        ⟨signed_of_pass showString hpass hsignature, (hprinted p s hpass hsignature).2⟩⟩⟩
    · rw [hconcludes.exit_eq_cancelled_iff, printSigned_eq_interrupted_iff hdated]
      exact (and_iff_right hcommand).symm
    · rw [hcommand] at h
      cases h
    · obtain ⟨p, s, hpass, hsignature, -⟩ :=
        printSigned_eq_ok_iff.1 (hconcludes.exit_eq_zero_iff.1 hexit)
      exact ⟨p, s, hpass, hsignature⟩
    · rintro ⟨p, s, hpass, hsignature⟩
      exact (hprinted p s hpass hsignature).1

/-- A secret from the keyring, a date from the clock, and a primitive that is broken off at its last
step. -/
theorem request_commands_conclude_interrupted :
    let args := ["--verbose", "sign", "--path", "/x", "--keyring", "--uid", "u"]
    let place : Place :=
      { keyring := { entries := [⟨"Atmos SDK", "u", "AQID"⟩] },
        around := { primitive := .interrupted .finish } }
    ∃ o, (run args place).outcome = .ok o ∧ o.exit = 130 ∧ o.out = "" := by
  intro args place
  let reading : Reading :=
    ⟨.sign, [⟨"--verbose", ""⟩, ⟨"--path", "/x"⟩, ⟨"--keyring", ""⟩, ⟨"--uid", "u"⟩], []⟩
  have hread : read args = .ok reading := by decide +kernel
  have hnow : place.around.now.InCalendar := ⟨1893456000, rfl, by decide, by decide⟩
  have hrequest : reading.request = ⟨"GET", "/x", [], none, none, some "u"⟩ := by decide +kernel
  have hpass : Pass.of reading.request (reading.given? "--secret") true place =
      .ok ⟨⟨.get, .text "/x", .empty, none⟩, "u", "Tue, 01 Jan 2030 00:00:00 GMT", [1, 2, 3],
        "GET\n\n\nTue, 01 Jan 2030 00:00:00 GMT\n/x\nx-emc-uid:u"⟩ := by
    rw [hrequest]
    rfl
  obtain ⟨o, ho, -, hcancelled, hempty, -⟩ :=
    request_commands_conclude hread (.inr rfl) rfl fun _ => hnow
  have hexit : o.exit = 130 := hcancelled.2 ⟨rfl, _, hpass, rfl⟩
  exact ⟨o, ho, hexit, hempty (by rw [hexit]; decide)⟩

end CommandLine

end RequestSigning
