import RequestSigning.CommandLine.Run
import RequestSigning.Proofs.CommandLine.HeaderArguments
import RequestSigning.Proofs.Signing.Building

/-!
# Runs that end well

A run that ends with exit code 0 has printed what its command gives: the string to sign of the
request that the arguments describe, or what the sign command makes of that request.
-/

namespace RequestSigning

namespace CommandLine

/-! ## Arguments -/

namespace RequestArguments

/-- Arguments describe a request with their headers, endpoint and content type, or are refused for a
value. -/
theorem toRequest_cases (r : RequestArguments) :
    (∃ cause, r.toRequest = .error (.invalid cause)) ∨
      ∃ request, r.toRequest = .ok request ∧ headersOf r.headers = .ok request.headers ∧
        request.endpoint = .text r.path ∧ request.contentType = r.contentType.elim .null .text := by
  unfold toRequest Request.make Request.readHeaders
  cases headersOf r.headers with
  | error cause => exact Or.inl ⟨cause, rfl⟩
  | ok headers =>
    dsimp only
    split
    · exact Or.inl ⟨_, rfl⟩
    · split
      · exact Or.inl ⟨_, rfl⟩
      · refine Or.inr ⟨_, rfl, rfl, rfl, ?_⟩
        unfold Request.contentType
        cases r.contentType <;> rfl

variable {r : RequestArguments} {request : Request}

theorem of_toRequest_eq_ok (h : r.toRequest = .ok request) :
    headersOf r.headers = .ok request.headers ∧ request.endpoint = .text r.path ∧
      request.contentType = r.contentType.elim .null .text := by
  rcases r.toRequest_cases with ⟨cause, hrefused⟩ | ⟨described, hdescribed, hparts⟩
  · rw [hrefused] at h
    cases h
  · rw [hdescribed] at h
    obtain rfl := Except.ok.inj h
    exact hparts

theorem toRequest_eq_error {e : Error} (h : r.toRequest = .error e) :
    ∃ cause, e = .invalid cause := by
  rcases r.toRequest_cases with ⟨cause, hrefused⟩ | ⟨described, hdescribed, -⟩
  · rw [hrefused] at h
    exact ⟨cause, (Except.error.inj h).symm⟩
  · rw [hdescribed] at h
    cases h

/-- The headers of a request are those of the header arguments. -/
theorem entries_of_toRequest (h : r.toRequest = .ok request) :
    request.headers.entries = r.headers.filterMap headerOfArgument? :=
  (filterMap_headerOfArgument? (headersOf_eq_ok_iff.1 (of_toRequest_eq_ok h).1)).symm

end RequestArguments

/-! ## What commands print -/

theorem printStringToSign_eq_ok {r : RequestArguments} {now : Date.Instant} {out : String}
    (h : printStringToSign r now = .ok out) :
    ∃ request text, stamped r now = .ok request ∧ request.stringToSign = .ok text ∧
      out = text ++ "\n" := by
  unfold printStringToSign at h
  cases hstamped : stamped r now with
  | error e => simp [hstamped] at h
  | ok request =>
    cases htext : request.stringToSign with
    | error e => simp [hstamped, htext, Except.map] at h
    | ok text =>
      simp only [hstamped, htext, Except.map, Except.ok.injEq] at h
      exact ⟨request, text, rfl, htext, h.symm⟩

/-- The date and the wire that a request is signed with. -/
def signingState (r : RequestArguments) (showString : Bool) : SigningState :=
  ⟨(r.date.map fun d => DateSource.given [.text d]).getD .clock,
   ⟨some ⟨showString, 1000, [], 0⟩, []⟩⟩

/-! ## Runs -/

theorem conclude_exit_zero {tells : Error → Bool} {label : String} {result : Except Error String}
    {o : Outcome} (h : conclude tells label result = .ok o) (hexit : o.exit = 0) :
    result = .ok o.out := by
  unfold conclude at h
  split at h
  · exact (Except.ok.inj h) ▸ rfl
  · obtain rfl := Except.ok.inj h
    cases hexit
  · split at h
    · obtain rfl := Except.ok.inj h
      cases hexit
    · cases h

/-- Log records do not show on standard output. -/
theorem withLog_eq_ok {r : Run} {verbose : Bool} {o : Outcome}
    (h : (r.withLog verbose).outcome = .ok o) :
    ∃ bare, r.outcome = .ok bare ∧ o.exit = bare.exit ∧ o.out = bare.out := by
  unfold Run.withLog at h
  cases hbare : r.outcome with
  | error e => simp [hbare, Except.map] at h
  | ok bare =>
    simp only [hbare, Except.map, Except.ok.injEq] at h
    exact ⟨bare, rfl, h ▸ rfl, h ▸ rfl⟩

variable {args : List String} {place : Place} {o : Outcome} {verbose : Bool}

theorem run_task_eq_ok {task : Task}
    (hread : (read args).map Reading.invocation = .ok ⟨false, verbose, task⟩)
    (h : (run args place).outcome = .ok o) :
    ∃ bare, (runTask task place).outcome = .ok bare ∧ o.exit = bare.exit ∧ o.out = bare.out := by
  unfold run at h
  cases hreading : read args with
  | error e => simp [hreading, Except.map] at hread
  | ok reading =>
    simp only [hreading, Except.map, Except.ok.injEq] at hread
    simp only [hreading, hread, runInvocation] at h
    exact withLog_eq_ok h

theorem run_stringToSign_exit_zero {r : RequestArguments}
    (hread : (read args).map Reading.invocation = .ok ⟨false, verbose, .stringToSign r⟩)
    (h : (run args place).outcome = .ok o) (hexit : o.exit = 0) :
    printStringToSign r place.around.now = .ok o.out := by
  obtain ⟨bare, hbare, hsame, hout⟩ := run_task_eq_ok hread h
  rw [hout]
  exact conclude_exit_zero hbare (hsame ▸ hexit)

theorem run_sign_exit_zero {r : RequestArguments} {secret : Option String}
    {fromKeyring showString : Bool} (hread : (read args).map Reading.invocation =
      .ok ⟨false, verbose, .sign r secret fromKeyring showString⟩)
    (h : (run args place).outcome = .ok o) (hexit : o.exit = 0) :
    (printSigned r secret fromKeyring showString place).1 = .ok o.out := by
  obtain ⟨bare, hbare, hsame, hout⟩ := run_task_eq_ok hread h
  rw [hout]
  exact conclude_exit_zero hbare (hsame ▸ hexit)

end CommandLine

end RequestSigning
