import Mathlib.Data.List.Induction
import RequestSigning.Proofs.CommandLine.ExitCodes
import RequestSigning.Proofs.Credential.Keyring

/-!
# Secrets from call to call

Calls of the program that share a keyring leave in it, for every account, the secret that was kept
last, as long as no later call deleted it. So a call that signs with the secret of the keyring
prints what a call with that secret among its arguments prints, and tells an error where there is
none. Calls about other accounts count for nothing, and neither do calls that are refused.
-/

namespace RequestSigning.CommandLine

/-- What a run shows of itself to a script: exit code and standard output. -/
def Run.shown (r : Run) : Except Error (Nat × String) := r.outcome.map fun o => (o.exit, o.out)

/-- A call of the program, with what it finds beside the keyring. -/
structure Call where
  args : List String
  environment : Environment := []
  around : Surroundings := {}

/-- What a task says of the secret of an account: that there is one from now on, that there is none,
or nothing. An empty account or secret is refused. -/
def Task.secretFor? (uid : String) : Task → Option (Option String)
  | .store u secret => if u = uid ∧ u ≠ "" ∧ secret ≠ "" then some (some secret) else none
  | .delete u => if u = uid then some none else none
  | _ => none

/-- The account whose secret a task keeps, deletes or reads. -/
def Task.account? : Task → Option String
  | .store uid _ | .delete uid => some uid
  | .sign r _ true _ => r.uid
  | _ => none

namespace Call

def run (c : Call) (k : Keyring) : Run := CommandLine.run c.args ⟨c.environment, k, c.around⟩

/-- The task of a call that can be read and does more than check for compatibility. -/
def task? (c : Call) : Option Task :=
  match read c.args with
  | .error _ => none
  | .ok reading => if reading.has "--check-compatibility" then none else some reading.task

def account? (c : Call) : Option String := c.task?.bind Task.account?

def secretFor? (c : Call) (uid : String) : Option (Option String) := c.task?.bind (·.secretFor? uid)

end Call

/-- The keyring that calls leave, one after the other, if it is empty at first. -/
def keyringAfter (calls : List Call) : Keyring := calls.foldl (fun k c => (c.run k).keyring) {}

/-- The secret of an account that calls leave: that of the last one to keep it, if none behind that
one deletes it. -/
def keptSecret? (calls : List Call) (uid : String) : Option String :=
  (calls.filterMap (·.secretFor? uid)).getLast?.join

/-! ## Runs of calls -/

theorem shown_withLog (r : Run) (verbose : Bool) : (r.withLog verbose).shown = r.shown := by
  unfold Run.withLog Run.shown
  cases r.outcome <;> rfl

theorem Call.run_of_task {c : Call} {task : Task} (h : c.task? = some task) (k : Keyring) :
    ∃ verbose, c.run k = (runTask task ⟨c.environment, k, c.around⟩).withLog verbose := by
  unfold task? at h
  unfold run CommandLine.run
  cases hread : read c.args with
  | error e => simp [hread] at h
  | ok reading =>
    simp only [hread] at h
    split at h
    · cases h
    · next hcheck =>
      obtain rfl := Option.some.inj h
      refine ⟨reading.has "--verbose", ?_⟩
      unfold runInvocation Reading.invocation
      simp only [hcheck]
      rfl

theorem Call.keyring_run_of_no_task {c : Call} (h : c.task? = none) (k : Keyring) :
    (c.run k).keyring = k := by
  unfold task? at h
  unfold run CommandLine.run
  cases hread : read c.args with
  | error e => rfl
  | ok reading =>
    simp only [hread] at h
    split at h
    · next hcheck =>
      unfold runInvocation Reading.invocation
      simp only [hcheck]
      rfl
    · cases h

theorem Call.shown_run {c : Call} {task : Task} (h : c.task? = some task) (k : Keyring) :
    (c.run k).shown = (runTask task ⟨c.environment, k, c.around⟩).shown := by
  obtain ⟨verbose, hrun⟩ := run_of_task h k
  rw [hrun, shown_withLog]

theorem Call.keyring_run {c : Call} {task : Task} (h : c.task? = some task) (k : Keyring) :
    (c.run k).keyring = (runTask task ⟨c.environment, k, c.around⟩).keyring := by
  obtain ⟨verbose, hrun⟩ := run_of_task h k
  rw [hrun]
  rfl

/-! ## Keeping and deleting -/

section

variable {k : Keyring} {uid secret : String}

theorem make_texts_eq_ok_iff {c : Credentials} :
    Credentials.make (.text uid) (.text secret) = .ok c ↔
      uid ≠ "" ∧ secret ≠ "" ∧ c = ⟨.text uid, .text secret⟩ := by
  rw [Credentials.make_eq_ok_iff]
  simp [Data.isGiven]

theorem storeSecret_of_given (hworks : k.faults.store = none) (huid : uid ≠ "")
    (hsecret : secret ≠ "") :
    (storeSecret uid secret k).shown = .ok (0, "Stored shared secret for " ++ uid ++ "\n") ∧
      (storeSecret uid secret k).keyring = k.put secretService uid secret := by
  unfold storeSecret SecretStore.store
  rw [make_texts_eq_ok_iff.2 ⟨huid, hsecret, rfl⟩, hworks]
  exact ⟨rfl, rfl⟩

theorem storeSecret_of_empty (h : uid = "" ∨ secret = "") :
    (storeSecret uid secret k).shown = .ok (1, "") ∧ (storeSecret uid secret k).keyring = k := by
  unfold storeSecret
  cases hmake : Credentials.make (.text uid) (.text secret) with
  | error e => exact ⟨rfl, rfl⟩
  | ok c =>
    obtain ⟨huid, hsecret, -⟩ := make_texts_eq_ok_iff.1 hmake
    exact absurd h (not_or.2 ⟨huid, hsecret⟩)

theorem deleteSecret_of_found (hworks : k.faults.delete = none)
    (hfound : k.find? secretService uid = some secret) :
    (deleteSecret uid k).shown = .ok (0, "Deleted shared secret for " ++ uid ++ "\n") ∧
      (deleteSecret uid k).keyring = k.erase secretService uid := by
  unfold deleteSecret SecretStore.delete
  rw [hworks, hfound]
  exact ⟨rfl, rfl⟩

theorem deleteSecret_of_absent (hworks : k.faults.delete = none)
    (habsent : k.find? secretService uid = none) :
    (deleteSecret uid k).shown = .ok (1, "") ∧ (deleteSecret uid k).keyring = k := by
  unfold deleteSecret SecretStore.delete
  rw [hworks, habsent]
  exact ⟨rfl, rfl⟩

theorem deleteSecret_shown_iff (hworks : k.faults.delete = none) :
    (deleteSecret uid k).shown = .ok (0, "Deleted shared secret for " ++ uid ++ "\n") ↔
      ∃ secret, k.find? secretService uid = some secret := by
  cases hfound : k.find? secretService uid with
  | none =>
    rw [(deleteSecret_of_absent hworks hfound).1]
    simp
  | some secret => exact iff_of_true (deleteSecret_of_found hworks hfound).1 ⟨secret, rfl⟩

end

namespace Task

variable {u uid secret : String}

theorem secretFor?_store (hu : u ≠ "") (hsecret : secret ≠ "") :
    (store u secret).secretFor? uid = if u = uid then some (some secret) else none := by
  simp only [secretFor?, ne_eq, hu, hsecret, not_false_eq_true, and_true]

theorem secretFor?_store_of_empty (h : u = "" ∨ secret = "") :
    (store u secret).secretFor? uid = none :=
  if_neg fun hgiven => h.elim hgiven.2.1 hgiven.2.2

theorem secretFor?_delete : (delete u).secretFor? uid = if u = uid then some none else none := rfl

theorem secretFor?_eq_some_of_store {kept : Option String}
    (h : (store u secret).secretFor? uid = some kept) :
    u = uid ∧ u ≠ "" ∧ secret ≠ "" ∧ kept = some secret := by
  by_cases hempty : u = "" ∨ secret = ""
  · rw [secretFor?_store_of_empty hempty] at h
    cases h
  · obtain ⟨hu, hsecret⟩ := not_or.1 hempty
    rw [secretFor?_store hu hsecret, Option.ite_none_right_eq_some, Option.some.injEq] at h
    exact ⟨h.1, hu, hsecret, h.2.symm⟩

theorem secretFor?_eq_some_of_delete {kept : Option String}
    (h : (delete u).secretFor? uid = some kept) :
    u = uid ∧ kept = none := by
  rw [secretFor?_delete, Option.ite_none_right_eq_some, Option.some.injEq] at h
  exact ⟨h.1, h.2.symm⟩

theorem ne_empty_of_secretFor? {task : Task} (h : task.secretFor? uid = some (some secret)) :
    uid ≠ "" ∧ secret ≠ "" := by
  cases task with
  | store u s =>
    obtain ⟨rfl, hu, hs, hkept⟩ := secretFor?_eq_some_of_store h
    cases hkept
    exact ⟨hu, hs⟩
  | delete u => cases (secretFor?_eq_some_of_delete h).2
  | _ => cases h

theorem account?_of_secretFor? {task : Task} {kept : Option String}
    (h : task.secretFor? uid = some kept) :
    task.account? = some uid := by
  cases task with
  | store u s => exact congrArg some (secretFor?_eq_some_of_store h).1
  | delete u => exact congrArg some (secretFor?_eq_some_of_delete h).1
  | _ => cases h

end Task

/-- A task changes what is found under the accounts it says something of, and the keyring stays in
order. -/
theorem keyring_runTask (task : Task) {place : Place} (hworks : place.keyring.faults = {}) :
    (runTask task place).keyring.faults = {} ∧
      ∀ uid, (runTask task place).keyring.find? secretService uid =
      (task.secretFor? uid).getD (place.keyring.find? secretService uid) := by
  cases task with
  | store u secret =>
    change (storeSecret u secret place.keyring).keyring.faults = {} ∧ ∀ uid,
      (storeSecret u secret place.keyring).keyring.find? secretService uid = _
    by_cases hempty : u = "" ∨ secret = ""
    · rw [(storeSecret_of_empty hempty).2]
      refine ⟨hworks, fun uid => ?_⟩
      rw [Task.secretFor?_store_of_empty hempty]
      rfl
    · obtain ⟨hu, hsecret⟩ := not_or.1 hempty
      rw [(storeSecret_of_given (by rw [hworks]) hu hsecret).2]
      refine ⟨(Keyring.faults_put ..).trans hworks, fun uid => ?_⟩
      rw [Keyring.find?_put, Task.secretFor?_store hu hsecret]
      by_cases hsame : u = uid <;> simp [hsame]
  | delete u =>
    change (deleteSecret u place.keyring).keyring.faults = {} ∧ ∀ uid,
      (deleteSecret u place.keyring).keyring.find? secretService uid = _
    cases hfound : place.keyring.find? secretService u with
    | none =>
      rw [(deleteSecret_of_absent (by rw [hworks]) hfound).2]
      refine ⟨hworks, fun uid => ?_⟩
      rw [Task.secretFor?_delete]
      split
      · next hu => exact hu ▸ hfound
      · rfl
    | some secret =>
      rw [(deleteSecret_of_found (by rw [hworks]) hfound).2]
      refine ⟨hworks, fun uid => ?_⟩
      rw [Keyring.find?_erase, Task.secretFor?_delete]
      by_cases hu : u = uid <;> simp [hu]
  | _ => exact ⟨hworks, fun _ => rfl⟩

theorem keyring_run (c : Call) {k : Keyring} (hworks : k.faults = {}) :
    (c.run k).keyring.faults = {} ∧ ∀ uid, (c.run k).keyring.find? secretService uid =
      (c.secretFor? uid).getD (k.find? secretService uid) := by
  unfold Call.secretFor?
  cases htask : c.task? with
  | none =>
    rw [Call.keyring_run_of_no_task htask]
    exact ⟨hworks, fun _ => rfl⟩
  | some task =>
    rw [Call.keyring_run htask]
    exact keyring_runTask task hworks

/-! ## Calls one after the other -/

theorem keptSecret?_concat (calls : List Call) (c : Call) (uid : String) :
    keptSecret? (calls ++ [c]) uid = (c.secretFor? uid).getD (keptSecret? calls uid) := by
  unfold keptSecret?
  rw [List.filterMap_append]
  cases hnamed : c.secretFor? uid with
  | none => simp [hnamed]
  | some kept => simp [hnamed]

/-- What is found in the keyring after calls is what they leave. -/
theorem find?_keyringAfter (calls : List Call) :
    (keyringAfter calls).faults = {} ∧
      ∀ uid, (keyringAfter calls).find? secretService uid = keptSecret? calls uid := by
  -- From the end: what the last call says goes before what is there.
  induction calls using List.reverseRecOn with
  | nil => exact ⟨rfl, fun _ => rfl⟩
  | append_singleton calls c ih =>
    have hstep := keyring_run c ih.1
    unfold keyringAfter at ih hstep ⊢
    rw [List.foldl_append]
    refine ⟨hstep.1, fun uid => ?_⟩
    rw [keptSecret?_concat, ← ih.2]
    exact hstep.2 uid

theorem ne_empty_of_keptSecret? {calls : List Call} {uid secret : String}
    (h : keptSecret? calls uid = some secret) : uid ≠ "" ∧ secret ≠ "" := by
  have hsaid : some secret ∈ calls.filterMap (·.secretFor? uid) :=
    List.mem_of_getLast? (Option.join_eq_some_iff.1 h)
  obtain ⟨c, -, hc⟩ := List.mem_filterMap.1 hsaid
  obtain ⟨task, -, htask⟩ := Option.bind_eq_some_iff.1 hc
  exact Task.ne_empty_of_secretFor? htask

theorem keptSecret?_empty (calls : List Call) : keptSecret? calls "" = none := by
  cases hkept : keptSecret? calls "" with
  | none => rfl
  | some secret => exact absurd rfl (ne_empty_of_keptSecret? hkept).1

/-- What calls leave under an account depends on the calls about that account only. -/
theorem keptSecret?_of_account (calls : List Call) (uid : String) :
    keptSecret? (calls.filter (·.account? = some uid)) uid = keptSecret? calls uid := by
  unfold keptSecret?
  rw [List.filterMap_filter]
  refine congrArg (fun f => (calls.filterMap f).getLast?.join) (funext fun c => ?_)
  split
  · rfl
  · next hother =>
    cases hnamed : c.secretFor? uid with
    | none => rfl
    | some kept =>
      obtain ⟨task, htask, hkept⟩ := Option.bind_eq_some_iff.1 hnamed
      refine absurd (decide_eq_true ?_) hother
      unfold Call.account?
      rw [htask]
      exact Task.account?_of_secretFor? hkept

/-! ## Signing with a kept secret -/

section

variable {r : RequestArguments} {secret : Option String} {showString : Bool} {place : Place}
  {uid : String}

/-- A keyring that can be read gives an account and its secret just as arguments do. -/
theorem resolveCredentials_of_readable (huid : r.uid = some uid)
    (hread : place.keyring.faults.read = none) :
    resolveCredentials r secret true place =
      (place.keyring.find? secretService uid).elim (.error (.credential (.notStored uid)))
        fun s => (Credentials.make (.text uid) (.text s)).mapError .credential := by
  rw [resolveCredentials_of_keyring huid]
  cases hfound : place.keyring.find? secretService uid with
  | none => rw [SecretStore.load_of_absent (s := {}) hread hfound]; rfl
  | some s => rw [SecretStore.load_of_found (s := {}) hread hfound]; rfl

/-- Where credentials come from is not to be seen in what is printed. -/
theorem printSigned_congr {secret' : Option String} {fromKeyring fromKeyring' : Bool}
    {place' : Place}
    (h : resolveCredentials r secret fromKeyring place =
      resolveCredentials r secret' fromKeyring' place')
    (haround : place.around = place'.around) :
    (printSigned r secret fromKeyring showString place).1 =
      (printSigned r secret' fromKeyring' showString place').1 := by
  have hpass : Pass.of r secret fromKeyring place = Pass.of r secret' fromKeyring' place' := by
    unfold Pass.of
    rw [h, haround]
  rw [printSigned_eq, printSigned_eq, hpass, haround]

theorem shown_sign (r : RequestArguments) (secret : Option String) (fromKeyring showString : Bool)
    (place : Place) :
    (runTask (.sign r secret fromKeyring showString) place).shown =
      (conclude (fun e => isPlain e || isLibraryError e) "Error signing request"
        (printSigned r secret fromKeyring showString place).1).map fun o => (o.exit, o.out) := rfl

/-- Without credentials the command tells that, or an error of the request. -/
theorem shown_sign_of_error {fromKeyring : Bool} {e : Error}
    (h : resolveCredentials r secret fromKeyring place = .error e) :
    (runTask (.sign r secret fromKeyring showString) place).shown = .ok (1, "") := by
  have herror : ∃ e', (printSigned r secret fromKeyring showString place).1 = .error e' ∧
      (isPlain e' || isLibraryError e') = true := by
    unfold printSigned
    cases hrequest : r.toRequest with
    | error e' =>
      obtain ⟨cause, rfl⟩ := RequestArguments.toRequest_eq_error hrequest
      exact ⟨_, rfl, rfl⟩
    | ok request =>
      rw [h]
      exact ⟨e, rfl, isTold_of_resolveCredentials h⟩
  obtain ⟨e', hprinted, htold⟩ := herror
  rw [shown_sign, hprinted]
  obtain ⟨o, ho, hconcludes⟩ :=
    concludes_conclude fun e (he : Except.error e' = .error e) =>
      Or.inr (Except.error.inj he ▸ htold)
  rw [ho]
  cases hconcludes with
  | cancelled => cases htold
  | told => rfl

variable {c : Call} {k : Keyring}

/-- To sign with a secret of the keyring is to sign with that secret among the arguments. -/
theorem Call.shown_sign_of_found {s : String}
    (htask : c.task? = some (.sign r secret true showString)) (huid : r.uid = some uid)
    (hread : k.faults.read = none) (hfound : k.find? secretService uid = some s) {d : Call}
    (hd : d.task? = some (.sign r (some s) false showString)) (haround : d.around = c.around)
    (other : Keyring) : (c.run k).shown = (d.run other).shown := by
  have hkept : resolveCredentials r secret true ⟨c.environment, k, c.around⟩ = _ :=
    resolveCredentials_of_readable huid hread
  have hgiven : resolveCredentials r (some s) false ⟨d.environment, other, d.around⟩ = _ :=
    resolveCredentials_of_both huid
  rw [hfound, Option.elim_some, ← hgiven] at hkept
  rw [shown_run htask, shown_run hd, shown_sign, shown_sign, printSigned_congr hkept haround.symm]

theorem Call.shown_sign_of_absent (htask : c.task? = some (.sign r secret true showString))
    (huid : r.uid = some uid) (hread : k.faults.read = none)
    (habsent : k.find? secretService uid = none) :
    (c.run k).shown = .ok (1, "") := by
  have hcredentials : resolveCredentials r secret true ⟨c.environment, k, c.around⟩ = _ :=
    resolveCredentials_of_readable huid hread
  rw [habsent] at hcredentials
  rw [shown_run htask]
  exact shown_sign_of_error hcredentials

end

/-! ## Calls that share a keyring -/

/-- What a call about an account shows depends on what is found under that account only. -/
theorem Call.shown_run_congr {c : Call} {uid : String} (haccount : c.account? = some uid)
    {k k' : Keyring} (hworks : k.faults = {}) (hworks' : k'.faults = {})
    (hsame : k.find? secretService uid = k'.find? secretService uid) :
    (c.run k).shown = (c.run k').shown := by
  obtain ⟨task, htask, haccount⟩ := Option.bind_eq_some_iff.1 haccount
  rw [shown_run htask, shown_run htask]
  cases task with
  | store u secret =>
    change (storeSecret u secret k).shown = (storeSecret u secret k').shown
    by_cases hempty : u = "" ∨ secret = ""
    · rw [(storeSecret_of_empty hempty).1, (storeSecret_of_empty hempty).1]
    · obtain ⟨hu, hsecret⟩ := not_or.1 hempty
      rw [(storeSecret_of_given (by rw [hworks]) hu hsecret).1,
        (storeSecret_of_given (by rw [hworks']) hu hsecret).1]
  | delete u =>
    obtain rfl := Option.some.inj haccount
    change (deleteSecret u k).shown = (deleteSecret u k').shown
    cases hfound : k.find? secretService u with
    | none =>
      rw [(deleteSecret_of_absent (by rw [hworks]) hfound).1,
        (deleteSecret_of_absent (by rw [hworks']) (hsame ▸ hfound)).1]
    | some secret =>
      rw [(deleteSecret_of_found (by rw [hworks]) hfound).1,
        (deleteSecret_of_found (by rw [hworks']) (hsame ▸ hfound)).1]
  | sign r secret fromKeyring showString =>
    cases fromKeyring with
    | false => cases haccount
    | true =>
      have hcredentials : resolveCredentials r secret true ⟨c.environment, k, c.around⟩ =
          resolveCredentials r secret true ⟨c.environment, k', c.around⟩ := by
        rw [resolveCredentials_of_readable haccount (by rw [hworks]),
          resolveCredentials_of_readable haccount (by rw [hworks']), hsame]
      rw [shown_sign, shown_sign, printSigned_congr hcredentials rfl]
  | _ => cases haccount

/-- Calls that share a keyring keep and delete secrets as in a map from accounts to secrets. To sign
with the keyring is to sign with the secret that earlier calls left, whatever else is in the
keyring, and an error if they left none. An account is deleted exactly if there is a secret for it.
Empty accounts and secrets are refused, and then the keyring stays as it was. Calls about other
accounts do not count. -/
theorem secrets_act_as_map (calls : List Call) :
    let keyring := keyringAfter calls
    (∀ (c : Call) r secret showString uid, c.task? = some (.sign r secret true showString) →
      r.uid = some uid →
        (∀ s, keptSecret? calls uid = some s →
          ∀ (d : Call) other, d.task? = some (.sign r (some s) false showString) →
            d.around = c.around →
            (c.run keyring).shown = (d.run other).shown) ∧
        (keptSecret? calls uid = none → (c.run keyring).shown = .ok (1, ""))) ∧
    (∀ (c : Call) uid, c.task? = some (.delete uid) →
      ((c.run keyring).shown = .ok (0, "Deleted shared secret for " ++ uid ++ "\n") ↔
        ∃ s, keptSecret? calls uid = some s) ∧
      (keptSecret? calls uid = none ∨ uid = "" →
        (c.run keyring).shown = .ok (1, "") ∧ (c.run keyring).keyring = keyring)) ∧
    (∀ (c : Call) uid secret, c.task? = some (.store uid secret) →
      (uid ≠ "" → secret ≠ "" →
        (c.run keyring).shown = .ok (0, "Stored shared secret for " ++ uid ++ "\n")) ∧
      (uid = "" ∨ secret = "" →
        (c.run keyring).shown = .ok (1, "") ∧ (c.run keyring).keyring = keyring)) ∧
    ∀ (c : Call) uid, c.account? = some uid → ∀ others : List Call,
      others.filter (·.account? = some uid) = calls.filter (·.account? = some uid) →
        (c.run (keyringAfter others)).shown = (c.run keyring).shown := by
  intro keyring
  obtain ⟨hworks, hfind⟩ := find?_keyringAfter calls
  refine ⟨fun c r secret showString uid htask huid => ⟨fun s hkept d other hd haround => ?_,
    fun hnone => ?_⟩, fun c uid htask => ?_, fun c uid secret htask => ?_,
    fun c uid haccount others hothers => ?_⟩
  · exact Call.shown_sign_of_found htask huid (by rw [hworks]) ((hfind uid).trans hkept) hd haround
      other
  · exact Call.shown_sign_of_absent htask huid (by rw [hworks]) ((hfind uid).trans hnone)
  · rw [Call.shown_run htask, Call.keyring_run htask, ← hfind]
    refine ⟨deleteSecret_shown_iff (by rw [hworks]),
      fun h => deleteSecret_of_absent (by rw [hworks]) ?_⟩
    rcases h with habsent | rfl
    · exact habsent
    · exact (hfind "").trans (keptSecret?_empty calls)
  · rw [Call.shown_run htask, Call.keyring_run htask]
    exact ⟨fun hu hsecret => (storeSecret_of_given (by rw [hworks]) hu hsecret).1,
      storeSecret_of_empty⟩
  · obtain ⟨hworks', hfind'⟩ := find?_keyringAfter others
    refine Call.shown_run_congr haccount hworks' hworks ?_
    rw [hfind, hfind', ← keptSecret?_of_account, hothers, keptSecret?_of_account]

/-- A secret that is replaced, one that is deleted and one that is refused. -/
theorem secrets_act_as_map_over_replaced :
    let store (uid secret : String) : Call :=
      { args := ["credentials", "store", "--uid", uid, "--secret", secret] }
    let delete (uid : String) : Call := { args := ["credentials", "delete", "--uid", uid] }
    let sign (options : List String) : Call :=
      { args := ["sign", "--path", "/x", "--date", "d"] ++ options }
    let calls :=
      [store "alice" "BAUG", store "bob" "CAkK", store "alice" "AQID", delete "bob",
       store "alice" ""]
    let keyring := keyringAfter calls
    let signAlice := sign ["--keyring", "--uid", "alice"]
    (signAlice.run keyring).shown = ((sign ["--uid", "alice", "--secret", "AQID"]).run {}).shown ∧
      ((sign ["--keyring", "--uid", "bob"]).run keyring).shown = .ok (1, "") ∧
      ((delete "alice").run keyring).shown = .ok (0, "Deleted shared secret for alice\n") ∧
      ((delete "bob").run keyring).shown = .ok (1, "") ∧
      ((store "bob" "AQID").run keyring).shown = .ok (0, "Stored shared secret for bob\n") ∧
      ((store "" "AQID").run keyring).shown = .ok (1, "") ∧
      (signAlice.run (keyringAfter (calls.filter (·.account? = some "alice")))).shown =
        (signAlice.run keyring).shown := by
  intro store delete sign calls keyring signAlice
  have hkept : keptSecret? calls "alice" = some "AQID" := by decide +kernel
  have hdeleted : keptSecret? calls "bob" = none := by decide +kernel
  have hsign : signAlice.task? =
      some (.sign ⟨"GET", "/x", [], none, some "d", some "alice"⟩ none true false) := by
        decide +kernel
  have hgiven : (sign ["--uid", "alice", "--secret", "AQID"]).task? =
      some (.sign ⟨"GET", "/x", [], none, some "d", some "alice"⟩ (some "AQID") false false) := by
    decide +kernel
  have hsignBob : (sign ["--keyring", "--uid", "bob"]).task? =
      some (.sign ⟨"GET", "/x", [], none, some "d", some "bob"⟩ none true false) := by
        decide +kernel
  have hdelete : (delete "alice").task? = some (.delete "alice") := by decide +kernel
  have hdeleteBob : (delete "bob").task? = some (.delete "bob") := by decide +kernel
  have hstore : (store "bob" "AQID").task? = some (.store "bob" "AQID") := by decide +kernel
  have hstoreEmpty : (store "" "AQID").task? = some (.store "" "AQID") := by decide +kernel
  have haccount : signAlice.account? = some "alice" := by decide +kernel
  obtain ⟨hsigns, hdeletes, hstores, hothers⟩ := secrets_act_as_map calls
  exact ⟨(hsigns _ _ _ _ _ hsign rfl).1 _ hkept _ _ hgiven rfl,
    (hsigns _ _ _ _ _ hsignBob rfl).2 hdeleted, (hdeletes _ _ hdelete).1.2 ⟨_, hkept⟩,
    ((hdeletes _ _ hdeleteBob).2 (.inl hdeleted)).1,
    (hstores _ _ _ hstore).1 (by decide) (by decide), ((hstores _ _ _ hstoreEmpty).2 (.inl rfl)).1,
    hothers _ _ haccount _ (by rw [List.filter_filter]; simp only [Bool.and_self])⟩

end RequestSigning.CommandLine
