import RequestSigning.Credential.Keyring

/-!
# A keyring as a map

What is found under a service and a user is the password that was put there last, unless it was
erased; other services and users do not count. A keyring that is in order lets the store of secrets
keep, read and delete them without more ado.
-/

namespace RequestSigning

namespace Keyring

variable {service user : String} {e : KeyringEntry}

theorem isAt_iff : isAt service user e = true ↔ e.service = service ∧ e.user = user := by
  unfold isAt
  rw [Bool.and_eq_true, beq_iff_eq, beq_iff_eq]

/-- An entry stands at one place only. -/
theorem isAt_eq_false {service' user' : String} (h : isAt service' user' e = true)
    (hother : ¬ (service = service' ∧ user = user')) : isAt service user e = false := by
  obtain ⟨rfl, rfl⟩ := isAt_iff.1 h
  rw [Bool.eq_false_iff, Ne, isAt_iff]
  exact fun hsame => hother ⟨hsame.1.symm, hsame.2.symm⟩

theorem find?_put_self (k : Keyring) (service user password : String) :
    (k.put service user password).find? service user = some password := by
  have hnew : isAt service user ⟨service, user, password⟩ = true := isAt_iff.2 ⟨rfl, rfl⟩
  unfold put find?
  split
  · next hany =>
    obtain ⟨old, hold⟩ := Option.isSome_iff_exists.1 (List.find?_isSome.2 (List.any_eq_true.1 hany))
    have hreplaced : ((isAt service user) ∘ fun old =>
        if isAt service user old then (⟨service, user, password⟩ : KeyringEntry) else old) =
        isAt service user := by
      funext e
      by_cases he : isAt service user e = true <;> simp [he, hnew]
    rw [List.find?_map, hreplaced, hold, Option.map_some, if_pos (List.find?_some hold)]
    rfl
  · next hnone =>
    have habsent : k.entries.find? (isAt service user) = none :=
      List.find?_eq_none.2 fun e he hat => hnone (List.any_eq_true.2 ⟨e, he, hat⟩)
    rw [List.find?_append, habsent, Option.none_or, List.find?_singleton, if_pos hnew]
    rfl

theorem find?_put_of_ne (k : Keyring) (password : String) {service' user' : String}
    (hother : ¬ (service = service' ∧ user = user')) :
    (k.put service user password).find? service' user' = k.find? service' user' := by
  have hnew : isAt service' user' ⟨service, user, password⟩ = false :=
    Bool.eq_false_iff.2 fun h => hother (isAt_iff.1 h)
  unfold put find?
  split
  · have hkept : ((isAt service' user') ∘ fun old =>
        if isAt service user old then (⟨service, user, password⟩ : KeyringEntry) else old) =
        isAt service' user' := by
      funext e
      by_cases he : isAt service user e = true
      · have hsame := isAt_eq_false he fun h => hother ⟨h.1.symm, h.2.symm⟩
        simp [he, hnew, hsame]
      · simp [he]
    rw [List.find?_map, hkept]
    cases hfound : k.entries.find? (isAt service' user') with
    | none => rfl
    | some e => rw [Option.map_some, isAt_eq_false (List.find?_some hfound) hother]; rfl
  · rw [List.find?_append, List.find?_singleton, hnew]
    exact congrArg _ (Option.or_none)

theorem find?_put (k : Keyring) (service user password service' user' : String) :
    (k.put service user password).find? service' user' =
      if service = service' ∧ user = user' then some password else k.find? service' user' := by
  split
  · next hsame =>
    obtain ⟨rfl, rfl⟩ := hsame
    exact k.find?_put_self service user password
  · next hother => exact k.find?_put_of_ne password hother

theorem find?_erase (k : Keyring) (service user service' user' : String) :
    (k.erase service user).find? service' user' =
      if service = service' ∧ user = user' then none else k.find? service' user' := by
  unfold erase find?
  rw [List.find?_filter]
  split
  · next hsame =>
    obtain ⟨rfl, rfl⟩ := hsame
    simp
  · next hother =>
    congr 2
    funext e
    cases hat : isAt service' user' e with
    | false => simp
    | true => simp [isAt_eq_false hat hother]

@[simp] theorem faults_put (k : Keyring) (service user password : String) :
    (k.put service user password).faults = k.faults := by
  unfold put
  split <;> rfl

end Keyring

namespace SecretStore

variable {s : SecretStore} {k : Keyring} {uid secret : String}

theorem load_of_found (hread : k.faults.read = none)
    (hfound : k.find? s.service uid = some secret) :
    s.load k uid = Credentials.make (.text uid) (.text secret) := by
  unfold load
  rw [hread, hfound]

theorem load_of_absent (hread : k.faults.read = none) (habsent : k.find? s.service uid = none) :
    s.load k uid = .error (.notStored uid) := by
  unfold load
  rw [hread, habsent]

end SecretStore

end RequestSigning
