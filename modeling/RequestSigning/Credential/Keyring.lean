import RequestSigning.Credential.Basic
import RequestSigning.Request.Wire

/-!
# The keyring

A store of passwords by service and user. Any of its three operations can be out of order; then it
gives a text and leaves the store as it is.
-/

namespace RequestSigning

structure KeyringEntry where
  service : String
  user : String
  password : String
  deriving DecidableEq, Repr

/-- Why an operation of a keyring is out of order. -/
structure KeyringFaults where
  store : Option String := none
  read : Option String := none
  delete : Option String := none
  deriving DecidableEq, Repr

structure Keyring where
  entries : List KeyringEntry := []
  faults : KeyringFaults := {}
  deriving DecidableEq, Repr

namespace Keyring

def isAt (service user : String) (e : KeyringEntry) : Bool := e.service == service && e.user == user

def find? (k : Keyring) (service user : String) : Option String :=
  (k.entries.find? (isAt service user)).map (·.password)

/-- Puts a password in place of an older one, or at the end. -/
def put (k : Keyring) (service user password : String) : Keyring :=
  let e : KeyringEntry := ⟨service, user, password⟩
  if k.entries.any (isAt service user) then
    { k with entries := k.entries.map fun old => if isAt service user old then e else old }
  else { k with entries := k.entries ++ [e] }

def erase (k : Keyring) (service user : String) : Keyring :=
  { k with entries := k.entries.filter fun e => !isAt service user e }

/-- Service, user and password, each in this order. -/
def entryLe (a b : KeyringEntry) : Bool :=
  if a.service ≠ b.service then a.service < b.service
  else if a.user ≠ b.user then a.user < b.user
  else a.password ≤ b.password

def sorted (k : Keyring) : List KeyringEntry := k.entries.mergeSort entryLe

end Keyring

/-- The service under which shared secrets are kept. -/
def secretService : String := "Atmos SDK"

structure SecretStore where
  service : String := secretService

namespace SecretStore

def store (s : SecretStore) (k : Keyring) (uid secret : String) :
    Except CredentialError Unit × Keyring × List LogRecord :=
  match k.faults.store with
  | some cause => (.error (.keyring .store cause uid), k, [])
  | none => (.ok (), k.put s.service uid secret,
      [⟨.info, .credentials, "Stored shared secret for uid " ++ uid ++ " in keyring"⟩])

def load (s : SecretStore) (k : Keyring) (uid : String) : Except CredentialError Credentials :=
  match k.faults.read with
  | some cause => .error (.keyring .read cause uid)
  | none =>
    match k.find? s.service uid with
    | none => .error (.notStored uid)
    | some secret => Credentials.make (.text uid) (.text secret)

def delete (s : SecretStore) (k : Keyring) (uid : String) : Except CredentialError Bool × Keyring :=
  match k.faults.delete with
  | some cause => (.error (.keyring .delete cause uid), k)
  | none =>
    match k.find? s.service uid with
    | none => (.ok false, k)
    | some _ => (.ok true, k.erase s.service uid)

end SecretStore

end RequestSigning
