import RequestSigning.Error.Basic
import RequestSigning.Text.Classes

/-!
# Credentials

An account and its shared secret, given directly or by two variables of the environment. A shared
secret is handed out in base64; the key of the signatures is what it decodes to.
-/

namespace RequestSigning

structure Credentials where
  uid : Loose
  secret : Loose

abbrev Environment := List (String × Value)

def uidVariable : String := "ATMOS_UID"

def secretVariable : String := "ATMOS_SECRET"

namespace Environment

def get (env : Environment) (name : String) : Value := (env.lookup name).getD .null

/-- Those of the names whose variables are not set or empty. -/
def missing (env : Environment) (names : List String) : List String :=
  names.filter fun n => !(env.get n).isGiven

end Environment

namespace Credentials

/-- Both parts must be given. -/
def make (uid secret : Loose) : Except CredentialError Credentials :=
  if !uid.isGiven then .error .emptyUid
  else if !secret.isGiven then .error .emptySecret
  else .ok ⟨uid, secret⟩

/-- The credentials in a message: the secret is not shown. -/
def inspect (c : Credentials) : String :=
  "Credentials(uid=" ++ c.uid.inspect ++ ", secret='***')"

/-- The credentials of the environment; both variables must be set. -/
def ofEnvironment (env : Environment) : Except CredentialError Credentials :=
  match env.missing [uidVariable, secretVariable] with
  | [] => make (env.get uidVariable).loose (env.get secretVariable).loose
  | names => .error (.missingVariables names)

end Credentials

/-! ## Shared secrets -/

namespace Secret

/-- The key of an encoded secret: blanks around it are dropped, the rest must be base64 of at least
one byte. -/
def decodeText (s : String) : Except KeyFault (List UInt8) :=
  if Text.allBlank s then .error .notText
  else
    match Base64.decode (Text.trim s) with
    | .error e => .error (.notBase64 e)
    | .ok [] => .error .decodesToNothing
    | .ok key => .ok key

/-- Half a pair is no more in base64 than the character that it is shown as. -/
def decode : Loose → Except KeyFault (List UInt8)
  | .text t => decodeText t.toString
  | _ => .error .notText

@[simp] theorem decode_text (s : String) : decode (.text (.ofString s)) = decodeText s := by
  rw [decode, Json.Text.toString_ofString]

/-- A failed decoding never gives an empty key. -/
theorem decodeText_ne_nil {s : String} {key : List UInt8} (h : decodeText s = .ok key) :
    key ≠ [] := by
  unfold decodeText at h
  split at h
  · cases h
  · split at h <;> cases h
    assumption

theorem exists_text_of_decode {v : Loose} {key : List UInt8} (h : decode v = .ok key) :
    ∃ t, v = .text t := by
  cases v with
  | text t => exact ⟨t, rfl⟩
  | _ => cases h

end Secret

end RequestSigning
