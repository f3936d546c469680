import RequestSigning.Base64
import RequestSigning.Digest.Sha1
import RequestSigning.Text.Utf8

/-!
# Signatures

The signature of a text is the keyed digest of its bytes in base64. The primitive that computes the
digest can fail at any of its three steps.
-/

namespace RequestSigning.Digest

inductive Step
  | create
  | feed
  | finish
  deriving DecidableEq, Repr

inductive FaultKind
  | unsupported
  | runtime
  | value
  /-- What was to be fed is no text. -/
  | notText
  /-- What was to be fed cannot be encoded. -/
  | unencodable
  deriving DecidableEq, Repr

structure Fault where
  step : Step
  kind : FaultKind
  text : String
  deriving DecidableEq, Repr

inductive Primitive
  | works
  | fails (fault : Fault)
  /-- The user breaks off the program at this step. -/
  | interrupted (step : Step)
  deriving DecidableEq, Repr

def Fault.message (f : Fault) : String :=
  match f.kind with
  | .unsupported => "HMAC-SHA1 is not available: " ++ f.text
  | _ => "error signing request: " ++ f.text

def signature (key : List UInt8) (text : String) : String :=
  Base64.encode (hmacSha1 key (Text.utf8Encode text))

end RequestSigning.Digest
