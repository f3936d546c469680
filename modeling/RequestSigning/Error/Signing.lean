import RequestSigning.Date.HttpDate
import RequestSigning.Digest.Outcome
import RequestSigning.Endpoint.Path
import RequestSigning.Header.Multimap
import RequestSigning.Json.Parser

/-!
# Errors of signing

Every error is a cause; its wording is one function of the cause.
-/

namespace RequestSigning

inductive Invalid
  | header (e : Header.Error)
  | emptyEndpoint
  | unsupportedMethod (method : String)
  | unknownMethod (method : String)
  | headersNotMapping
  | endpoint (e : Endpoint.Error)
  | instantNotANumber
  | yearOutOfRange (year : Int)
  | emptyUid
  | keyNotBytes
  | providerNotCallable
  | wireCapacity
  | unknownLevel (name : String)
  | headerArgument (argument : String)
  | keyringNeedsUid
  | tooManyDigits (count : Nat)
  /-- A whole number with too many digits is to be written. -/
  | wholeTooLong
  | embeddedNull
  deriving DecidableEq, Repr

def Invalid.message : Invalid → String
  | header e => e.message
  | emptyEndpoint => "Request endpoint cannot be empty"
  | unsupportedMethod method => "Unsupported HTTP method: " ++ method
  | unknownMethod method => method ++ " is not a valid HttpMethod"
  | headersNotMapping => "Headers must be a HeaderMultimap or a mapping"
  | endpoint e => e.message
  | instantNotANumber => "Invalid value NaN (not a number)"
  | yearOutOfRange year => "year " ++ Decimal.intText year ++ " is out of range"
  | emptyUid => "UID cannot be empty"
  | keyNotBytes => "Secret key must be bytes"
  | providerNotCallable => "Timestamp provider must be callable"
  | wireCapacity => "max_entries must be positive"
  | unknownLevel name => "Unknown level: " ++ name
  | headerArgument argument => "Header must look like NAME:VALUE, got " ++ Text.quoted argument
  | keyringNeedsUid => "--keyring requires --uid"
  | tooManyDigits count => (Json.Error.tooManyDigits count).message
  | wholeTooLong => "Exceeds the limit (4300 digits) for integer string conversion; use "
      ++ "sys.set_int_max_str_digits() to increase the limit"
  | embeddedNull => "embedded null byte"

inductive KeyFault
  | notText
  | notBase64 (e : Base64.Error)
  | decodesToNothing
  | empty
  | notBytes
  deriving DecidableEq, Repr

def KeyFault.message : KeyFault → String
  | notText => "Shared secret must be a non-empty base64 string"
  | notBase64 e => "Shared secret is not valid base64: " ++ e.message
  | decodesToNothing => "Shared secret decodes to an empty key"
  | empty => "Shared secret cannot be empty"
  | notBytes => "Shared secret must be non-empty bytes"

inductive SigningError
  | uidRequired
  | secretRequired
  | invalidConfig (cause : Invalid)
  | malformedKey (fault : KeyFault)
  | missingHeader (name : String)
  | failed (fault : Digest.Fault)
  deriving DecidableEq, Repr

namespace SigningError

def message : SigningError → String
  | uidRequired => "UID is required"
  | secretRequired => "Shared secret is required"
  | invalidConfig cause => "Invalid signing configuration: " ++ cause.message
  | malformedKey fault => fault.message
  | missingHeader name => "Required header not found: " ++ name
  | failed fault => fault.message

def code : SigningError → String
  | uidRequired => "INVALID_UID"
  | secretRequired | invalidConfig _ => "INVALID_CONFIG"
  | malformedKey _ => "INVALID_SECRET_KEY"
  | missingHeader _ => "MISSING_REQUIRED_HEADER"
  | failed _ => "SIGNING_FAILED"

def details : SigningError → List (String × String)
  | invalidConfig cause => [("original_error", cause.message)]
  | malformedKey (.notBase64 e) => [("original_error", e.message)]
  | missingHeader name => [("header", name)]
  | failed fault => [("original_error", fault.text)]
  | _ => []

end SigningError

end RequestSigning
