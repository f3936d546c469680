import RequestSigning.Error.Signing

/-!
# Errors of the library

The causes of every failure outside signing itself, and the sum of all of them.
-/

namespace RequestSigning

inductive KeyringAction
  | store
  | read
  | delete
  deriving DecidableEq, Repr

inductive CredentialError
  | emptyUid
  | emptySecret
  | missingVariables (names : List String)
  | keyring (action : KeyringAction) (cause : String) (uid : String)
  | notStored (uid : String)
  deriving DecidableEq, Repr

namespace CredentialError

def message : CredentialError → String
  | emptyUid => "UID cannot be empty"
  | emptySecret => "Shared secret cannot be empty"
  | missingVariables names => "Missing environment variables: " ++ ", ".intercalate names
  | keyring .store cause _ => "Failed to store secret in keyring: " ++ cause
  | keyring .read cause _ => "Failed to read secret from keyring: " ++ cause
  | keyring .delete cause _ => "Failed to delete secret from keyring: " ++ cause
  | notStored uid => "No shared secret stored for uid " ++ uid

def code : CredentialError → String
  | emptyUid => "INVALID_UID"
  | emptySecret => "INVALID_SECRET"
  | missingVariables _ | notStored _ => "CREDENTIALS_NOT_FOUND"
  | keyring .. => "KEYRING_ERROR"

def details : CredentialError → List (String × Value)
  | missingVariables names => [("missing", .list (names.map .text))]
  | keyring _ _ uid | notStored uid => [("uid", .text uid)]
  | _ => []

end CredentialError

inductive KeyKind
  | privateKey
  | publicKey
  | certificate
  deriving DecidableEq, Repr

/-- Symbols that a codec does not encode: the first of them, where the run of them starts and
ends. -/
structure Unencodable where
  symbol : Json.Symbol
  first : Nat
  last : Nat
  deriving DecidableEq, Repr

namespace Unencodable

/-- The first run of symbols in a text that are not encoded. -/
def find? (encodes : Json.Symbol → Bool) (t : Json.Text) : Option Unencodable :=
  match t.dropWhile encodes with
  | [] => none
  | s :: rest =>
    let first := (t.takeWhile encodes).length
    some ⟨s, first, first + (rest.takeWhile (!encodes ·)).length⟩

/-- What a codec says of the symbols; they are escaped, half pairs too. -/
def message (u : Unencodable) (codec reason : String) : String :=
  if u.first = u.last then
    "'" ++ codec ++ "' codec can't encode character '"
      ++ String.ofList (Text.codeEscape u.symbol.code) ++ "' in position "
      ++ Decimal.natText u.first ++ ": " ++ reason
  else
    "'" ++ codec ++ "' codec can't encode characters in position " ++ Decimal.natText u.first ++ "-"
      ++ Decimal.natText u.last ++ ": " ++ reason

def asciiMessage (u : Unencodable) : String := u.message "ascii" "ordinal not in range(128)"

def utf8Message (u : Unencodable) : String := u.message "utf-8" "surrogates not allowed"

end Unencodable

inductive KeyMaterialError
  | noText
  | notAscii (u : Unencodable)
  | unreadable (kind : KeyKind)
  | unknownKind (shown : String)
  deriving DecidableEq, Repr

namespace KeyMaterialError

def message : KeyMaterialError → String
  | noText => "PEM text must be a non-empty string"
  | notAscii u => "PEM text must be ASCII: " ++ u.asciiMessage
  | unreadable .privateKey => "Failed to parse PEM private key"
  | unreadable .publicKey => "Failed to parse PEM public key"
  | unreadable .certificate => "Failed to parse PEM certificate"
  | unknownKind shown => "Unsupported key material kind: " ++ shown

def code : KeyMaterialError → String
  | noText | notAscii _ => "INVALID_PEM_INPUT"
  | unreadable _ => "INVALID_PEM"
  | unknownKind _ => "UNSUPPORTED_FORMAT"

end KeyMaterialError

/-- Why text is no document: it is not even a text, or the text is malformed. -/
inductive LoadFault
  | notText (kind : String)
  | malformed (m : Json.Malformed)
  deriving DecidableEq, Repr

def LoadFault.message : LoadFault → String
  | notText kind => "the JSON object must be str, bytes or bytearray, not " ++ kind
  | malformed m => m.message

inductive DocumentError
  | malformed (fault : LoadFault)
  | malformedItem (fault : LoadFault)
  | itemNotObject
  | itemWithoutId
  | notTextDocument
  | notADate (text : String)
  deriving DecidableEq, Repr

namespace DocumentError

def message : DocumentError → String
  | malformed fault => "Invalid JSON: " ++ fault.message
  | malformedItem fault => "Invalid data bag item JSON: " ++ fault.message
  | itemNotObject => "Data bag item must be a JSON object"
  | itemWithoutId => "Data bag item requires a string 'id' field"
  | notTextDocument => "Expected a JSON string"
  | notADate text => "Invalid ISO-8601 date: " ++ text

def code : DocumentError → String
  | malformed _ | malformedItem _ => "PARSE_ERROR"
  | itemNotObject | notTextDocument => "INVALID_FORMAT"
  | itemWithoutId => "MISSING_ID"
  | notADate _ => "INVALID_DATE"

end DocumentError

inductive FieldFault
  | missing (name : String)
  /-- A value of this kind has no such operation. -/
  | unsupported (kind : String) (operation : String)
  deriving DecidableEq, Repr

def FieldFault.message : FieldFault → String
  | missing name => Text.quoted name
  | unsupported kind operation => "'" ++ kind ++ "' object has no attribute '" ++ operation ++ "'"

inductive ConfigError
  | malformedField (fault : FieldFault)
  | malformed (m : Json.Malformed)
  | notObject
  | unreadableFile (path : String) (cause : String)
  | missingVariables (names : List String)
  | emptyEndpoint
  | endpointNotUrl (endpoint : String)
  | emptyUid
  | emptySecret
  | unknownLevel (level : String)
  deriving DecidableEq, Repr

namespace ConfigError

def message : ConfigError → String
  | malformedField fault => "Invalid configuration format: " ++ fault.message
  | malformed m => "Failed to parse configuration JSON: " ++ m.message
  | notObject => "Configuration must be a JSON object"
  | unreadableFile path cause => "Failed to read configuration file " ++ path ++ ": " ++ cause
  | missingVariables names => "Missing environment variables: " ++ ", ".intercalate names
  | emptyEndpoint => "Endpoint cannot be empty"
  | endpointNotUrl endpoint => "Endpoint must be an http(s) URL: " ++ endpoint
  | emptyUid => "UID cannot be empty"
  | emptySecret => "Shared secret cannot be empty"
  | unknownLevel level => "Invalid log level: " ++ level

def code : ConfigError → String
  | malformedField _ | notObject => "INVALID_FORMAT"
  | malformed _ => "PARSE_ERROR"
  | unreadableFile .. => "FILE_ERROR"
  | missingVariables _ | emptyEndpoint | emptyUid | emptySecret => "MISSING_VALUE"
  | endpointNotUrl _ | unknownLevel _ => "INVALID_VALUE"

end ConfigError

/-- A request that did not get through to the server. -/
structure CommunicationError where
  method : String
  url : String
  cause : String
  deriving DecidableEq, Repr

namespace CommunicationError

def message (e : CommunicationError) : String := "Request to " ++ e.url ++ " failed: " ++ e.cause

def code (_ : CommunicationError) : String := "NETWORK_ERROR"

def details (e : CommunicationError) : List (String × String) :=
  [("method", e.method), ("url", e.url)]

end CommunicationError

inductive Error
  /-- A value is of a kind that an operation does not take. -/
  | wrongKind
  /-- A value is of a kind that does not have an operation. -/
  | unsupported
  | invalid (cause : Invalid)
  | malformedDocument (m : Json.Malformed)
  | undecodable (e : Text.Utf8Error)
  /-- A time does not fit the clock. -/
  | timeOverflow
  /-- A time is refused by the system's calendar. -/
  | timeUnsupported
  | signing (e : SigningError)
  | credential (e : CredentialError)
  | keyMaterial (e : KeyMaterialError)
  | document (e : DocumentError)
  | config (e : ConfigError)
  | communication (e : CommunicationError)
  /-- The transport broke down in a way that is not one of its own errors. -/
  | transport (message : String)
  /-- A value that no codec writes. -/
  | unwritable (message : String)
  /-- The user broke off the program. -/
  | interrupted
  deriving DecidableEq, Repr

/-- A document that cannot be read outside a decoder that gives its own error. -/
def Error.ofJson : Json.Error → Error
  | .malformed m => .malformedDocument m
  | .tooManyDigits count => .invalid (.tooManyDigits count)

def Error.ofInstant : Date.InstantError → Error
  | .notANumber => .invalid .instantNotANumber
  | .beyondSeconds => .timeOverflow
  | .beyondYears => .timeUnsupported
  | .yearOutOfRange year => .invalid (.yearOutOfRange year)

/-- A byte in hexadecimal digits. -/
def byteText (b : UInt8) : String := String.ofList ('0' :: 'x' :: Text.hexChars 2 b.toNat)

def utf8Message (e : Text.Utf8Error) : String :=
  let reason := match e.fault with
    | .invalidStart => "invalid start byte"
    | .invalidContinuation => "invalid continuation byte"
    | .unexpectedEnd => "unexpected end of data"
  if e.first = e.last then
    "'utf-8' codec can't decode byte " ++ byteText e.byte ++ " in position "
      ++ Decimal.natText e.first ++ ": " ++ reason
  else
    "'utf-8' codec can't decode bytes in position " ++ Decimal.natText e.first ++ "-"
      ++ Decimal.natText e.last ++ ": " ++ reason

end RequestSigning
