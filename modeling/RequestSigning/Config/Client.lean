import RequestSigning.Config.Files
import RequestSigning.Signing.Config

/-!
# Client configuration

Endpoint, credentials and logging of a client, from a document, a file or the environment. Fields
are checked when the configuration is loaded, the secret when it is turned into one for signing.
-/

namespace RequestSigning

structure LoggingConfig where
  level : Loose := .text "WARNING"
  logSignatures : Bool := false

structure ClientConfig where
  endpoint : Loose
  uid : Loose
  secret : Loose
  signatureWire : Bool := false
  logging : LoggingConfig := {}

/-- The value of a document. -/
def Json.toValue : Json → Loose
  | .null => .null
  | .bool b => .bool b
  | .int n => .int n
  | .float x => .float x
  | .text t => .text t
  | .list items => .list (toValues items)
  | .object entries => .table (toEntries entries)
where
  toValues : List Json → List Loose
    | [] => []
    | j :: js => toValue j :: toValues js
  toEntries : List (Json.Text × Json) → List (Loose × Loose)
    | [] => []
    | (k, v) :: es => (.text k, toValue v) :: toEntries es

namespace ClientConfig

def endpointVariable : String := "ATMOS_ENDPOINT"

def levelVariable : String := "ATMOS_LOG_LEVEL"

def wireVariable : String := "ATMOS_SIGNATURE_WIRE"

def validLevels : List String := ["DEBUG", "INFO", "WARNING", "ERROR", "CRITICAL"]

/-- An endpoint with one of the two web schemes. -/
def isUrl (t : Json.Text) : Bool :=
  (Json.Text.ofString "http://").isPrefixOf t || (Json.Text.ofString "https://").isPrefixOf t

/-- A value that has to be a text where `operation` is used on it. -/
def needText (v : Loose) (operation : String) : Except ConfigError Json.Text :=
  match v with
  | .text t => .ok t
  | _ => .error (.malformedField (.unsupported v.kind operation))

/-- Checks the fields in turn: endpoint, uid, secret, level. -/
def validate (c : ClientConfig) : Except ConfigError ClientConfig :=
  if !c.endpoint.isGiven then .error .emptyEndpoint
  else do
    let endpoint ← needText c.endpoint "startswith"
    if !isUrl endpoint then .error (.endpointNotUrl endpoint.toString)
    else if !c.uid.isGiven then .error .emptyUid
    else if !c.secret.isGiven then .error .emptySecret
    else
      let level ← needText c.logging.level "upper"
      if (validLevels.map Json.Text.ofString).contains level.upper then .ok c
      else .error (.unknownLevel level.toString)

def need (entries : List (Loose × Loose)) (name : String) : Except ConfigError Loose :=
  match Loose.find? name entries with
  | some v => .ok v
  | none => .error (.malformedField (.missing name))

def needTable (v : Loose) : Except ConfigError (List (Loose × Loose)) :=
  match v with
  | .table entries => .ok entries
  | _ => .error (.malformedField (.unsupported v.kind "get"))

def ofValue (v : Loose) : Except ConfigError ClientConfig := do
  let entries ← needTable v
  let loggingField := (Loose.find? "logging" entries).getD (.table [])
  let endpoint ← need entries "endpoint"
  let uid ← need entries "uid"
  let secret ← need entries "secret"
  let wire := ((Loose.find? "signature_wire" entries).getD (.bool false)).isGiven
  let logging ← needTable loggingField
  let level := (Loose.find? "level" logging).getD (.text "WARNING")
  let signatures := ((Loose.find? "log_signatures" logging).getD (.bool false)).isGiven
  validate ⟨endpoint, uid, secret, wire, ⟨level, signatures⟩⟩

def ofText (s : Json.Text) : Except Error ClientConfig :=
  match Json.parse s with
  | .error (.malformed m) => .error (.config (.malformed m))
  | .error (.tooManyDigits count) => .error (.invalid (.tooManyDigits count))
  | .ok (.object entries) =>
    match ofValue (Json.object entries).toValue with
    | .ok c => .ok c
    | .error e => .error (.config e)
  | .ok _ => .error (.config .notObject)

def ofFile (tree : FileTree) (path : String) : Except Error ClientConfig :=
  if path.toList.contains '\x00' then .error (.invalid .embeddedNull)
  else
    let p := FilePath.ofString path
    match tree.read p with
    | .error fault => .error (.config (.unreadableFile p.text (fault.message p.text)))
    | .ok bytes =>
      match Text.utf8Decode bytes with
      | .error e => .error (.undecodable e)
      | .ok s => ofText (String.ofList (unifyBreaks s.toList))

/-- Whether the text of a variable switches something on. -/
def isOn (s : String) : Bool := ["1", "true", "yes"].contains (Text.lower s)

/-- The text of a variable, or what stands for it when it is not set. -/
def textOr (env : Environment) (name usual : String) : Except Error String :=
  match env.lookup name with
  | none => .ok usual
  | some (.text s) => .ok s
  | some _ => .error .unsupported

def ofEnvironment (env : Environment) : Except Error ClientConfig :=
  match env.missing [endpointVariable, uidVariable, secretVariable] with
  | [] =>
    match textOr env wireVariable "", textOr env levelVariable "WARNING" with
    | .ok wire, .ok level =>
      let on := isOn wire
      match validate ⟨(env.get endpointVariable).loose, (env.get uidVariable).loose,
          (env.get secretVariable).loose, on,
          ⟨.text (Text.upper level), on⟩⟩ with
      | .ok c => .ok c
      | .error e => .error (.config e)
    | .error e, _ => .error e
    | _, .error e => .error e
  | names => .error (.config (.missingVariables names))

/-- The configuration of a file, or of the environment when no file is named. -/
def load (tree : FileTree) (env : Environment) : Option String → Except Error ClientConfig
  | some path => ofFile tree path
  | none => ofEnvironment env

/-- What signing needs of the configuration; an enabled wire if one is wanted. -/
def toSigningConfig (c : ClientConfig) (source : Option DateSource) : Except Error SigningConfig :=
  match Credentials.make c.uid c.secret with
  | .error e => .error (.credential e)
  | .ok credentials =>
    let wire : Option Wire := if c.signatureWire then some ⟨true, 1000, [], 0⟩ else none
    match SigningConfig.ofCredentials credentials source wire with
    | .ok s => .ok s
    | .error e => .error (.signing e)

end ClientConfig

/-- Levels of the library's logger and of the one for signatures; 0 is no level of its own. -/
structure LogLevels where
  library : Nat := 0
  signature : Nat := 0
  deriving DecidableEq, Repr

namespace LogLevels

def number? : String → Option Nat
  | "CRITICAL" | "FATAL" => some 50
  | "ERROR" => some 40
  | "WARNING" | "WARN" => some 30
  | "INFO" => some 20
  | "DEBUG" => some 10
  | "NOTSET" => some 0
  | _ => none

/-- Sets the levels; the logger for signatures is quiet unless signatures are to be logged. -/
def configure (levels : LogLevels) (c : LoggingConfig) : Except Error LogLevels :=
  match c.level with
  | .text level =>
    match number? level.upper.toString with
    | some n => .ok { levels with library := n, signature := if c.logSignatures then 10 else 30 }
    | none => .error (.invalid (.unknownLevel level.upper.quoted))
  | _ => .error .unsupported

end LogLevels

end RequestSigning
