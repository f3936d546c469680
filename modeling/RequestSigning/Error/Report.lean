import RequestSigning.Error.Basic

/-!
# Error reports

How an error of one of the library's families presents itself: its text, its inspected form and the
families above its own. A report can be made from any parts, so they are loosely typed.
-/

namespace RequestSigning

inductive Family
  | sdk
  | credential
  | keyMaterial
  | document
  | communication
  | signing
  | malformedKey
  | missingHeader
  | signingFailure
  | config
  deriving DecidableEq, Repr

namespace Family

def name : Family → String
  | sdk => "AtmosSDKError"
  | credential => "CredentialError"
  | keyMaterial => "KeyMaterialError"
  | document => "DocumentParseError"
  | communication => "ServerCommunicationError"
  | signing => "SigningError"
  | malformedKey => "MalformedKeyError"
  | missingHeader => "MissingHeaderError"
  | signingFailure => "SigningFailure"
  | config => "ConfigError"

def all : List Family :=
  [sdk, credential, keyMaterial, document, communication, signing, malformedKey, missingHeader,
   signingFailure, config]

def ofName? (s : String) : Option Family := all.find? fun f => f.name = s

/-- The family right above, among the library's own. -/
def parent? : Family → Option Family
  | credential | keyMaterial | document | communication => some sdk
  | malformedKey | missingHeader | signingFailure => some signing
  | sdk | signing | config => none

/-- Whether the text of an error tells its code and details. -/
def tellsCode (f : Family) : Bool := f = signing || f.parent? = some signing

/-- The family and all above it, up to the most general one. -/
def ancestry (f : Family) : List String :=
  f.name :: (match f.parent? with
    | some g => [g.name]
    | none => []) ++ ["Exception", "BaseException", "object"]

end Family

structure Report where
  family : Family
  message : Value
  code : Value
  details : Value
  status : Option Value := none

namespace Report

/-- Details that do not count as given are an empty table. -/
def normalDetails (v : Value) : Value := if v.isGiven then v else .table []

/-- The parts that an error of a family is made of, in order; those with a value may be left out. -/
def parameters : Family → List (String × Option Value)
  | .sdk | .credential | .keyMaterial | .document =>
    [("message", none), ("error_code", some "UNKNOWN_ERROR"), ("details", some .null)]
  | .communication =>
    [("message", none), ("error_code", some "SERVER_ERROR"), ("http_status", some (.int 0)),
     ("details", some .null)]
  | .signing => [("message", none), ("code", none), ("details", some .null)]
  | .malformedKey | .signingFailure => [("message", none), ("details", some .null)]
  | .missingHeader => [("header", none)]
  | .config => [("message", none), ("code", some .null)]

/-- Gives each parameter its value: by place as long as there are such, then by name, then its own.
Nothing if a value is left over or missing. -/
def bind? : List (String × Option Value) → List Value → List (String × Value) →
    Option (List (String × Value))
  | [], [], [] => some []
  | [], _, _ => none
  | (name, _) :: ps, v :: vs, named =>
    if (named.lookup name).isSome then none else (bind? ps vs named).map ((name, v) :: ·)
  | (name, usual) :: ps, [], named => do
    let v ← (named.lookup name).or usual
    (bind? ps [] (named.filter (·.1 ≠ name))).map ((name, v) :: ·)

/-- The error of a family made of these values, some given by place and others by name. -/
def ofArguments? (f : Family) (values : List Value) (named : List (String × Value)) :
    Option Report := do
  let parts ← bind? (parameters f) values named
  let get (name : String) : Value := (parts.lookup name).getD .null
  let details := normalDetails (get "details")
  some <| match f with
    | .sdk | .credential | .keyMaterial | .document =>
      ⟨f, get "message", get "error_code", details, none⟩
    | .communication => ⟨f, get "message", get "error_code", details, some (get "http_status")⟩
    | .signing => ⟨f, get "message", get "code", details, none⟩
    | .malformedKey => ⟨f, get "message", "INVALID_SECRET_KEY", details, none⟩
    | .signingFailure => ⟨f, get "message", "SIGNING_FAILED", details, none⟩
    | .missingHeader =>
      ⟨f, .text ("Required header not found: " ++ (get "header").shown), "MISSING_REQUIRED_HEADER",
        .table [("header", get "header")], none⟩
    | .config => ⟨f, get "message", get "code", .null, none⟩

/-- The text of the error: in the signing families the message with code and details, else the
message alone. -/
def text (r : Report) : String :=
  if r.family.tellsCode then
    r.message.shown ++ " (code: " ++ r.code.shown
      ++ (if r.details.isGiven then ", details: " ++ r.details.shown else "") ++ ")"
  else r.message.shown

def inspect (r : Report) : String :=
  if r.family.tellsCode then
    r.family.name ++ "(message='" ++ r.message.shown ++ "', code='" ++ r.code.shown ++ "', details="
      ++ r.details.shown ++ ")"
  else r.family.name ++ "(" ++ r.message.inspect ++ ")"

end Report

def textDetails (ds : List (String × String)) : Value :=
  .table (ds.map fun d => (.text d.1, .text d.2))

def valueDetails (ds : List (String × Value)) : Value :=
  .table (ds.map fun d => (.text d.1, d.2))

def SigningError.family : SigningError → Family
  | malformedKey _ => .malformedKey
  | missingHeader _ => .missingHeader
  | failed _ => .signingFailure
  | _ => .signing

def SigningError.report (e : SigningError) : Report :=
  { family := e.family, message := e.message, code := e.code, details := textDetails e.details }

def CredentialError.report (e : CredentialError) : Report :=
  { family := .credential, message := e.message, code := e.code, details := valueDetails e.details }

def KeyMaterialError.report (e : KeyMaterialError) : Report :=
  { family := .keyMaterial, message := e.message, code := e.code, details := .table [] }

def DocumentError.report (e : DocumentError) : Report :=
  { family := .document, message := e.message, code := e.code, details := .table [] }

def ConfigError.report (e : ConfigError) : Report :=
  { family := .config, message := e.message, code := e.code, details := .null }

def CommunicationError.report (e : CommunicationError) : Report :=
  { family := .communication, message := e.message, code := e.code,
    details := textDetails e.details, status := some (.int 0) }

def Error.text : Error → String
  | .invalid cause => cause.message
  | .malformedDocument m => m.message
  | .undecodable e => utf8Message e
  | .signing e => e.report.text
  | .credential e => e.report.text
  | .keyMaterial e => e.report.text
  | .document e => e.report.text
  | .config e => e.report.text
  | .communication e => e.report.text
  | .transport message => message
  | .unwritable message => message
  | .wrongKind | .unsupported | .timeOverflow | .timeUnsupported | .interrupted => ""

end RequestSigning
