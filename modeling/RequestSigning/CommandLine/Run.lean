import RequestSigning.CommandLine.Invocation
import RequestSigning.Credential.Keyring
import RequestSigning.Error.Report
import RequestSigning.Signing.Signer

/-!
# Running the program

A run prints the string to sign of a request or its signed headers, or keeps and deletes secrets. A
command gives either the text that it prints or an error; errors that a command tells are printed
behind what failed, and nothing else is printed then.
-/

namespace RequestSigning.CommandLine

/-- What a run finds and leaves beside its arguments. -/
structure Place where
  environment : Environment := []
  keyring : Keyring := {}
  around : Surroundings := {}

structure Outcome where
  exit : Nat
  out : String
  err : String
  deriving DecidableEq, Repr

/-- How a run ends: an outcome, or an error that no command tells. -/
structure Run where
  outcome : Except Error Outcome
  keyring : Keyring
  log : List LogRecord

/-! ## Errors -/

/-- Errors about a value. -/
def isValueError : Error → Bool
  | .invalid _ | .malformedDocument _ | .undecodable _ => true
  | _ => false

def isSigningError : Error → Bool
  | .signing _ => true
  | _ => false

/-- Errors of the library but those of signing and configuration. -/
def isLibraryError : Error → Bool
  | .credential _ | .keyMaterial _ | .document _ | .communication _ => true
  | _ => false

def cancelled : Outcome := ⟨130, "", "\nOperation cancelled by user\n"⟩

/-- What a command printed, or its error if that is one it tells. -/
def conclude (tells : Error → Bool) (label : String) : Except Error String → Except Error Outcome
  | .ok out => .ok ⟨0, out, ""⟩
  | .error .interrupted => .ok cancelled
  | .error e => if tells e then .ok ⟨1, "", label ++ ": " ++ e.text ++ "\n"⟩ else .error e

/-! ## Requests -/

def dateOf (r : RequestArguments) (now : Date.Instant) : Except Error String :=
  match r.date with
  | some d => .ok d
  | none =>
    match Date.httpDate now with
    | .ok d => .ok d
    | .error e => .error (.ofInstant e)

/-- The request with its account, if one is named, and a date. -/
def stamped (r : RequestArguments) (now : Date.Instant) : Except Error Request :=
  match r.toRequest with
  | .error e => .error e
  | .ok request =>
    let headers := match r.uid with
      | some uid => (request.headers.remove Header.uid).push Header.uid uid
      | none => request.headers
    match dateOf r now with
    | .error e => .error e
    | .ok date => .ok (request.withHeaders ((headers.remove Header.date).push Header.date date))

def printStringToSign (r : RequestArguments) (now : Date.Instant) : Except Error String :=
  match stamped r now with
  | .error e => .error e
  | .ok request => request.stringToSign.map (· ++ "\n")

/-- The credentials to sign with: those of the keyring if it is asked for, else those of the
arguments if both are given, else those of the environment. -/
def resolveCredentials (r : RequestArguments) (secret : Option String) (fromKeyring : Bool)
    (place : Place) :
    Except Error Credentials :=
  let found (c : Except CredentialError Credentials) : Except Error Credentials :=
    match c with
    | .ok c => .ok c
    | .error e => .error (.credential e)
  match fromKeyring, r.uid, secret with
  | true, none, _ => .error (.invalid .keyringNeedsUid)
  | true, some uid, _ => found (({} : SecretStore).load place.keyring uid)
  | false, some uid, some secret => found (Credentials.make (.text uid) (.text secret))
  | false, _, _ => found (Credentials.ofEnvironment place.environment)

def wireText (w : Option Wire) : String :=
  String.join ((w.elim [] (·.entries)).filterMap fun e =>
    if e.direction = .output then some ("String to sign:\n" ++ e.text ++ "\n\n") else none)

def signedText (r : Request) : String :=
  String.join ([Header.uid, Header.date, Header.signature].map fun name =>
    name ++ ": " ++ (r.headers.getFirst? name).getD "None" ++ "\n")

def printSigned (r : RequestArguments) (secret : Option String) (fromKeyring showString : Bool)
    (place : Place) : Except Error String × List LogRecord :=
  match r.toRequest with
  | .error e => (.error e, [])
  | .ok request =>
    match resolveCredentials r secret fromKeyring place with
    | .error e => (.error e, [])
    | .ok credentials =>
      let source := r.date.map fun d => DateSource.given [.text d]
      match SigningConfig.ofCredentials credentials source (some ⟨showString, 1000, [], 0⟩) with
      | .error e => (.error (.signing e), [])
      | .ok config =>
        match Signer.ofConfig config with
        | .error e => (.error (.signing e), [])
        | .ok signer =>
          let (result, state) := signer.sign place.around (Signer.initialState config) request
          (result.map fun signed =>
              (if showString then wireText state.trace.wire else "") ++ signedText signed,
            state.trace.log)

/-! ## Secrets -/

/-- Keeps a secret; account and secret must not be empty. -/
def storeSecret (uid secret : String) (k : Keyring) : Run :=
  let failed (e : CredentialError) (k : Keyring) : Run :=
    ⟨conclude isLibraryError "Error" (.error (.credential e)), k, []⟩
  match Credentials.make (.text uid) (.text secret) with
  | .error e => failed e k
  | .ok _ =>
    match ({} : SecretStore).store k uid secret with
    | (.error e, k, _) => failed e k
    | (.ok (), k, log) => ⟨.ok ⟨0, "Stored shared secret for " ++ uid ++ "\n", ""⟩, k, log⟩

def deleteSecret (uid : String) (k : Keyring) : Run :=
  match ({} : SecretStore).delete k uid with
  | (.error e, k) => ⟨conclude isLibraryError "Error" (.error (.credential e)), k, []⟩
  | (.ok true, k) => ⟨.ok ⟨0, "Deleted shared secret for " ++ uid ++ "\n", ""⟩, k, []⟩
  | (.ok false, k) => ⟨.ok ⟨1, "", "No shared secret stored for " ++ uid ++ "\n"⟩, k, []⟩

/-! ## The program -/

/-- Tells whether signatures can be made here. -/
def checkCompatibility (primitive : Digest.Primitive) : Except Error Outcome :=
  match compatibilityWarnings primitive with
  | .error .interrupted => .ok cancelled
  | .error e => .error e
  | .ok [] => .ok ⟨0, "✓ Platform is compatible with Atmos SDK\n", ""⟩
  | .ok warnings =>
    .ok ⟨1, paragraph
      ("✗ Platform is not compatible with Atmos SDK" :: warnings.map ("  Error: " ++ ·)), ""⟩

def runTask (task : Task) (place : Place) : Run :=
  match task with
  | .overview => ⟨.ok ⟨1, Command.program.help, ""⟩, place.keyring, []⟩
  | .stringToSign r =>
    ⟨conclude (fun e => isValueError e || isSigningError e) "Error building string to sign"
      (printStringToSign r place.around.now), place.keyring, []⟩
  | .sign r secret fromKeyring showString =>
    let (result, log) := printSigned r secret fromKeyring showString place
    ⟨conclude (fun e => isValueError e || isSigningError e || isLibraryError e)
        "Error signing request" result,
      place.keyring, log⟩
  | .credentialsOverview => ⟨.ok ⟨1, "", "Error: specify 'store' or 'delete'\n"⟩, place.keyring, []⟩
  | .store uid secret => storeSecret uid secret place.keyring
  | .delete uid => deleteSecret uid place.keyring

/-- A log record as one printed line; without `verbose` only warnings are printed, and bare. -/
def logLine (verbose : Bool) (r : LogRecord) : String :=
  if verbose then r.level.name ++ ":" ++ r.logger.name ++ ":" ++ r.message ++ "\n"
  else if r.level = .warning then r.message ++ "\n"
  else ""

def Run.withLog (r : Run) (verbose : Bool) : Run :=
  { r with outcome := r.outcome.map fun o =>
      { o with err := String.join (r.log.map (logLine verbose)) ++ o.err } }

def runInvocation (i : Invocation) (place : Place) : Run :=
  if i.checkCompatibility then ⟨checkCompatibility place.around.primitive, place.keyring, []⟩
  else (runTask i.task place).withLog i.verbose

def Ending.outcome : Ending → Outcome
  | help c => ⟨0, c.help, ""⟩
  | version => ⟨0, versionText, ""⟩
  | refused c fault => ⟨2, "", c.usage ++ c.path ++ ": error: " ++ fault.message ++ "\n"⟩

def run (args : List String) (place : Place) : Run :=
  match read args with
  | .error e => ⟨.ok e.outcome, place.keyring, []⟩
  | .ok r => runInvocation r.invocation place

end RequestSigning.CommandLine
