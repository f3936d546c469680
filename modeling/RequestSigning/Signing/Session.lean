import RequestSigning.Signing.Prepared

/-!
# Signing sessions

A session signs every request right before it is sent. An error of the transport is told with the
method and URL of the request; errors of signing are passed on, and then nothing is sent.
-/

namespace RequestSigning

/-- What the transport does with a signed request. -/
inductive Transport
  | delivers
  /-- An error of the transport itself, with its text. -/
  | fails (message : String)
  /-- Any other breakdown. -/
  | breaks (message : String)
  deriving DecidableEq, Repr

structure SigningSession where
  signer : Signer
  state : SigningState

namespace SigningSession

/-- Opens a session; the log tells for whom it signs. -/
def start (c : SigningConfig) : Except SigningError SigningSession :=
  match Signer.ofConfig c with
  | .error e => .error e
  | .ok signer =>
    let state := Signer.initialState c
    let opened : LogRecord :=
      ⟨.info, .session, "Configured request signing for uid: " ++ c.uid.shown⟩
    .ok ⟨signer, { state with trace := state.trace.note opened }⟩

/-- Signs a prepared request and hands it to the transport. -/
def send (s : SigningSession) (around : Surroundings) (method url : String) (p : PreparedRequest)
    (transport : Transport) : Except Error PreparedRequest × SigningSession :=
  let (result, state) := p.sign s.signer around s.state
  let s := { s with state := state }
  match result with
  | .error e => (.error e, s)
  | .ok signed =>
    match transport with
    | .delivers => (.ok signed, s)
    | .fails message => (.error (.communication ⟨method, url, message⟩), s)
    | .breaks message => (.error (.transport message), s)

end SigningSession

structure TransportSettings where
  verify : Value := .bool true
  maxRedirects : Value := .int 30
  trustEnvironment : Value := .bool true
  stream : Value := .bool false
  certificate : Value := .null

namespace TransportSettings

/-- Names of what a transport session has beside its settings. -/
def otherNames : List String :=
  ["headers", "auth", "proxies", "hooks", "params", "cookies", "adapters", "get", "options", "head",
   "post", "put", "patch", "delete", "send", "request", "prepare_request", "get_adapter", "close",
   "mount", "merge_environment_settings", "get_redirect_target", "should_strip_auth",
   "resolve_redirects", "rebuild_auth", "rebuild_proxies", "rebuild_method"]

/-- Applies a setting; nothing for a name that no setting has, tells whether the session knows
it. -/
def apply (s : TransportSettings) (name : String) (value : Value) : TransportSettings × Bool :=
  if name = "verify" then ({ s with verify := value }, true)
  else if name = "max_redirects" then ({ s with maxRedirects := value }, true)
  else if name = "trust_env" then ({ s with trustEnvironment := value }, true)
  else if name = "stream" then ({ s with stream := value }, true)
  else if name = "cert" then ({ s with certificate := value }, true)
  else (s, otherNames.contains name)

/-- The settings after all of the given ones, and the names that the session does not know, in
order. -/
def applyAll (s : TransportSettings) (given : List (String × Value)) :
    TransportSettings × List String :=
  let unknown := (given.filter fun g => !(s.apply g.1 g.2).2).map (·.1)
  (given.foldl (fun s g => (s.apply g.1 g.2).1) s, unknown.mergeSort (· ≤ ·))

end TransportSettings

/-- A transport that has no way to send to this URL. -/
def noAdapter (url : String) : Transport :=
  .fails ("No connection adapters were found for " ++ Text.quoted url)

end RequestSigning
