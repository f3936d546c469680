import RequestSigning.Error.Basic

/-!
# The signature wire

A bounded record of what was signed and what came out. When it is full, further entries are counted
and dropped. Records of the log go along with it.
-/

namespace RequestSigning

inductive LogLevel
  | debug
  | info
  | warning
  deriving DecidableEq, Repr

def LogLevel.name : LogLevel → String
  | debug => "DEBUG"
  | info => "INFO"
  | warning => "WARNING"

inductive Logger
  | signature
  | filter
  | session
  | credentials
  deriving DecidableEq, Repr

def Logger.name : Logger → String
  | signature => "atmos_sdk.signature"
  | filter => "atmos_sdk.signing.request_filter"
  | session => "atmos_sdk.signing.integration"
  | credentials => "atmos_sdk.credentials"

structure LogRecord where
  level : LogLevel
  logger : Logger
  message : String
  deriving DecidableEq, Repr

/-- An entry is a string to sign on its way out, or a signature that came in for it. -/
inductive Direction
  | output
  | input
  deriving DecidableEq, Repr

def Direction.name : Direction → String
  | output => "output"
  | input => "input"

structure WireEntry where
  direction : Direction
  text : String
  deriving DecidableEq, Repr

/-- A bounded record; the oldest entry is the first. -/
structure Wire where
  enabled : Bool
  capacity : Nat
  entries : List WireEntry
  dropped : Nat
  deriving DecidableEq, Repr

namespace Wire

/-- An empty wire that holds at least one entry. -/
def make (enabled : Bool) (capacity : Int) : Except Error Wire :=
  if capacity ≤ 0 then .error (.invalid .wireCapacity) else .ok ⟨enabled, capacity.toNat, [], 0⟩

def enable (w : Wire) : Wire := { w with enabled := true }

def disable (w : Wire) : Wire := { w with enabled := false }

/-- Takes an entry if the wire is enabled: it is kept while there is room, else counted. -/
def record (w : Wire) (e : WireEntry) : Wire :=
  if w.enabled then
    if w.entries.length < w.capacity then { w with entries := w.entries ++ [e] }
    else { w with dropped := w.dropped + 1 }
  else w

def drain (w : Wire) : List WireEntry × Wire := (w.entries, { w with entries := [] })

def logRecord (e : WireEntry) : LogRecord :=
  ⟨.debug, .signature, e.direction.name ++ ": " ++ Text.quoted e.text⟩

def logOf (w : Wire) (e : WireEntry) : List LogRecord := if w.enabled then [logRecord e] else []

end Wire

/-- What signing leaves behind: entries on the wire, if there is one, and log records. -/
structure Trace where
  wire : Option Wire
  log : List LogRecord

namespace Trace

def note (t : Trace) (r : LogRecord) : Trace := { t with log := t.log ++ [r] }

def record (t : Trace) (direction : Direction) (text : String) : Trace :=
  match t.wire with
  | none => t
  | some w =>
    let e : WireEntry := ⟨direction, text⟩
    ⟨some (w.record e), t.log ++ w.logOf e⟩

end Trace

def Trace.recording (build : Except Error String) (t : Trace) : Except Error String × Trace :=
  match build with
  | .error e => (.error e, t)
  | .ok text => (.ok text, t.record .output text)

end RequestSigning
