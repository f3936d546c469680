import RequestSigning.Credential.Basic
import RequestSigning.Request.Wire

/-!
# Configuration of signing

What signing needs: account, key, a source of dates and possibly a wire. A builder collects the
parts in any order; the last one set counts, and building checks them.
-/

namespace RequestSigning

inductive DateSource
  /-- The date of the moment of signing. -/
  | clock
  /-- These dates in turn, then the last one for ever. -/
  | given (dates : List Value)

namespace DateSource

/-- The next date, and the source after it. -/
def next (now : Date.Instant) : DateSource → Except Error Value × DateSource
  | clock =>
    match Date.httpDate now with
    | .ok d => (.ok (.text d), clock)
    | .error e => (.error (.ofInstant e), clock)
  | given [] => (.ok .null, given [])
  | given [d] => (.ok d, given [d])
  | given (d :: ds) => (.ok d, given ds)

end DateSource

/-- A source of dates as handed in: only a source can be asked for dates. -/
inductive Provider
  | source (s : DateSource)
  | other (v : Value)

inductive KeyGiven
  | bytes (key : List UInt8)
  | other (v : Loose)

structure SigningConfig where
  uid : Loose
  key : List UInt8
  source : DateSource
  wire : Option Wire

namespace SigningConfig

/-- Checks the parts in turn: account, key, source of dates. -/
def make (uid : Loose) (key : KeyGiven) (provider : Provider) (wire : Option Wire) :
    Except Invalid SigningConfig :=
  if !uid.isGiven then .error .emptyUid
  else
    match key with
    | .other _ => .error .keyNotBytes
    | .bytes key =>
      match provider with
      | .other _ => .error .providerNotCallable
      | .source s => .ok ⟨uid, key, s, wire⟩

end SigningConfig

structure SigningConfigBuilder where
  uid : Loose := .null
  key : KeyGiven := .other .null
  provider : Provider := .source .clock
  wire : Option Wire := none

namespace SigningConfigBuilder

def setUid (b : SigningConfigBuilder) (uid : Loose) : SigningConfigBuilder := { b with uid := uid }

/-- Sets the key of an encoded secret; one that cannot be decoded sets nothing. -/
def setEncodedKey (b : SigningConfigBuilder) (secret : Loose) :
    Except SigningError SigningConfigBuilder :=
  match Secret.decode secret with
  | .ok key => .ok { b with key := .bytes key }
  | .error e => .error (.malformedKey e)

def setKey (b : SigningConfigBuilder) (key : KeyGiven) : SigningConfigBuilder :=
  { b with key := key }

def setProvider (b : SigningConfigBuilder) (provider : Provider) : SigningConfigBuilder :=
  { b with provider := provider }

def setWire (b : SigningConfigBuilder) (wire : Option Wire) : SigningConfigBuilder :=
  { b with wire := wire }

/-- The key, which must be set to at least one byte. -/
def checkKey : KeyGiven → Except SigningError (List UInt8)
  | .other .null => .error .secretRequired
  | .other _ | .bytes [] => .error (.malformedKey .notBytes)
  | .bytes key => .ok key

def build (b : SigningConfigBuilder) : Except SigningError SigningConfig :=
  if !b.uid.isGiven then .error .uidRequired
  else
    match checkKey b.key with
    | .error e => .error e
    | .ok key =>
      match SigningConfig.make b.uid (.bytes key) b.provider b.wire with
      | .ok c => .ok c
      | .error cause => .error (.invalidConfig cause)

end SigningConfigBuilder

/-- The configuration for credentials; without a source of dates the clock is asked. -/
def SigningConfig.ofCredentials (c : Credentials) (source : Option DateSource)
    (wire : Option Wire) : Except SigningError SigningConfig :=
  match ({ uid := c.uid } : SigningConfigBuilder).setEncodedKey c.secret with
  | .error e => .error e
  | .ok b => ((b.setWire wire).setProvider (.source (source.getD .clock))).build

end RequestSigning
