import RequestSigning.Request.StringToSign
import RequestSigning.Signing.Config

/-!
# Signing

Signing stamps a request with account and date, builds its string to sign, and adds the signature of
that string. The request handed in stays as it is.
-/

namespace RequestSigning

/-- What surrounds a signature: the clock, what the primitive does, and how long signing takes. -/
structure Surroundings where
  now : Date.Instant := .whole 1893456000
  primitive : Digest.Primitive := .works
  /-- Duration of one pass in milliseconds. -/
  elapsed : Decimal.Binary := ⟨0, 0⟩

/-- The signature of a text, as far as the primitive gives one. -/
def signText (primitive : Digest.Primitive) (key : List UInt8) (text : String) :
    Except Error String :=
  match primitive with
  | .works => .ok (Digest.signature key text)
  | .fails fault => .error (.signing (.failed fault))
  | .interrupted _ => .error .interrupted

/-- What is to be fed is refused, but only once the primitive is created. -/
def refuseFeed (primitive : Digest.Primitive) (fault : Digest.Fault) : Except Error String :=
  match primitive with
  | .fails ⟨.create, kind, text⟩ => .error (.signing (.failed ⟨.create, kind, text⟩))
  | .interrupted .create => .error .interrupted
  | _ => .error (.signing (.failed fault))

def notTextFault (v : Loose) : Digest.Fault :=
  ⟨.feed, .notText, (FieldFault.unsupported v.kind "encode").message⟩

def unencodableFault (u : Unencodable) : Digest.Fault := ⟨.feed, .unencodable, u.utf8Message⟩

/-- The first halves of pairs in a text. -/
def findHalves? (t : Json.Text) : Option Unencodable := Unencodable.find? (!·.isSurrogate) t

/-- The signature of a loosely typed text. -/
def signValue (primitive : Digest.Primitive) (key : List UInt8) (v : Loose) : Except Error String :=
  match v with
  | .text t =>
    match findHalves? t with
    | none => signText primitive key t.toString
    | some u => refuseFeed primitive (unencodableFault u)
  | v => refuseFeed primitive (notTextFault v)

/-- The key of a signer: bytes, but not none, or an encoded secret. -/
def signerKey : KeyGiven → Except KeyFault (List UInt8)
  | .bytes [] => .error .empty
  | .bytes key => .ok key
  | .other v => Secret.decode v

/-- A signer has an account and a key that is not empty. -/
structure Signer where
  uid : Loose
  key : List UInt8

structure SigningState where
  source : DateSource
  trace : Trace

namespace Signer

def ofConfig (c : SigningConfig) : Except SigningError Signer :=
  match signerKey (.bytes c.key) with
  | .ok key => .ok ⟨c.uid, key⟩
  | .error e => .error (.malformedKey e)

def initialState (c : SigningConfig) : SigningState := ⟨c.source, ⟨c.wire, []⟩⟩

/-- The headers without an old signature and with the account. Half a pair in the account is marked
by a character, on the wire and in the log too. -/
def withAccount (s : Signer) (headers : Header.Multimap) (mark : Char := '\ufffd') :
    Except Header.Error Header.Multimap :=
  (headers.remove Header.signature).set Header.uid (s.uid.mapTexts (Json.Text.marked mark))

/-- The string to sign of a request with account and date, halves of pairs being marked
otherwise. -/
def remarkedText (s : Signer) (date : Value) (r : Request) : Except Error String :=
  match s.withAccount r.headers '\ufffe' with
  | .error e => .error (.invalid (.header e))
  | .ok headers =>
    match headers.set Header.date date with
    | .error e => .error (.invalid (.header e))
    | .ok headers => (r.withHeaders headers).stringToSign

/-- A text with halves of pairs in place of their marks, which are where another text differs. -/
def restoreHalves : Json.Text → List Char → List Char → Json.Text
  | half :: halves, c :: cs, d :: ds =>
    if c = d then .char c :: restoreHalves (half :: halves) cs ds
    else half :: restoreHalves halves cs ds
  | _, cs, _ => .ofChars cs

/-- The signature of a string to sign, which is at hand with other marks too. With half a pair in
the account it cannot be encoded. -/
def signature (s : Signer) (primitive : Digest.Primitive) (remarked : Except Error String)
    (text : String) : Except Error String :=
  match s.uid with
  | .text uid =>
    match uid.half? with
    | none => signText primitive s.key text
    | some half =>
      let spelled := restoreHalves (uid.filter (·.isSurrogate)) text.toList
        (remarked.toOption.getD text).toList
      refuseFeed primitive (unencodableFault ((findHalves? spelled).getD ⟨half, 0, 0⟩))
  | _ => signText primitive s.key text

/-- Longest time that a pass may take without a warning, in milliseconds. -/
def slowAfter : Nat := 10

def slowRecord (elapsed : Decimal.Binary) : List LogRecord :=
  let (num, den) := elapsed.scaled 0
  if slowAfter * den < num then
    [⟨.warning, .filter, "Signing operation took " ++ Decimal.twoPlaces elapsed ++
     "ms (target: <10ms)"⟩]
  else []

/-- Signs a request with stamped headers: builds the string, takes the signature and adds it. -/
def signStamped (s : Signer) (around : Surroundings) (remarked : Except Error String) (t : Trace)
    (stamped : Request) : Except Error Request × Trace :=
  let t := t.note ⟨.debug, .signature, stamped.logText ">>"⟩
  match t.recording stamped.stringToSign with
  | (.error e, t) => (.error e, t)
  | (.ok text, t) =>
    match s.signature around.primitive remarked text with
    | .error e => (.error e, t)
    | .ok signature =>
      let t := t.record .input signature
      let signed := stamped.withHeaders
        ((stamped.headers.remove Header.signature).push Header.signature signature)
      let t := t.note ⟨.debug, .signature, signed.logText "<<"⟩
      (.ok signed, { t with log := t.log ++ slowRecord around.elapsed })

def signWith (s : Signer) (around : Surroundings) (date : Except Error Value) (t : Trace)
    (r : Request) : Except Error Request × Trace :=
  match s.withAccount r.headers with
  | .error e => (.error (.invalid (.header e)), t)
  | .ok headers =>
    match date with
    | .error e => (.error e, t)
    | .ok date =>
      match headers.set Header.date date with
      | .error e => (.error (.invalid (.header e)), t)
      | .ok headers => s.signStamped around (s.remarkedText date r) t (r.withHeaders headers)

def sign (s : Signer) (around : Surroundings) (state : SigningState) (r : Request) :
    Except Error Request × SigningState :=
  match s.withAccount r.headers with
  | .error e => (.error (.invalid (.header e)), state)
  | .ok _ =>
    let (date, source) := state.source.next around.now
    let (result, trace) := s.signWith around date state.trace r
    (result, ⟨source, trace⟩)

end Signer

/-- Whether signatures can be made here: none, or why not. -/
def checkPrimitive (primitive : Digest.Primitive) : Except Error (Option String) :=
  match signText primitive (Text.utf8Encode "probe") "probe" with
  | .ok _ => .ok none
  | .error (.signing e) => .ok (some e.message)
  | .error e => .error e

/-- The warnings about this platform; there are none when it is compatible. -/
def compatibilityWarnings (primitive : Digest.Primitive) : Except Error (List String) :=
  (checkPrimitive primitive).map fun
    | none => []
    | some cause => ["HMAC-SHA1 not supported by cryptography backend: " ++ cause]

end RequestSigning
