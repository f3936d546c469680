import RequestSigning.Error.Basic
import RequestSigning.Key.Certificate
import RequestSigning.Key.Material
import RequestSigning.Key.Pem
import RequestSigning.Text.Classes

/-!
# Key material as text

Keys and certificates arrive as textual blocks in which line breaks may be escaped: a backslash and
an `n` count as a line feed. The first block that fits the kind asked for is read; a malformed text
never gives a part of a key.
-/

namespace RequestSigning.Key

open Json (Symbol)

/-- Every backslash with an `n` right behind it becomes a line feed. -/
def unescape : Json.Text → Json.Text
  | .char '\\' :: .char 'n' :: rest => .char '\n' :: unescape rest
  | s :: rest => s :: unescape rest
  | [] => []

def unescapeText (s : String) : String := Json.Text.toString (unescape (Json.Text.ofString s))

def isAsciiSymbol (s : Symbol) : Bool := s.code < 0x80

/-- The characters of an ASCII text, or the first run of symbols beyond ASCII. -/
def asciiChars (t : Json.Text) : Except Unencodable (List Char) :=
  match Unencodable.find? isAsciiSymbol t with
  | none => .ok (t.filterMap Symbol.char?)
  | some u => .error u

/-- The text that the blocks are sought in: not blank, unescaped, ASCII. -/
def blockText (t : Json.Text) : Except KeyMaterialError (List Char) :=
  if t.all Symbol.isBlank then .error .noText
  else
    match asciiChars (unescape t) with
    | .ok cs => .ok cs
    | .error u => .error (.notAscii u)

/-- A header that says how a block is encrypted; such a block is not read. -/
def isEncrypted (b : Block) : Bool := b.headers.any fun h => h.1 = "Proc-Type".toList

def privateLabels : List String :=
  ["PRIVATE KEY", "ENCRYPTED PRIVATE KEY", "RSA PRIVATE KEY", "EC PRIVATE KEY", "DSA PRIVATE KEY"]

def publicLabels : List String := ["PUBLIC KEY", "RSA PUBLIC KEY"]

def certificateLabels : List String := ["CERTIFICATE", "X509 CERTIFICATE"]

def privateOfBlock? (b : Block) : Option PrivateKey :=
  if isEncrypted b then none
  else if b.label = "PRIVATE KEY".toList then readPrivate? b.content
  else if b.label = "RSA PRIVATE KEY".toList then readRsaPrivate? b.content
  else if b.label = "EC PRIVATE KEY".toList then readEcPrivate? none b.content
  else if b.label = "DSA PRIVATE KEY".toList then readDsaPrivate? b.content
  else none

def publicOfBlock? (b : Block) : Option PublicKey :=
  if b.label = "RSA PUBLIC KEY".toList then readRsaPublicAnyForm? b.content
  else readPublic? b.content

def read? (kind : KeyKind) (cs : List Char) : Option Material :=
  match kind with
  | .privateKey => ((Pem.find? privateLabels cs).bind privateOfBlock?).map .privateKey
  | .publicKey => ((Pem.find? publicLabels cs).bind publicOfBlock?).map .publicKey
  | .certificate =>
    (Pem.find? certificateLabels cs).bind fun b =>
      if Certificate.isCertificate b.content then some (.certificate b.content) else none

def load (kind : KeyKind) (t : Json.Text) : Except KeyMaterialError Material :=
  match blockText t with
  | .error e => .error e
  | .ok cs =>
    match read? kind cs with
    | some m => .ok m
    | none => .error (.unreadable kind)

def kindName : KeyKind → String
  | .privateKey => "private_key"
  | .publicKey => "public_key"
  | .certificate => "certificate"

def kinds : List KeyKind := [.privateKey, .publicKey, .certificate]

def kindOfName? (s : Json.Text) : Option KeyKind :=
  kinds.find? fun k => (kindName k : Json.Text) = s

def loadValue (text kind : Loose) : Except KeyMaterialError Material :=
  match kind.text?.bind kindOfName? with
  | none => .error (.unknownKind kind.shown)
  | some k =>
    match text with
    | .text t => load k t
    | _ => .error .noText

namespace Material

/-- What the material is. -/
def name : Material → String
  | privateKey k => k.kindName ++ "PrivateKey"
  | publicKey k => k.kindName ++ "PublicKey"
  | certificate _ => "Certificate"

/-- What the material is, in messages. -/
def className : Material → String
  | privateKey (.ec ..) => "ECPrivateKey"
  | publicKey (.ec ..) => "ECPublicKey"
  | m => m.name

def kind : Material → KeyKind
  | privateKey _ => .privateKey
  | publicKey _ => .publicKey
  | certificate _ => .certificate

def write : Material → String
  | privateKey k => Pem.write "PRIVATE KEY" k.encode
  | publicKey k => Pem.write "PUBLIC KEY" k.encode
  | certificate bytes => Pem.write "CERTIFICATE" bytes

end Material

end RequestSigning.Key
