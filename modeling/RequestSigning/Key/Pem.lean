import RequestSigning.Base64
import RequestSigning.Key.Der

/-!
# Textual blocks

Key material travels as blocks of base64 between a begin and an end line that carry the same label.
-/

namespace RequestSigning.Key

/-- A block: its label, its header lines by name, and its content. -/
structure Block where
  label : List Char
  headers : List (List Char × List Char)
  content : Bytes
  deriving DecidableEq, Repr

namespace Pem

def beginMark : List Char := "-----BEGIN ".toList

def endMark : List Char := "-----END ".toList

def dashes : List Char := "-----".toList

/-- The text before the first occurrence of a word, and the text after it. -/
def cut? (word : List Char) : List Char → Option (List Char × List Char)
  | [] => if word.isEmpty then some ([], []) else none
  | c :: cs =>
    if word.isPrefixOf (c :: cs) then some ([], (c :: cs).drop word.length)
    else (cut? word cs).map fun (before, after) => (c :: before, after)

def isGap (c : Char) : Bool := c = ' ' || c = '\t' || c = '\n' || c = '\r'

structure RawBlock where
  opening : List Char
  body : List Char
  closing : List Char

def nextBlock? (cs : List Char) : Option (RawBlock × List Char) := do
  let (_, cs) ← cut? beginMark cs
  let (opening, cs) ← cut? dashes cs
  let (body, cs) ← cut? endMark (cs.dropWhile isGap)
  let (closing, cs) ← cut? dashes cs
  some (⟨opening, body, closing⟩, cs.dropWhile isGap)

/-- All blocks of a text; `fuel` is more than its characters. -/
def rawBlocks : Nat → List Char → List RawBlock
  | 0, _ => []
  | fuel + 1, cs =>
    match nextBlock? cs with
    | none => []
    | some (b, rest) => b :: rawBlocks fuel rest

/-- Headers and data of a body: an empty line divides them. -/
def splitBody (body : List Char) : List Char × List Char :=
  match cut? ['\n', '\n'] body with
  | some parts => parts
  | none =>
    match cut? ['\r', '\n', '\r', '\n'] body with
    | some parts => parts
    | none => ([], body)

/-- The lines of a text; a line break at the end starts no line. -/
def lines (cs : List Char) : List (List Char) :=
  cs.foldr (fun c acc =>
    match c, acc with
    | '\n', acc => [] :: acc
    | c, [] => [[c]]
    | c, l :: ls => (c :: l) :: ls) []

def trimLineEnd (l : List Char) : List Char :=
  (l.reverse.dropWhile fun c => c = ' ' || (0x9 ≤ c.toNat && c.toNat ≤ 0xd)).reverse

/-- A header line is a name and a value with a colon between them. -/
def header? (l : List Char) : Option (List Char × List Char) := do
  let (name, value) ← cut? [':'] l
  some (name, value.dropWhile (· = ' '))

/-- A block whose labels agree, with header lines and canonical base64. -/
def RawBlock.check? (b : RawBlock) : Option Block :=
  let (headers, data) := splitBody b.body
  if b.opening.isEmpty || b.opening ≠ b.closing then none
  else do
    let content ← Base64.decodeCanonical? ((lines data).map trimLineEnd).flatten
    let headers ← (lines headers).mapM fun l => header? (trimLineEnd l)
    some ⟨b.opening, headers, content⟩

/-- All blocks of a text, if each of them is sound. -/
def blocks? (cs : List Char) : Option (List Block) := (rawBlocks cs.length cs).mapM RawBlock.check?

/-- The first block with one of the labels. -/
def find? (labels : List String) (cs : List Char) : Option Block := do
  let blocks ← blocks? cs
  blocks.find? fun b => labels.contains (String.ofList b.label)

/-- The rows of at most 64 characters, each with a line feed. -/
def rows : Nat → List Char → List Char
  | 0, _ => []
  | _ + 1, [] => []
  | fuel + 1, cs => cs.take 64 ++ '\n' :: rows fuel (cs.drop 64)

def write (label : String) (content : Bytes) : String :=
  let data := Base64.encodeChars content
  String.ofList (beginMark ++ label.toList ++ dashes ++ '\n' :: rows data.length data
    ++ endMark ++ label.toList ++ dashes ++ ['\n'])

end Pem

end RequestSigning.Key
