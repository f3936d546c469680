import RequestSigning.Json.Basic

/-!
# Reading documents

Readers take the symbols to come and give back those that they leave. A failure is located by the
number of symbols that were still to come. Beside the standard form, the numbers `NaN`, `Infinity`
and `-Infinity` are read.
-/

namespace RequestSigning.Json

inductive Fault
  | byteOrderMark
  | expectingValue
  | expectingName
  | expectingColon
  | expectingComma
  | unterminatedText
  | controlCharacter
  | invalidEscape
  | invalidCodeEscape
  | extraData
  deriving DecidableEq, Repr

def Fault.message : Fault → String
  | byteOrderMark => "Unexpected UTF-8 BOM (decode using utf-8-sig)"
  | expectingValue => "Expecting value"
  | expectingName => "Expecting property name enclosed in double quotes"
  | expectingColon => "Expecting ':' delimiter"
  | expectingComma => "Expecting ',' delimiter"
  | unterminatedText => "Unterminated string starting at"
  | controlCharacter => "Invalid control character at"
  | invalidEscape => "Invalid \\escape"
  | invalidCodeEscape => "Invalid \\uXXXX escape"
  | extraData => "Extra data"

/-- A fault at a place; line and column count from 1, the position from 0. -/
structure Malformed where
  fault : Fault
  line : Nat
  column : Nat
  position : Nat
  deriving DecidableEq, Repr

def Malformed.message (m : Malformed) : String :=
  m.fault.message ++ ": line " ++ Decimal.natText m.line ++ " column " ++ Decimal.natText m.column
    ++ " (char " ++ Decimal.natText m.position ++ ")"

inductive Error
  | malformed (m : Malformed)
  /-- A whole number has more digits than numbers may have. -/
  | tooManyDigits (count : Nat)
  deriving DecidableEq, Repr

def maxDigits : Nat := 4300

def Error.message : Error → String
  | malformed m => m.message
  | tooManyDigits count =>
    "Exceeds the limit (4300 digits) for integer string conversion: value has "
      ++ Decimal.natText count ++ " digits; use sys.set_int_max_str_digits() to increase the limit"

/-- Why reading stops, before the place is counted out. -/
inductive Stop
  | fault (f : Fault) (remaining : Nat)
  | tooManyDigits (count : Nat)
  deriving DecidableEq, Repr

/-- What a reader gives: a result and the symbols left. -/
abbrev Reading (α : Type) := Except Stop (α × Text)

def isBlank (s : Symbol) : Bool :=
  s = .char ' ' || s = .char '\t' || s = .char '\n' || s = .char '\r'

def skipBlanks (t : Text) : Text := t.dropWhile isBlank

/-! ## Texts -/

def hexValue? : Symbol → Option Nat
  | .char c =>
    if c.isDigit then some (c.toNat - 48)
    else if 'a' ≤ c && c ≤ 'f' then some (c.toNat - 87)
    else if 'A' ≤ c && c ≤ 'F' then some (c.toNat - 55)
    else none
  | .surrogate _ => none

def unit? (a b c d : Symbol) : Option Nat := do
  let a ← hexValue? a
  let b ← hexValue? b
  let c ← hexValue? c
  let d ← hexValue? d
  some (((a * 16 + b) * 16 + c) * 16 + d)

/-- The character that a backslash and a letter stand for. -/
def shortEscape? : Symbol → Option Char
  | .char '"' => some '"'
  | .char '\\' => some '\\'
  | .char '/' => some '/'
  | .char 'b' => some '\x08'
  | .char 'f' => some '\x0c'
  | .char 'n' => some '\n'
  | .char 'r' => some '\r'
  | .char 't' => some '\t'
  | _ => none

/-- What stands between quotes for a symbol. Only a half pair that is written as an escape can be
joined to another one. -/
inductive Piece
  | symbol (s : Symbol)
  | half (offset : Fin 0x800)
  deriving DecidableEq, Repr

namespace Piece

/-- The piece of an escaped unit of 16 bits. -/
def ofUnit (n : Nat) : Piece :=
  if h : 0xd800 ≤ n ∧ n < 0xe000 then half ⟨n - 0xd800, by omega⟩ else symbol (.char (Char.ofNat n))

def toSymbol : Piece → Symbol
  | symbol s => s
  | half offset => .surrogate offset

def isHigh : Piece → Bool
  | symbol _ => false
  | half offset => offset.val < 0x400

def isLow : Piece → Bool
  | symbol _ => false
  | half offset => 0x400 ≤ offset.val

end Piece

/-- The character of an upper and a lower half. -/
def pairChar (high low : Symbol) : Char :=
  Char.ofNat (0x10000 + (high.code - 0xd800) * 0x400 + (low.code - 0xdc00))

/-- The symbols of pieces; an escaped upper half and an escaped lower half right behind it are one
character. -/
def joinPairs : List Piece → Text
  | [] => []
  | [p] => [p.toSymbol]
  | p :: q :: rest =>
    if p.isHigh && q.isLow then .char (pairChar p.toSymbol q.toSymbol) :: joinPairs rest
    else p.toSymbol :: joinPairs (q :: rest)

def consPiece (p : Piece) (r : Reading (List Piece)) : Reading (List Piece) :=
  r.map fun (ps, rest) => (p :: ps, rest)

/-- Reads a text up to its closing quote; `opening` symbols were to come at the opening quote. -/
def readPieces (opening : Nat) : Text → Reading (List Piece)
  | [] => .error (.fault .unterminatedText opening)
  | s :: rest =>
    if s = .char '"' then .ok ([], rest)
    else if s = .char '\\' then
      match rest with
      | [] => .error (.fault .unterminatedText opening)
      | e :: rest =>
        if e = .char 'u' then
          match rest with
          | a :: b :: c :: d :: rest =>
            match unit? a b c d, rest with
            | some n, _ :: _ => consPiece (.ofUnit n) (readPieces opening rest)
            | _, _ => .error (.fault .invalidCodeEscape (rest.length + 5))
          | _ => .error (.fault .invalidCodeEscape (rest.length + 1))
        else
          match shortEscape? e with
          | some c => consPiece (.symbol (.char c)) (readPieces opening rest)
          | none => .error (.fault .invalidEscape (rest.length + 2))
    else if s.code < 0x20 then .error (.fault .controlCharacter (rest.length + 1))
    else consPiece (.symbol s) (readPieces opening rest)

def readString (rest : Text) : Reading Text :=
  (readPieces (rest.length + 1) rest).map fun (ps, rest) => (joinPairs ps, rest)

/-! ## Words and numbers -/

def digitsValue (ds : List Char) : Nat := ds.foldl (fun n c => n * 10 + (c.toNat - 48)) 0

/-- The digits in front, and what follows them. -/
def takeDigits : Text → List Char × Text
  | .char c :: rest =>
    if c.isDigit then
      let (ds, rest) := takeDigits rest
      (c :: ds, rest)
    else ([], .char c :: rest)
  | t => ([], t)

/-- The digits of the whole part: a lone zero, or digits that start with another one. -/
def wholePart (t : Text) : List Char × Text :=
  match t with
  | .char '0' :: rest => (['0'], rest)
  | _ => takeDigits t

/-- The digits after a point; without a digit after it the point is left. -/
def fractionPart (t : Text) : List Char × Text :=
  match t with
  | .char '.' :: rest =>
    let (ds, behind) := takeDigits rest
    if ds.isEmpty then ([], t) else (ds, behind)
  | _ => ([], t)

/-- The exponent after `e`; without a digit after it and its sign the letter is left. -/
def exponentPart (t : Text) : Option Int × Text :=
  match t with
  | .char e :: rest =>
    if e = 'e' || e = 'E' then
      let negative := rest.head? = some (.char '-')
      let unsigned := if negative || rest.head? = some (.char '+') then rest.drop 1 else rest
      let (ds, behind) := takeDigits unsigned
      if ds.isEmpty then (none, t)
      else
        let n : Int := digitsValue ds
        (some (if negative then -n else n), behind)
    else (none, t)
  | _ => (none, t)

/-- Reads a number: whole if it has neither fraction nor exponent. -/
def readNumber (t : Text) : Reading Json :=
  let negative := t.head? = some (.char '-')
  let (whole, rest) := wholePart (if negative then t.drop 1 else t)
  if whole.isEmpty then .error (.fault .expectingValue t.length)
  else
    let (fraction, rest) := fractionPart rest
    let (exponent, rest) := exponentPart rest
    if fraction.isEmpty && exponent.isNone then
      if maxDigits < whole.length then .error (.tooManyDigits whole.length)
      else
        let n : Int := digitsValue whole
        .ok (.int (if negative then -n else n), rest)
    else
      .ok (.float (Decimal.toFloat negative (digitsValue (whole ++ fraction))
        (exponent.getD 0 - fraction.length)), rest)

/-- The text after a word, if it starts with it. -/
def dropWord? : List Char → Text → Option Text
  | [], t => some t
  | _ :: _, [] => none
  | w :: ws, s :: t => if s = .char w then dropWord? ws t else none

/-- The values that are written as a word. -/
def words : List (List Char × Json) :=
  [("null".toList, .null), ("true".toList, .bool true), ("false".toList, .bool false),
   ("NaN".toList, .float (0.0 / 0.0)), ("Infinity".toList, .float (1.0 / 0.0)),
   ("-Infinity".toList, .float (-1.0 / 0.0))]

def readScalar (t : Text) : Reading Json :=
  match words.findSome? fun (word, value) => (dropWord? word t).map (value, ·) with
  | some r => .ok r
  | none => readNumber t

/-! ## Values -/

mutual

/-- Reads a value; `fuel` bounds how far values lie in one another, and is never short when it is
more than twice the symbols to come. -/
def readValue : Nat → Text → Reading Json
  | 0, t => .error (.fault .expectingValue t.length)
  | fuel + 1, t =>
    match t with
    | [] => .error (.fault .expectingValue 0)
    | s :: rest =>
      if s = .char '"' then (readString rest).map fun (t, rest) => (.text t, rest)
      else if s = .char '[' then
        match skipBlanks rest with
        | .char ']' :: rest => .ok (.list [], rest)
        | rest => (readItems fuel rest).map fun (items, rest) => (.list items, rest)
      else if s = .char '\x7b' then
        match skipBlanks rest with
        | .char '\x7d' :: rest => .ok (.object [], rest)
        | rest => (readMembers fuel rest).map fun (entries, rest) => (ofEntries entries, rest)
      else readScalar t

/-- Reads the items of a list up to its end, from the start of an item on. -/
def readItems : Nat → Text → Reading (List Json)
  | 0, t => .error (.fault .expectingValue t.length)
  | fuel + 1, t =>
    match readValue fuel t with
    | .error e => .error e
    | .ok (item, rest) =>
      match skipBlanks rest with
      | .char ']' :: rest => .ok ([item], rest)
      | .char ',' :: rest =>
        (readItems fuel (skipBlanks rest)).map fun (items, rest) => (item :: items, rest)
      | rest => .error (.fault .expectingComma rest.length)

/-- Reads the members of an object up to its end, from the start of a name on. -/
def readMembers : Nat → Text → Reading (List (Text × Json))
  | 0, t => .error (.fault .expectingName t.length)
  | fuel + 1, t =>
    match t with
    | .char '"' :: rest =>
      match readString rest with
      | .error e => .error e
      | .ok (name, rest) =>
        match skipBlanks rest with
        | .char ':' :: rest =>
          match readValue fuel (skipBlanks rest) with
          | .error e => .error e
          | .ok (value, rest) =>
            match skipBlanks rest with
            | .char '\x7d' :: rest => .ok ([(name, value)], rest)
            | .char ',' :: rest =>
              (readMembers fuel (skipBlanks rest)).map fun (entries, rest) =>
                ((name, value) :: entries, rest)
            | rest => .error (.fault .expectingComma rest.length)
        | rest => .error (.fault .expectingColon rest.length)
    | _ => .error (.fault .expectingName t.length)

end

/-! ## Documents -/

/-- The place with `remaining` symbols to come. -/
def locate (t : Text) (f : Fault) (remaining : Nat) : Malformed :=
  let before := t.take (t.length - remaining)
  { fault := f
    line := before.count (.char '\n') + 1
    column := (before.reverse.takeWhile (· ≠ .char '\n')).length + 1
    position := before.length }

/-- Reads one value with blanks around it and nothing else. -/
def readDocument (t : Text) : Except Stop Json :=
  if t.head? = some (.char '\ufeff') then .error (.fault .byteOrderMark t.length)
  else
    match readValue (2 * t.length + 1) (skipBlanks t) with
    | .error e => .error e
    | .ok (value, rest) =>
      match skipBlanks rest with
      | [] => .ok value
      | rest => .error (.fault .extraData rest.length)

def parse (t : Text) : Except Error Json :=
  match readDocument t with
  | .ok value => .ok value
  | .error (.fault f remaining) => .error (.malformed (locate t f remaining))
  | .error (.tooManyDigits count) => .error (.tooManyDigits count)

end RequestSigning.Json
