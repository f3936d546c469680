import RequestSigning.Date.DateTime
import RequestSigning.Document.DataBag
import RequestSigning.Json.Printer
import RequestSigning.Key.Load

/-!
# Documents of typed values

Some kinds of values have a codec, which writes them as documents and reads them back: dates and key
material as texts, data bag items as the document that they keep. A table lists the kinds whose
codecs are in use. Values without a codec are plain documents.
-/

namespace RequestSigning.Document

inductive Kind
  | item
  | key (k : KeyKind)
  | date
  deriving DecidableEq, Repr

namespace Kind

def name : Kind → String
  | item => "data_bag_item"
  | key k => Key.kindName k
  | date => "datetime"

def all : List Kind := [item, key .privateKey, key .publicKey, key .certificate, date]

def ofName? (s : Json.Text) : Option Kind := all.find? fun k => (k.name : Json.Text) = s

end Kind

abbrev Table := List Kind

/-! ## Reading -/

inductive Loaded
  | plain (j : Json)
  | item (i : DataBagItem)
  | date (t : Date.DateTime)
  | material (m : Key.Material)

/-- The document in a loosely typed text. -/
def readPlain : Loose → Except Error Json
  | .text s =>
    match Json.parse s with
    | .ok j => .ok j
    | .error (.malformed m) => .error (.document (.malformed (.malformed m)))
    | .error (.tooManyDigits count) => .error (.invalid (.tooManyDigits count))
  | v => .error (.document (.malformed (.notText v.kind)))

/-- The document in a text, which has to be a text itself. -/
def readText (v : Loose) : Except Error Json.Text :=
  match readPlain v with
  | .error e => .error e
  | .ok (.text t) => .ok t
  | .ok _ => .error (.document .notTextDocument)

/-- A `Z` at the end stands for universal time. -/
def expandZulu (t : Json.Text) : Json.Text :=
  match t.reverse with
  | .char 'Z' :: rest => rest.reverse ++ ['+', '0', '0', ':', '0', '0'].map .char
  | _ => t

/-- The characters of a date. Half of a surrogate pair can stand between date and time only, as any
character can. -/
def dateChars? (t : Json.Text) : Option (List Char) :=
  let t := match [7, 8, 10].find? fun i => t[i]?.any Json.Symbol.isSurrogate with
    | some i => t.set i (.char 'T')
    | none => t
  t.mapM Json.Symbol.char?

def decodeDate (t : Json.Text) : Except DocumentError Date.DateTime :=
  let t := expandZulu t
  match (dateChars? t).bind Date.DateTime.ofChars? with
  | some d => .ok d
  | none => .error (.notADate t.toString)

def decode (k : Kind) (v : Loose) : Except Error Loaded :=
  match k with
  | .item => (DataBagItem.decode v).map .item
  | .date =>
    match readText v with
    | .error e => .error e
    | .ok t =>
      match decodeDate t with
      | .ok d => .ok (.date d)
      | .error e => .error (.document e)
  | .key k =>
    match readText v with
    | .error e => .error e
    | .ok t =>
      match Key.load k t with
      | .ok m => .ok (.material m)
      | .error e => .error (.keyMaterial e)

/-- Reads a document as a kind of the table, or as a plain document when no such kind is asked
for. -/
def ofJson (table : Table) (v : Loose) (kind : Option Kind) : Except Error Loaded :=
  match kind with
  | none => (readPlain v).map .plain
  | some k => if table.contains k then decode k v else (readPlain v).map .plain

/-- The kind that a loosely typed value asks for; lists and tables ask for nothing that can be
sought. -/
def kindOfValue : Loose → Except Error (Option Kind)
  | .text s => .ok (Kind.ofName? s)
  | .list _ | .table _ => .error .wrongKind
  | _ => .ok none

/-! ## Writing -/

inductive Leaf
  | date (t : Date.DateTime)
  | item (i : DataBagItem)
  | material (m : Key.Material)
  /-- A value that no codec knows. -/
  | unknown

namespace Leaf

def kind? : Leaf → Option Kind
  | date _ => some .date
  | item _ => some .item
  | material m => some (.key m.kind)
  | unknown => none

def className : Leaf → String
  | date _ => "datetime"
  | item _ => "DataBagItem"
  | material m => m.className
  | unknown => "object"

/-- Name of a value's class in messages about keys of tables. -/
def keyClassName : Leaf → String
  | date _ => "datetime.datetime"
  | l => l.className

def encode? : Leaf → Option Json.Text
  | date t => some (Json.print (.text t.text))
  | item i => some i.encode
  | material m => some (Json.print (.text m.write))
  | unknown => none

/-- The text of a value, if the codec of its kind is in use. -/
def encodeIn? (table : Table) (l : Leaf) : Option Json.Text :=
  if l.kind?.any table.contains then l.encode? else none

end Leaf

/-- A value that is to be written. -/
abbrev Content := Data Json.Text Leaf

/-- A whole number that is to be written: it must not have too many digits. -/
def writableInt (n : Int) : Except Error Int :=
  if (Decimal.natText n.natAbs).length ≤ Json.maxDigits then .ok n
  else .error (.invalid .wholeTooLong)

/-- A value at the place of a key: texts, numbers, truth values and null become texts. -/
def keyText : Content → Except Error Json.Text
  | .text s => .ok s
  | .float x => .ok (Decimal.floatText Decimal.documentSpelling x : String)
  | .bool b => .ok ((if b then "true" else "false") : String)
  | .null => .ok "null"
  | .int n => (writableInt n).map fun n => Decimal.intText n
  | v => .error (.unwritable
      ("keys must be str, int, float, bool or None, not " ++ v.kind Leaf.keyClassName))

/-- A codec value inside a document is the document that its codec writes. -/
def nested (table : Table) (l : Leaf) : Except Error Json :=
  match l.encodeIn? table with
  | none => .error (.unwritable ("Object of type " ++ l.className ++ " is not JSON serializable"))
  | some s =>
    match Json.parse s with
    | .ok j => .ok j
    | .error e => .error (.ofJson e)

mutual

/-- The document of a value; the first part that cannot be written decides. -/
def toDocument (table : Table) : Content → Except Error Json
  | .null => .ok .null
  | .bool b => .ok (.bool b)
  | .int n => (writableInt n).map .int
  | .float x => .ok (.float x)
  | .text s => .ok (.text s)
  | .list items => (toItems table items).map .list
  | .tuple items => (toItems table items).map .list
  | .table entries => (toEntries table entries).map .object
  | .other l => nested table l

def toItems (table : Table) : List Content → Except Error (List Json)
  | [] => .ok []
  | v :: vs =>
    match toDocument table v with
    | .error e => .error e
    | .ok j => (toItems table vs).map (j :: ·)

def toEntries (table : Table) :
    List (Content × Content) → Except Error (List (Json.Text × Json))
  | [] => .ok []
  | (k, v) :: es =>
    match keyText k with
    | .error e => .error e
    | .ok key =>
      match toDocument table v with
      | .error e => .error e
      | .ok j => (toEntries table es).map ((key, j) :: ·)

end

/-- The text of a value: a codec value alone is written as its codec writes it, anything else as a
document. -/
def toJson (table : Table) (v : Content) : Except Error Json.Text :=
  let whole := match v with
    | .other l => l.encodeIn? table
    | _ => none
  match whole with
  | some s => .ok s
  | none => (toDocument table v).map fun j => j.print

end RequestSigning.Document
