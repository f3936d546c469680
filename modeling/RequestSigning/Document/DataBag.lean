import RequestSigning.Error.Basic
import RequestSigning.Text.Classes

/-!
# Data bag items

An item is a document of any shape with an id. Only the id is looked at; the text of the document is
kept as it was received.
-/

namespace RequestSigning

structure DataBagItem where
  id : Json.Text
  raw : Json.Text
  deriving DecidableEq, Repr

namespace DataBagItem

def idField : Json.Text := Json.Text.ofString "id"

/-- The item in an object: its id has to be a text. -/
def ofEntries (raw : Json.Text) (entries : List (Json.Text × Json)) :
    Except DocumentError DataBagItem :=
  match Json.find? idField entries with
  | some (.text id) => .ok ⟨id, raw.trim⟩
  | _ => .error .itemWithoutId

/-- The item in a text; the text is kept without the blanks around it. -/
def decodeText (s : Json.Text) : Except Error DataBagItem :=
  match Json.parse s with
  | .error (.malformed m) => .error (.document (.malformedItem (.malformed m)))
  | .error (.tooManyDigits count) => .error (.invalid (.tooManyDigits count))
  | .ok (.object entries) =>
    match ofEntries s entries with
    | .ok item => .ok item
    | .error e => .error (.document e)
  | .ok _ => .error (.document .itemNotObject)

def decode : Loose → Except Error DataBagItem
  | .text s => decodeText s
  | v => .error (.document (.malformedItem (.notText v.kind)))

def encode (item : DataBagItem) : Json.Text := item.raw

end DataBagItem

end RequestSigning
