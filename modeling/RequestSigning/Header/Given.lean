import RequestSigning.Error.Basic
import RequestSigning.Header.Custom

/-!
# Headers of loosely typed parts

Names, values and whole headers may be handed in as values of any kind. A name that is no text has
no lower case: nothing can be looked up, taken out or replaced under it, only whether it is there
can be asked. Only texts can be folded and compared.
-/

namespace RequestSigning

inductive HeadersGiven
  | multimap (m : Header.Multimap)
  | mapping (entries : List (Value × Value))
  | other

/-- The elements of a value: characters of a text, items of a list, keys of a table. -/
def Value.elements? : Value → Option (List Value)
  | .text s => some (s.toList.map fun c => .text (String.singleton c))
  | .list items | .tuple items => some items
  | .table entries => some (entries.map (·.1))
  | _ => none

namespace Header

/-! ## Multimaps -/

def needName : Value → Except RequestSigning.Error String
  | .text name => .ok name
  | _ => .error .unsupported

namespace Multimap

/-- Adds the entries of a mapping: a text is one value, anything else a row of values. -/
def addMapping (m : Multimap) : List (Value × Value) → Except RequestSigning.Error Multimap
  | [] => .ok m
  | (name, .text v) :: rest =>
    match m.add name (.text v) with
    | .ok m => m.addMapping rest
    | .error e => .error (.invalid (.header e))
  | (name, value) :: rest =>
    match value.elements? with
    | none => .error .wrongKind
    | some values =>
      match m.addAll name values with
      | (m, none) => m.addMapping rest
      | (_, some e) => .error (.invalid (.header e))

def ofMapping (entries : List (Value × Value)) : Except RequestSigning.Error Multimap :=
  empty.addMapping entries

def getAllGiven (m : Multimap) (name : Value) : Except RequestSigning.Error (List String) :=
  (needName name).map m.getAll

def getFirstGiven (m : Multimap) (name : Value) : Except RequestSigning.Error (Option String) :=
  (needName name).map m.getFirst?

def containsGiven (m : Multimap) : Value → Bool
  | .text name => m.contains name
  | _ => false

def removeGiven (m : Multimap) (name : Value) : Except RequestSigning.Error Multimap :=
  (needName name).map m.remove

/-- Puts the elements of a value in place of the values of a name, and gives the multimap after
that. The name is taken out before the value is looked at. -/
def replaceGiven (m : Multimap) (name values : Value) :
    Except RequestSigning.Error Unit × Multimap :=
  match needName name with
  | .error e => (.error e, m)
  | .ok name =>
    match values.elements? with
    | none => (.error .wrongKind, m.remove name)
    | some values =>
      match m.replaceAll name values with
      | (m, none) => (.ok (), m)
      | (m, some e) => (.error (.invalid (.header e)), m)

/-- Only a multimap is equal to one. -/
def equalsGiven (m : Multimap) : HeadersGiven → Bool
  | .multimap other => m == other
  | _ => false

end Multimap

/-! ## Canonical form -/

def foldGiven : Value → Except RequestSigning.Error String
  | .text s => .ok (foldValue s)
  | _ => .error .unsupported

/-- The entries of a mapping whose names start as custom headers do; names and these values must be
texts. -/
def customEntries (start : String) :
    List (Value × Value) → Except RequestSigning.Error (List (String × String))
  | [] => .ok []
  | (.text name, value) :: rest =>
    if startsWith (Text.lower start) (Text.lower name) then
      match value with
      | .text v => (customEntries start rest).map ((name, v) :: ·)
      | _ => .error .unsupported
    else customEntries start rest
  | _ => .error .unsupported

end Header

namespace HeadersGiven

def canonicalize (h : HeadersGiven) (start : Value) : Except Error (List (String × String)) :=
  match start, h with
  | .text start, .multimap m => .ok (Header.canonicalize m start)
  | .text start, .mapping entries =>
    (Header.customEntries start entries).map fun es => Header.canonicalize ⟨es⟩ start
  | _, _ => .error .unsupported

end HeadersGiven

end RequestSigning
