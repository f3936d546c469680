import RequestSigning.Text.Case
import RequestSigning.Value

/-!
# Headers of a request

Headers are a list of names and values. Names keep their spelling, but every search ignores case.
The view of a multimap is `getAll`: the values of a name in the order in which they were added.
-/

namespace RequestSigning.Header

/-! ## Names of the signing protocol -/

/-- The account for which a request is signed. -/
def uid : String := "x-emc-uid"

def signature : String := "x-emc-signature"

def date : String := "Date"

def range : String := "Range"

def contentType : String := "Content-Type"

/-- How the names of the signed custom headers start, in lower case. -/
def customStart : String := "x-emc-"

/-- Headers of which the value alone, in lower case, stands in the string to sign. -/
def echoed : List String := [range]

/-! ## Multimaps -/

inductive Error
  | emptyName
  | valueNotText (name : String)
  deriving DecidableEq, Repr

def Error.message : Error → String
  | emptyName => "Header name must be a non-empty string"
  | valueNotText name => "Header value for " ++ name ++ " must be a string"

/-- Headers in the order in which they were added. -/
structure Multimap where
  entries : List (String × String) := []
  deriving DecidableEq, Repr, Inhabited

/-- Whether two names differ in case only. -/
def sameName (a b : String) : Bool := Text.lower a == Text.lower b

namespace Multimap

def empty : Multimap := ⟨[]⟩

def push (m : Multimap) (name value : String) : Multimap := ⟨m.entries ++ [(name, value)]⟩

/-- Adds an entry of loosely typed parts: the name has to be a text that is not empty, the value a
text. -/
def add (m : Multimap) (name value : Value) : Except Error Multimap :=
  match name with
  | .text n =>
    if n = "" then .error .emptyName
    else
      match value with
      | .text v => .ok (m.push n v)
      | _ => .error (.valueNotText n)
  | _ => .error .emptyName

/-- Adds values under one name until one is refused; what was added stays. -/
def addAll (m : Multimap) (name : Value) : List Value → Multimap × Option Error
  | [] => (m, none)
  | v :: vs =>
    match m.add name v with
    | .ok m' => m'.addAll name vs
    | .error e => (m, some e)

def addEntries (m : Multimap) : List (Value × Value) → Except Error Multimap
  | [] => .ok m
  | (n, v) :: es =>
    match m.add n v with
    | .ok m' => m'.addEntries es
    | .error e => .error e

/-- A copy is made of the entries, added again one after the other. -/
def copy (m : Multimap) : Except Error Multimap :=
  empty.addEntries (m.entries.map fun e => (.text e.1, .text e.2))

/-- The values of a name, in the order in which they were added. -/
def getAll (m : Multimap) (name : String) : List String :=
  (m.entries.filter fun e => sameName e.1 name).map (·.2)

def getFirst? (m : Multimap) (name : String) : Option String :=
  (m.entries.find? fun e => sameName e.1 name).map (·.2)

def contains (m : Multimap) (name : String) : Bool := (m.getFirst? name).isSome

def remove (m : Multimap) (name : String) : Multimap :=
  ⟨m.entries.filter fun e => !sameName e.1 name⟩

/-- Removes a name and adds the values under it, as far as they are accepted. -/
def replaceAll (m : Multimap) (name : String) (values : List Value) : Multimap × Option Error :=
  (m.remove name).addAll (.text name) values

/-- Puts one value in place of all those of a name. -/
def set (m : Multimap) (name : String) (value : Value) : Except Error Multimap :=
  (m.remove name).add (.text name) value

/-- The distinct spellings of the names, in the order of their first use. -/
def names (m : Multimap) : List String :=
  m.entries.foldl (fun seen e => if seen.contains e.1 then seen else seen ++ [e.1]) []

/-- One entry for each name: the first one. -/
def firsts (m : Multimap) : List (String × String) :=
  m.entries.foldl
    (fun seen e => if seen.any (fun s => sameName s.1 e.1) then seen else seen ++ [e]) []

def size (m : Multimap) : Nat := m.entries.length

def inspect (m : Multimap) : String :=
  "HeaderMultimap(" ++
    Value.inspect (.list (m.entries.map fun e => .tuple [.text e.1, .text e.2])) ++ ")"

theorem getAll_push (m : Multimap) (name value other : String) :
    (m.push name value).getAll other
      = if sameName name other then m.getAll other ++ [value] else m.getAll other := by
  unfold push getAll
  by_cases h : sameName name other <;> simp [List.filter_append, h]

theorem getFirst?_eq_head? (m : Multimap) (name : String) :
    m.getFirst? name = (m.getAll name).head? := by
  simp [getFirst?, getAll, List.head?_map, List.head?_filter]

end Multimap

end RequestSigning.Header
