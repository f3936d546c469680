import RequestSigning.Header.Multimap

/-!
# Signed custom headers

Headers whose name starts as custom headers do are brought into one form: names in lower case and in
order, all values of a name on one line, blanks folded.
-/

namespace RequestSigning.Header

/-- Each pair of spaces becomes one space, from left to right. -/
def halveSpaces : List Char → List Char
  | ' ' :: ' ' :: rest => ' ' :: halveSpaces rest
  | c :: rest => c :: halveSpaces rest
  | [] => []

/-- Line feeds are dropped, each with a carriage return right before it. -/
def dropBreaks : List Char → List Char
  | '\r' :: '\n' :: rest => dropBreaks rest
  | '\n' :: rest => dropBreaks rest
  | c :: rest => c :: dropBreaks rest
  | [] => []

def foldChars (cs : List Char) : List Char := dropBreaks (halveSpaces cs)

def foldValue (s : String) : String := String.ofList (foldChars s.toList)

/-- Adds a value to those under a name, the names being in ascending order. -/
def insertGroup (name value : String) : List (String × List String) → List (String × List String)
  | [] => [(name, [value])]
  | (n, vs) :: rest =>
    if n = name then (n, vs ++ [value]) :: rest
    else if name < n then (name, [value]) :: (n, vs) :: rest
    else (n, vs) :: insertGroup name value rest

def startsWith (start s : String) : Bool := start.toList.isPrefixOf s.toList

/-- The folded values of the headers whose lower-case name starts with `start`, by name. -/
def groups (start : String) (entries : List (String × String)) : List (String × List String) :=
  entries.foldl
    (fun acc e =>
      let name := Text.lower e.1
      if startsWith (Text.lower start) name then insertGroup name (foldValue e.2) acc else acc) []

/-- Names and joined values of the custom headers, in ascending order of names. -/
def canonicalize (m : Multimap) (start : String) : List (String × String) :=
  (groups start m.entries).map fun g => (g.1, " ".intercalate g.2)

/-- One `name:value` line for each pair, with line feeds between them. -/
def formatPairs (pairs : List (String × String)) : String :=
  "\n".intercalate (pairs.map fun p => p.1 ++ ":" ++ p.2)

end RequestSigning.Header
