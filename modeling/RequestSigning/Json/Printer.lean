import RequestSigning.Json.Basic
import RequestSigning.Text.Quoted

/-!
# Writing documents

Documents are written on one line in ASCII, with a blank after each comma and colon.
-/

namespace RequestSigning.Json

/-- A code as a 16 bit unit escape. -/
def unitEscape (n : Nat) : List Char := '\\' :: 'u' :: Text.hexChars 4 n

/-- A symbol inside quotes; characters beyond 16 bits are written as a pair of units. -/
def escapeSymbol : Symbol → List Char
  | .surrogate offset => unitEscape (0xd800 + offset.val)
  | .char c =>
    if c = '"' then ['\\', '"']
    else if c = '\\' then ['\\', '\\']
    else if c = '\n' then ['\\', 'n']
    else if c = '\r' then ['\\', 'r']
    else if c = '\t' then ['\\', 't']
    else if c = '\x0c' then ['\\', 'f']
    else if c = '\x08' then ['\\', 'b']
    else if 0x20 ≤ c.toNat && c.toNat ≤ 0x7e then [c]
    else if c.toNat < 0x10000 then unitEscape c.toNat
    else
      unitEscape (0xd800 + (c.toNat - 0x10000) / 0x400) ++
        unitEscape (0xdc00 + (c.toNat - 0x10000) % 0x400)

def printText (t : Text) : List Char := '"' :: t.flatMap escapeSymbol ++ ['"']

mutual

def printChars : Json → List Char
  | .null => "null".toList
  | .bool b => if b then "true".toList else "false".toList
  | .int n => (Decimal.intText n).toList
  | .float x => (Decimal.floatText Decimal.documentSpelling x).toList
  | .text t => printText t
  | .list items => '[' :: printItems items ++ [']']
  | .object entries => '\x7b' :: printEntries entries ++ ['\x7d']

def printItems : List Json → List Char
  | [] => []
  | [item] => printChars item
  | item :: items => printChars item ++ ',' :: ' ' :: printItems items

def printEntries : List (Text × Json) → List Char
  | [] => []
  | [(k, v)] => printText k ++ ':' :: ' ' :: printChars v
  | (k, v) :: entries =>
    printText k ++ ':' :: ' ' :: printChars v ++ ',' :: ' ' :: printEntries entries

end

def print (j : Json) : String := String.ofList (printChars j)

end RequestSigning.Json
