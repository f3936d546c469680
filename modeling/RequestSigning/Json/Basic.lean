import RequestSigning.Decimal.Text
import RequestSigning.Text.Case
import RequestSigning.Text.Classes
import RequestSigning.Text.Quoted

/-!
# JSON documents

Escapes in a document can name half of a surrogate pair, which is no character, and a text can hold
such a half as it is; so documents and the texts in them are lists of symbols.
-/

namespace RequestSigning

namespace Json

/-- A character, or half of a surrogate pair standing alone: the code point `0xd800 + offset`. -/
inductive Symbol
  | char (c : Char)
  | surrogate (offset : Fin 0x800)
  deriving DecidableEq, Repr, Inhabited

namespace Symbol

def code : Symbol → Nat
  | char c => c.toNat
  | surrogate offset => 0xd800 + offset.val

def char? : Symbol → Option Char
  | char c => some c
  | surrogate _ => none

def isSurrogate (s : Symbol) : Bool := s.char?.isNone

def isHigh : Symbol → Bool
  | char _ => false
  | surrogate offset => offset.val < 0x400

def isLow : Symbol → Bool
  | char _ => false
  | surrogate offset => 0x400 ≤ offset.val

/-- Whether a blank character stands here. -/
def isBlank (s : Symbol) : Bool := s.char?.any RequestSigning.Text.isBlank

/-- One symbol inside quotes. -/
def quoted (quote : Char) : Symbol → List Char
  | char c => RequestSigning.Text.quoteChar quote c
  | s => RequestSigning.Text.codeEscape s.code

end Symbol

abbrev Text := List Symbol

namespace Text

def ofChars (cs : List Char) : Text := cs.map .char

@[simp] theorem ofChars_nil : ofChars [] = [] := rfl

@[simp] theorem ofChars_cons (c : Char) (cs : List Char) :
    ofChars (c :: cs) = .char c :: ofChars cs := rfl

@[simp] theorem ofChars_append (cs ds : List Char) :
    ofChars (cs ++ ds) = ofChars cs ++ ofChars ds := List.map_append

def ofString (s : String) : Text := ofChars s.toList

instance : Coe String Text := ⟨ofString⟩

/-- The characters of a text, with a mark for half a pair. -/
def marked (mark : Char) (t : Text) : String := String.ofList (t.map fun s => s.char?.getD mark)

/-- The characters of a text; half a pair is shown as the replacement character. -/
def toString (t : Text) : String := t.marked '\ufffd'

/-- Half a pair in the text. -/
def half? (t : Text) : Option Symbol := t.find? Symbol.isSurrogate

/-- Upper case of the characters of a text. -/
def upper (t : Text) : Text :=
  t.flatMap fun
    | .char c => ofChars (RequestSigning.Text.upperChar c)
    | s => [s]

/-- The text in quotes. -/
def quoted (t : Text) : String :=
  let quote := RequestSigning.Text.quoteFor (t.filterMap Symbol.char?)
  String.ofList (quote :: t.flatMap (Symbol.quoted quote) ++ [quote])

@[simp] theorem ofString_eq_nil_iff {s : String} : ofString s = [] ↔ s = "" := by
  rw [ofString, ofChars, List.map_eq_nil_iff, String.toList_eq_nil_iff]

@[simp] theorem ofString_ofList (cs : List Char) : ofString (String.ofList cs) = ofChars cs := by
  rw [ofString, String.toList_ofList]

@[simp] theorem ofString_append (s t : String) :
    ofString (s ++ t) = ofString s ++ ofString t := by
  simp [ofString]

@[simp] theorem toString_ofString (s : String) : toString (ofString s) = s := by
  simp [toString, marked, ofString, ofChars, Function.comp_def, Symbol.char?]

@[simp] theorem ofString_inj {s t : String} : ofString s = ofString t ↔ s = t :=
  (Function.LeftInverse.injective toString_ofString).eq_iff

theorem ofString_toString {t : Text} (h : t.half? = none) : ofString t.toString = t := by
  have hchar : ∀ s ∈ t, Symbol.char (s.char?.getD '\ufffd') = s := by
    intro s hs
    have hwhole := List.find?_eq_none.1 h s hs
    cases s with
    | char c => rfl
    | surrogate offset => exact absurd rfl hwhole
  unfold toString marked ofString ofChars
  rw [String.toList_ofList, List.map_map]
  exact (List.map_congr_left hchar).trans (List.map_id t)

@[simp] theorem half?_ofString (s : String) : half? (ofString s) = none := by
  simp [half?, ofString, ofChars, Symbol.isSurrogate, Symbol.char?]

@[simp] theorem upper_ofString (s : String) :
    upper (ofString s) = ofString (RequestSigning.Text.upper s) := by
  simp [upper, ofString, ofChars, RequestSigning.Text.upperChars, List.flatMap_map,
    List.map_flatMap]

/-- The symbols between the leading and the trailing blanks. -/
def trim (t : Text) : Text :=
  ((t.dropWhile Symbol.isBlank).reverse.dropWhile Symbol.isBlank).reverse

end Text

end Json

/-- A document. The entries of an object are in the order of their first appearance. -/
inductive Json
  | null
  | bool (b : Bool)
  | int (n : Int)
  | float (x : Float)
  | text (s : Json.Text)
  | list (items : List Json)
  | object (entries : List (Json.Text × Json))
  deriving Inhabited

namespace Json

/-- Puts a value under a key: in place of the old one if there is one, else at the end. -/
def putEntry (key : Text) (value : Json) : List (Text × Json) → List (Text × Json)
  | [] => [(key, value)]
  | (k, v) :: rest => if k = key then (k, value) :: rest else (k, v) :: putEntry key value rest

/-- The object of the entries as written; of entries with one key the last gives the value. -/
def ofEntries (entries : List (Text × Json)) : Json :=
  .object (entries.foldl (fun acc e => putEntry e.1 e.2 acc) [])

def find? (key : Text) : List (Text × Json) → Option Json
  | [] => none
  | (k, v) :: rest => if k = key then some v else find? key rest

end Json

end RequestSigning
