import RequestSigning.Json.Basic

/-!
# Loosely typed values

Callers hand in values of any kind: a field that should be a text may be a number or a list. A value
of `Data τ α` is built from the basic kinds, with texts of `τ`, lists and tables, and values of `α`
beside them.
-/

namespace RequestSigning

inductive Data (τ α : Type)
  | null
  | bool (b : Bool)
  | int (n : Int)
  | float (x : Float)
  | text (s : τ)
  | list (items : List (Data τ α))
  | tuple (items : List (Data τ α))
  | table (entries : List (Data τ α × Data τ α))
  | other (a : α)
  deriving Inhabited

/-- A value with nothing beside the basic kinds. -/
abbrev Value := Data String Empty

/-- A value in whose texts halves of surrogate pairs can stand. -/
abbrev Loose := Data Json.Text Empty

/-- What is asked of the texts in values. -/
class Wording (τ : Type) where
  isGiven : τ → Bool
  quoted : τ → String
  shown : τ → String

instance : Wording String := ⟨(· != ""), Text.quoted, id⟩

instance : Wording Json.Text := ⟨(!·.isEmpty), Json.Text.quoted, Json.Text.toString⟩

@[simp] theorem Wording.isGiven_string (s : String) : Wording.isGiven s = (s != "") := rfl

@[simp] theorem Wording.isGiven_symbols (t : Json.Text) : Wording.isGiven t = !t.isEmpty := rfl

namespace Data

variable {τ α : Type}

instance : Coe τ (Data τ α) := ⟨.text⟩

/-- Whether a value counts as given: null, false, zero and everything empty do not. -/
def isGiven [Wording τ] : Data τ α → Bool
  | null => false
  | bool b => b
  | int n => n != 0
  | float x => x != 0.0
  | text s => Wording.isGiven s
  | list xs => !xs.isEmpty
  | tuple xs => !xs.isEmpty
  | table es => !es.isEmpty
  | other _ => true

def text? : Data τ α → Option τ
  | text s => some s
  | _ => none

def kind (kindOfOther : α → String) : Data τ α → String
  | null => "NoneType"
  | bool _ => "bool"
  | int _ => "int"
  | float _ => "float"
  | text _ => "str"
  | list _ => "list"
  | tuple _ => "tuple"
  | table _ => "dict"
  | other a => kindOfOther a

mutual

/-- The value with other words for its texts. -/
def mapTexts {σ : Type} (f : τ → σ) : Data τ α → Data σ α
  | null => null
  | bool b => bool b
  | int n => int n
  | float x => float x
  | text s => text (f s)
  | list xs => list (mapTextsList f xs)
  | tuple xs => tuple (mapTextsList f xs)
  | table es => table (mapTextsEntries f es)
  | other a => other a

def mapTextsList {σ : Type} (f : τ → σ) : List (Data τ α) → List (Data σ α)
  | [] => []
  | x :: xs => mapTexts f x :: mapTextsList f xs

def mapTextsEntries {σ : Type} (f : τ → σ) :
    List (Data τ α × Data τ α) → List (Data σ α × Data σ α)
  | [] => []
  | (k, v) :: es => (mapTexts f k, mapTexts f v) :: mapTextsEntries f es

end

section Shown

variable [Wording τ]

mutual

def inspect (showOther : α → String) : Data τ α → String
  | null => "None"
  | bool b => if b then "True" else "False"
  | int n => Decimal.intText n
  | float x => Decimal.floatText Decimal.shownSpelling x
  | text s => Wording.quoted s
  | list xs => "[" ++ ", ".intercalate (inspectList showOther xs) ++ "]"
  | tuple [x] => "(" ++ inspect showOther x ++ ",)"
  | tuple xs => "(" ++ ", ".intercalate (inspectList showOther xs) ++ ")"
  | table es => "\x7b" ++ ", ".intercalate (inspectEntries showOther es) ++ "\x7d"
  | other a => showOther a

def inspectList (showOther : α → String) : List (Data τ α) → List String
  | [] => []
  | x :: xs => inspect showOther x :: inspectList showOther xs

def inspectEntries (showOther : α → String) : List (Data τ α × Data τ α) → List String
  | [] => []
  | (k, v) :: es =>
    (inspect showOther k ++ ": " ++ inspect showOther v) :: inspectEntries showOther es

end

/-- A value as it stands in a message: a text as it is, others as inside values. -/
def shown (showOther : α → String) : Data τ α → String
  | text s => Wording.shown s
  | v => inspect showOther v

end Shown

/-- The whole number that a value counts as: true counts as one and false as zero. -/
def whole? : Data τ α → Option Int
  | bool b => some (if b then 1 else 0)
  | int n => some n
  | _ => none

/-- Whether a double is exactly this whole number. -/
def isWhole (x : Float) (n : Int) : Bool :=
  match Decimal.Double.ofFloat x with
  | .finite negative b =>
    let (num, den) := b.scaled 0
    n * den = if negative then -(num : Int) else num
  | _ => false

/-- Whether two keys are one key: numbers of one value are, whatever their kind. -/
def sameKey [BEq τ] : Data τ α → Data τ α → Bool
  | null, null => true
  | text s, text t => s == t
  | float x, float y => x == y
  | float x, v => v.whole?.any (isWhole x)
  | v, float x => v.whole?.any (isWhole x)
  | v, w =>
    match v.whole?, w.whole? with
    | some m, some n => m == n
    | _, _ => false

/-- Puts a value under a key: in place of the old one if there is one, else at the end. -/
def putEntry [BEq τ] (key value : Data τ α) :
    List (Data τ α × Data τ α) → List (Data τ α × Data τ α)
  | [] => [(key, value)]
  | (k, v) :: rest =>
    if sameKey k key then (k, value) :: rest else (k, v) :: putEntry key value rest

/-- The entries of a table as they are written one after the other; of entries with one key the
first gives the key and the last the value. -/
def mergeEntries [BEq τ] (entries : List (Data τ α × Data τ α)) : List (Data τ α × Data τ α) :=
  entries.foldl (fun acc e => putEntry e.1 e.2 acc) []

/-- Whether a value can be a key: lists and tables cannot. -/
def isKey : Data τ α → Bool
  | list _ | table _ => false
  | tuple items => areKeys items
  | _ => true
where
  areKeys : List (Data τ α) → Bool
    | [] => true
    | v :: vs => isKey v && areKeys vs

end Data

namespace Value

def kind (v : Value) : String := Data.kind Empty.elim v

def inspect (v : Value) : String := Data.inspect Empty.elim v

def shown (v : Value) : String := Data.shown Empty.elim v

def loose (v : Value) : Loose := v.mapTexts Json.Text.ofString

@[simp] theorem isGiven_loose (v : Value) : v.loose.isGiven = v.isGiven := by
  cases v with
  | text s =>
    rw [Bool.eq_iff_iff]
    simp [loose, Data.mapTexts, Data.isGiven]
  | list xs => cases xs <;> rfl
  | tuple xs => cases xs <;> rfl
  | table es => cases es <;> rfl
  | _ => rfl

theorem loose_eq_text_iff {v : Value} {t : Json.Text} :
    v.loose = .text t ↔ ∃ s, v = .text s ∧ .ofString s = t := by
  cases v <;> simp [loose, Data.mapTexts]

end Value

namespace Loose

def kind (v : Loose) : String := Data.kind Empty.elim v

def inspect (v : Loose) : String := Data.inspect Empty.elim v

def shown (v : Loose) : String := Data.shown Empty.elim v

/-- The value that stands under a text. -/
def find? (key : Json.Text) : List (Loose × Loose) → Option Loose
  | [] => none
  | (.text k, v) :: es => if k = key then some v else find? key es
  | _ :: es => find? key es

end Loose

end RequestSigning
