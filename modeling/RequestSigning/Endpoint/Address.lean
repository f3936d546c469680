/-!
# Numeric host addresses

Which texts are addresses of the fourth and of the sixth version of the protocol.
-/

namespace RequestSigning.Endpoint

/-- The parts of a list between the elements that satisfy a test. -/
def splitWhere {α : Type} (isBreak : α → Bool) : List α → List (List α)
  | [] => [[]]
  | c :: cs =>
    if isBreak c then [] :: splitWhere isBreak cs
    else
      match splitWhere isBreak cs with
      | [] => [[c]]
      | part :: parts => (c :: part) :: parts

/-- One to three digits without a leading zero, at most 255. -/
def isOctet (cs : List Char) : Bool :=
  cs.all Char.isDigit && 1 ≤ cs.length && cs.length ≤ 3 && (cs = ['0'] || cs.head? ≠ some '0')
    && cs.foldl (fun n c => n * 10 + (c.toNat - 48)) 0 ≤ 255

/-- Four octets with dots between them. -/
def isIPv4 (cs : List Char) : Bool :=
  let parts := splitWhere (· = '.') cs
  parts.length = 4 && parts.all isOctet

def isHexDigit (c : Char) : Bool :=
  c.isDigit || ('a' ≤ c && c ≤ 'f') || ('A' ≤ c && c ≤ 'F')

/-- One to four hexadecimal digits. -/
def isHextet (cs : List Char) : Bool := cs.all isHexDigit && 1 ≤ cs.length && cs.length ≤ 4

/-- The parts with a last part in dotted form replaced by the two groups that it stands for. -/
def expandDotted (parts : List (List Char)) : Option (List (List Char)) :=
  match parts.getLast? with
  | some last =>
    if last.contains '.' then
      if isIPv4 last then some (parts.dropLast ++ [['0'], ['0']]) else none
    else some parts
  | none => some parts

/-- Parts on one side of a gap: none, written as one empty part, or groups only. -/
def sideLength? (parts : List (List Char)) : Option Nat :=
  if parts = [[]] then some 0 else if parts.all isHextet then some parts.length else none

/-- Groups with at most one gap, which stands for at least one group; eight groups in all. -/
def isIPv6Groups (parts : List (List Char)) : Bool :=
  let gaps := ((List.range parts.length).drop 1).dropLast.filter fun i => parts[i]? = some []
  match gaps with
  | [] => parts.length = 8 && parts.all isHextet
  | [gap] =>
    match sideLength? (parts.take gap), sideLength? (parts.drop (gap + 1)) with
    | some high, some low => high + low ≤ 7
    | _, _ => false
  | _ => false

/-- Groups with colons between them, then possibly a zone behind a percent sign. -/
def isIPv6 (cs : List Char) : Bool :=
  let address := cs.takeWhile (· ≠ '%')
  let zoneOk := match cs.dropWhile (· ≠ '%') with
    | [] => true
    | _ :: zone => !zone.isEmpty && !zone.contains '%'
  let parts := splitWhere (· = ':') address
  zoneOk && 3 ≤ parts.length
    && match expandDotted parts with
      | some parts => parts.length ≤ 9 && isIPv6Groups parts
      | none => false

end RequestSigning.Endpoint
