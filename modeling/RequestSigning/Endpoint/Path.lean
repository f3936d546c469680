import RequestSigning.Endpoint.Address
import RequestSigning.Text.Quoted

/-!
# The path of an endpoint

An endpoint is an absolute path or a URL. Its path is what stands between the host and the query or
fragment, as written. The host is looked at only for brackets that hold no address and for
characters that turn into delimiters when compatibility forms are folded.
-/

namespace RequestSigning.Endpoint

inductive Error
  | malformedBrackets
  | futureAddress
  | notAnAddress (host : String)
  | bracketedIPv4
  | unstableHost (netloc : String)
  deriving DecidableEq, Repr

def Error.message : Error → String
  | malformedBrackets => "Invalid IPv6 URL"
  | futureAddress => "IPvFuture address is invalid"
  | notAnAddress host => Text.quoted host ++ " does not appear to be an IPv4 or IPv6 address"
  | bracketedIPv4 => "An IPv4 address cannot be in brackets"
  | unstableHost netloc =>
    "netloc '" ++ netloc ++ "' contains invalid characters under NFKC normalization"

/-- Controls and spaces are dropped at the start, tabs and line breaks everywhere. -/
def clean (cs : List Char) : List Char :=
  (cs.dropWhile (·.toNat ≤ 0x20)).filter fun c => c ≠ '\t' && c ≠ '\r' && c ≠ '\n'

def isSchemeChar (c : Char) : Bool := c.isAlphanum || c = '+' || c = '-' || c = '.'

/-- The text after a scheme and its colon; a scheme starts with a letter. -/
def afterScheme (cs : List Char) : List Char :=
  let scheme := cs.takeWhile (· ≠ ':')
  match cs.dropWhile (· ≠ ':') with
  | [] => cs
  | _ :: rest =>
    if (scheme.head?.map Char.isAlpha).getD false && scheme.all isSchemeChar then rest else cs

def endsHost (c : Char) : Bool := c = '/' || c = '?' || c = '#'

/-- The host part with user and port, empty if there is none, and the text after it. -/
def splitHost : List Char → List Char × List Char
  | '/' :: '/' :: rest => (rest.takeWhile (!endsHost ·), rest.dropWhile (!endsHost ·))
  | cs => ([], cs)

/-- The characters after the last `@`. -/
def afterUser (cs : List Char) : List Char := (cs.reverse.takeWhile (· ≠ '@')).reverse

/-- A version letter, hexadecimal digits, a dot and at least one character. -/
def isFutureAddress (cs : List Char) : Bool :=
  let digits := (cs.drop 1).takeWhile isHexDigit
  !digits.isEmpty
    && match (cs.drop 1).dropWhile isHexDigit with
      | '.' :: rest => !rest.isEmpty
      | _ => false

/-- What stands in brackets is an address, of a version other than the fourth. -/
def checkBracketed (host : List Char) : Except Error Unit :=
  if host.head? = some 'v' then
    if isFutureAddress host then .ok () else .error .futureAddress
  else if isIPv4 host then .error .bracketedIPv4
  else if isIPv6 host then .ok ()
  else .error (.notAnAddress (String.ofList host))

/-- Brackets hold the whole host, a port aside. Where they stand in the user part only, the host
itself is checked. -/
def checkBrackets (netloc : List Char) : Except Error Unit :=
  if netloc.contains '[' != netloc.contains ']' then .error .malformedBrackets
  else if netloc.contains '[' then
    let host := afterUser netloc
    match host.dropWhile (· ≠ '[') with
    | [] => checkBracketed (host.takeWhile (· ≠ ':'))
    | _ :: bracketed =>
      let port := (bracketed.dropWhile (· ≠ ']')).drop 1
      if host.head? ≠ some '[' then .error .malformedBrackets
      else if !port.isEmpty && port.head? ≠ some ':' then .error .malformedBrackets
      else checkBracketed (bracketed.takeWhile (· ≠ ']'))
  else .ok ()

/-- Characters whose compatibility form holds one of the delimiters `/ ? # @ :`. -/
def unstableChars : List Nat :=
  [0x2047, 0x2048, 0x2049, 0x2100, 0x2101, 0x2105, 0x2106, 0x2a74, 0xfe13, 0xfe16, 0xfe55, 0xfe56,
   0xfe5f, 0xfe6b, 0xff03, 0xff0f, 0xff1a, 0xff1f, 0xff20]

def checkStable (netloc : List Char) : Except Error Unit :=
  if netloc.any fun c => unstableChars.contains c.toNat then
    .error (.unstableHost (String.ofList netloc))
  else .ok ()

/-- The characters before a query or fragment. -/
def beforeQuery (cs : List Char) : List Char :=
  (cs.takeWhile (· ≠ '#')).takeWhile (· ≠ '?')

def pathChars (cs : List Char) : Except Error (List Char) :=
  let (netloc, rest) := splitHost (afterScheme (clean cs))
  match checkBrackets netloc with
  | .error e => .error e
  | .ok () =>
    match checkStable netloc with
    | .error e => .error e
    | .ok () => .ok (beforeQuery rest)

def path (endpoint : String) : Except Error String :=
  (pathChars endpoint.toList).map String.ofList

end RequestSigning.Endpoint
