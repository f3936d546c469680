import RequestSigning.CommandLine.Reading
import RequestSigning.Request.Basic
import RequestSigning.Text.Classes

/-!
# Invocations

What a call of the program asks for. Options with an empty value count as not given, but for those
that a command cannot do without.
-/

namespace RequestSigning.CommandLine

structure RequestArguments where
  method : String
  path : String
  headers : List String
  contentType : Option String
  date : Option String
  uid : Option String
  deriving DecidableEq, Repr

inductive Task
  | overview
  | stringToSign (r : RequestArguments)
  | sign (r : RequestArguments) (secret : Option String) (fromKeyring showString : Bool)
  | credentialsOverview
  | store (uid secret : String)
  | delete (uid : String)
  deriving DecidableEq, Repr

structure Invocation where
  checkCompatibility : Bool
  verbose : Bool
  task : Task
  deriving DecidableEq, Repr

namespace Reading

def values (r : Reading) (key : String) : List String :=
  (r.settings.filter (·.key = key)).map (·.value)

def last? (r : Reading) (key : String) : Option String := (r.values key).getLast?

/-- The last value of an option unless it is empty. -/
def given? (r : Reading) (key : String) : Option String := (r.last? key).filter (· ≠ "")

def has (r : Reading) (key : String) : Bool := r.settings.any (·.key = key)

def request (r : Reading) : RequestArguments :=
  { method := (r.last? "--method").getD "GET"
    path := (r.last? "--path").getD ""
    headers := r.values "--header"
    contentType := r.given? "--content-type"
    date := r.given? "--date"
    uid := r.given? "--uid" }

def task (r : Reading) : Task :=
  match r.command with
  | .program => .overview
  | .stringToSign => .stringToSign r.request
  | .sign =>
    .sign r.request (r.given? "--secret") (r.has "--keyring") (r.has "--show-string-to-sign")
  | .credentials => .credentialsOverview
  | .store => .store ((r.last? "--uid").getD "") ((r.last? "--secret").getD "")
  | .delete => .delete ((r.last? "--uid").getD "")

def invocation (r : Reading) : Invocation :=
  ⟨r.has "--check-compatibility", r.has "--verbose", r.task⟩

end Reading

/-- The name and value of a header argument: the name is what stands before the first colon, without
the blanks around it, and must not be empty; the value follows the blanks behind the colon. -/
def headerOfArgument? (s : String) : Option (String × String) :=
  let name := s.toList.takeWhile (· ≠ ':')
  if name.length < s.toList.length && !name.all Text.isBlank then
    some (String.ofList (Text.trimChars name),
      String.ofList (Text.trimStartChars (s.toList.drop (name.length + 1))))
  else none

def addHeaders (m : Header.Multimap) : List String → Except Invalid Header.Multimap
  | [] => .ok m
  | s :: rest =>
    match headerOfArgument? s with
    | some (name, value) => addHeaders (m.push name value) rest
    | none => .error (.headerArgument s)

def headersOf (arguments : List String) : Except Invalid Header.Multimap :=
  addHeaders .empty arguments

namespace RequestArguments

/-- The request that arguments describe; there is a payload only if there is a content type. -/
def toRequest (r : RequestArguments) : Except Error Request :=
  match headersOf r.headers with
  | .error cause => .error (.invalid cause)
  | .ok headers =>
    Request.make r.method r.path (.multimap headers) (r.contentType.map fun c => ⟨.text c⟩)

end RequestArguments

end RequestSigning.CommandLine
