import RequestSigning.Header.Custom
import RequestSigning.Request.Basic

/-!
# The string to sign

The lines that are signed for a request: method, content type, echoed header, date and path, then
the custom headers in canonical form. It is put together from segments that each end in a line feed,
and the last line feed is dropped.
-/

namespace RequestSigning.Request

def methodSegment (r : Request) : String := r.method.name ++ "\n"

/-- The content type; nothing in its place when it does not count as given. -/
def contentTypeSegment (r : Request) : Except Error String :=
  if r.contentType.isGiven then
    match r.contentType with
    | .text s => .ok (s ++ "\n")
    | _ => .error .wrongKind
  else .ok "\n"

/-- The first value of each echoed header, in lower case. -/
def echoedSegment (r : Request) : String :=
  String.join (Header.echoed.map fun name => Text.lower ((r.headers.getAll name).headD "") ++ "\n")

/-- The date, which must be there and not be empty. -/
def dateSegment (r : Request) : Except Error String :=
  match r.headers.getFirst? Header.date with
  | some d => if d = "" then .error (.signing (.missingHeader Header.date)) else .ok (d ++ "\n")
  | none => .error (.signing (.missingHeader Header.date))

def pathSegment (r : Request) : Except Error String :=
  r.path.map fun p => Text.lower p ++ "\n"

def customSegment (r : Request) : String :=
  let block := Header.formatPairs (Header.canonicalize r.headers Header.customStart)
  if block = "" then "" else block ++ "\n"

/-- The text without one line feed at its end. -/
def dropLastBreak (s : String) : String :=
  match s.toList.reverse with
  | '\n' :: rest => String.ofList rest.reverse
  | _ => s

def stringToSign (r : Request) : Except Error String :=
  match r.contentTypeSegment with
  | .error e => .error e
  | .ok contentType =>
    match r.dateSegment with
    | .error e => .error e
    | .ok date =>
      match r.pathSegment with
      | .error e => .error e
      | .ok path =>
        .ok (dropLastBreak
          (r.methodSegment ++ contentType ++ r.echoedSegment ++ date ++ path ++ r.customSegment))

end RequestSigning.Request
