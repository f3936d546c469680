import RequestSigning.Header.Given
import RequestSigning.Request.Method

/-!
# Requests to be signed

A request has a method, an endpoint, headers and, if there is a body, what is known of it. Endpoint
and content type are kept as given, of any kind; only the endpoint's presence is checked.
-/

namespace RequestSigning

/-- What of a body takes part in signing. -/
structure Payload where
  contentType : Value

structure Request where
  method : Method
  endpoint : Value
  headers : Header.Multimap
  payload : Option Payload

namespace Request

def readHeaders : HeadersGiven → Except Error Header.Multimap
  | .multimap m => .ok m
  | .mapping entries => Header.Multimap.ofMapping entries
  | .other => .error (.invalid .headersNotMapping)

/-- A request of the parts handed in: the endpoint must be given, the method be known in any case,
the headers be headers. -/
def make (method endpoint : Value) (headers : HeadersGiven) (payload : Option Payload) :
    Except Error Request :=
  if !endpoint.isGiven then .error (.invalid .emptyEndpoint)
  else
    match Method.ofAnyCase? method.shown with
    | none => .error (.invalid (.unsupportedMethod method.shown))
    | some m => (readHeaders headers).map fun h => ⟨m, endpoint, h, payload⟩

def withHeaders (r : Request) (headers : Header.Multimap) : Request := { r with headers := headers }

/-- The content type as given; null without a payload. -/
def contentType (r : Request) : Value :=
  match r.payload with
  | some p => p.contentType
  | none => .null

/-- The path of the endpoint, as written; lists and tables cannot even be looked up. -/
def path (r : Request) : Except Error String :=
  match r.endpoint with
  | .text s =>
    match Endpoint.path s with
    | .ok p => .ok p
    | .error e => .error (.invalid (.endpoint e))
  | .list _ | .table _ => .error .wrongKind
  | _ => .error .unsupported

/-- The request in the log, each line behind a mark. -/
def logText (r : Request) (mark : String) : String :=
  let first := mark ++ " " ++ r.method.name ++ " " ++ r.endpoint.shown ++ " HTTP/1.1"
  let headers := r.headers.entries.map fun e => mark ++ " " ++ e.1 ++ ": " ++ e.2
  let last := match r.contentType with
    | .null => []
    | v => [mark ++ " Content-Type: " ++ v.shown]
  "\n".intercalate (first :: headers ++ last)

end Request

end RequestSigning
