import RequestSigning.Signing.Signer

/-!
# Requests prepared for transport

A transport prepares a request with one value for each header name; names that differ in case only
are one name. Such a request is signed in place: its headers are signed as they are, then the three
headers that signing owns are written into it one after the other.
-/

namespace RequestSigning

/-- Headers with one value for each name. -/
abbrev TransportHeaders := List (String × Value)

namespace TransportHeaders

/-- Sets a header. A name that is there keeps its place and takes the new spelling and value. -/
def set (name : String) (value : Value) : TransportHeaders → TransportHeaders
  | [] => [(name, value)]
  | (n, v) :: rest =>
    if Header.sameName n name then (name, value) :: rest else (n, v) :: set name value rest

def ofList (entries : List (String × Value)) : TransportHeaders :=
  entries.foldl (fun acc e => set e.1 e.2 acc) []

end TransportHeaders

/-- A request prepared for transport; headers may be absent. -/
structure PreparedRequest where
  method : Value
  url : Value
  headers : Option TransportHeaders

namespace PreparedRequest

/-- The header entries as a multimap; names and values must be texts. -/
def readHeaders (p : PreparedRequest) : Except Error Header.Multimap :=
  match Header.Multimap.empty.addEntries ((p.headers.getD []).map fun e => (.text e.1, e.2)) with
  | .ok m => .ok m
  | .error e => .error (.invalid (.header e))

def readMethod (p : PreparedRequest) : Except Error Method :=
  match p.method with
  | .text m =>
    match Method.ofAnyCase? m with
    | some m => .ok m
    | none => .error (.invalid (.unknownMethod (Text.quoted (Text.upper m))))
  | _ => .error .unsupported

/-- The request to be signed; its content type is that of the headers. -/
def toRequest (p : PreparedRequest) : Except Error Request :=
  match p.readHeaders with
  | .error e => .error e
  | .ok headers =>
    match p.readMethod with
    | .error e => .error e
    | .ok method =>
      if p.url.isGiven then
        .ok ⟨method, p.url, headers, (headers.getFirst? Header.contentType).map fun c => ⟨.text c⟩⟩
      else .error (.invalid .emptyEndpoint)

/-- The headers that signing writes, in the order of writing. -/
def signedHeaders : List String := [Header.uid, Header.date, Header.signature]

/-- Sets a header of the request. Without headers there is no place for it. -/
def setHeader (p : PreparedRequest) (name : String) (value : Value) :
    Except Error PreparedRequest :=
  match p.headers with
  | none => .error .wrongKind
  | some headers => .ok { p with headers := some (TransportHeaders.set name value headers) }

/-- Copies headers of a signed request under these names, one after the other, until one cannot be
set. -/
def copyHeaders (signed : Request) :
    List String → PreparedRequest → Except Error Unit × PreparedRequest
  | [], p => (.ok (), p)
  | name :: names, p =>
    match p.setHeader name ((signed.headers.getFirst? name).elim .null .text) with
    | .error e => (.error e, p)
    | .ok p => copyHeaders signed names p

/-- Signs a prepared request in place. Tells whether that worked, what the request is afterwards,
and the next state. -/
def signInPlace (p : PreparedRequest) (s : Signer) (around : Surroundings) (state : SigningState) :
    Except Error Unit × PreparedRequest × SigningState :=
  match p.toRequest with
  | .error e => (.error e, p, state)
  | .ok r =>
    match s.sign around state r with
    | (.error e, state) => (.error e, p, state)
    | (.ok signed, state) =>
      let (result, p) := copyHeaders signed signedHeaders p
      (result, p, state)

/-- The prepared request after signing, if that worked. -/
def sign (p : PreparedRequest) (s : Signer) (around : Surroundings) (state : SigningState) :
    Except Error PreparedRequest × SigningState :=
  let (result, p, state) := p.signInPlace s around state
  (result.map fun () => p, state)

end PreparedRequest

end RequestSigning
