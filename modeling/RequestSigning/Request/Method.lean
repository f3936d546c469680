import RequestSigning.Text.Case

/-!
# Methods of requests
-/

namespace RequestSigning

inductive Method
  | get
  | post
  | put
  | delete
  | patch
  | head
  | options
  deriving DecidableEq, Repr, Inhabited

namespace Method

def name : Method → String
  | get => "GET"
  | post => "POST"
  | put => "PUT"
  | delete => "DELETE"
  | patch => "PATCH"
  | head => "HEAD"
  | options => "OPTIONS"

def all : List Method := [get, post, put, delete, patch, head, options]

def ofName? (s : String) : Option Method := all.find? fun m => m.name = s

def ofAnyCase? (s : String) : Option Method := ofName? (Text.upper s)

theorem ofName?_name (m : Method) : ofName? m.name = some m := by
  cases m <;> decide

end Method

end RequestSigning
