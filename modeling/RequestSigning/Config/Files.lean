import RequestSigning.Error.Basic

/-!
# Files by path

Paths are sequences of names below the current directory or the root. Blank steps are dropped, steps
to the directory above are kept. Files are read as UTF-8, every line break becoming a line feed.
-/

namespace RequestSigning

/-- A path: how it starts at the root, if it does, and the names below. -/
structure FilePath where
  root : String
  names : List String
  deriving DecidableEq, Repr

namespace FilePath

/-- The pieces of a text between slashes. -/
def pieces (cs : List Char) : List (List Char) := Endpoint.splitWhere (· = '/') cs

/-- A path that starts with exactly two slashes has a root of its own. -/
def rootOf (cs : List Char) : String :=
  match cs with
  | '/' :: '/' :: '/' :: _ => "/"
  | '/' :: '/' :: _ => "//"
  | '/' :: _ => "/"
  | _ => ""

def ofString (s : String) : FilePath :=
  ⟨rootOf s.toList,
    ((pieces s.toList).filter fun p => !p.isEmpty && p ≠ ['.']).map String.ofList⟩

def text (p : FilePath) : String :=
  if p.root = "" && p.names.isEmpty then "." else p.root ++ "/".intercalate p.names

end FilePath

/-- The files and directories below the current directory. -/
structure FileTree where
  files : List (List String × List UInt8)
  directories : List (List String)

inductive FileFault
  | notFound
  | notADirectory
  | isADirectory
  | nameTooLong
  deriving DecidableEq, Repr

/-- The fault with its number and the quoted path. -/
def FileFault.message (f : FileFault) (path : String) : String :=
  (match f with
    | notFound => "[Errno 2] No such file or directory: "
    | notADirectory => "[Errno 20] Not a directory: "
    | isADirectory => "[Errno 21] Is a directory: "
    | nameTooLong => "[Errno 36] File name too long: ") ++ Text.quoted path

namespace FileTree

def file? (t : FileTree) (names : List String) : Option (List UInt8) := t.files.lookup names

/-- Whether names lead to a directory: one that is listed, or one above a file or directory. -/
def isDirectory (t : FileTree) (names : List String) : Bool :=
  names.isEmpty || t.directories.any (names.isPrefixOf ·)
    || t.files.any fun f => names.isPrefixOf f.1 && names ≠ f.1

def maxName : Nat := 255

def maxPath : Nat := 4095

/-- Walks from a directory along names. Directories above the current one hold nothing else. -/
def walk (t : FileTree) (here : List String) : List String → Except FileFault (List String)
  | [] => .ok here
  | name :: rest =>
    if maxName < name.utf8ByteSize then .error .nameTooLong
    else if name = ".." then
      if !here.isEmpty then t.walk here.dropLast rest
      else if rest.all (· = "..") then .error .isADirectory
      else .error .notFound
    else
      let next := here ++ [name]
      if t.isDirectory next then t.walk next rest
      else if (t.file? next).isSome then
        if rest.isEmpty then .ok next else .error .notADirectory
      else .error .notFound

def read (t : FileTree) (p : FilePath) : Except FileFault (List UInt8) :=
  if maxPath < p.text.utf8ByteSize then .error .nameTooLong
  else if p.root ≠ "" then if p.names.isEmpty then .error .isADirectory else .error .notFound
  else
    match t.walk [] p.names with
    | .error e => .error e
    | .ok names =>
      match t.file? names with
      | some bytes => .ok bytes
      | none => .error .isADirectory

end FileTree

/-- Carriage returns, with or without a line feed, become line feeds. -/
def unifyBreaks : List Char → List Char
  | '\r' :: '\n' :: rest => '\n' :: unifyBreaks rest
  | '\r' :: rest => '\n' :: unifyBreaks rest
  | c :: rest => c :: unifyBreaks rest
  | [] => []

end RequestSigning
