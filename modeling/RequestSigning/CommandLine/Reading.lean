import RequestSigning.CommandLine.Help
import RequestSigning.Text.Classes
import RequestSigning.Text.Quoted

/-!
# Reading arguments

Arguments are told apart first: options, words, and a separator behind which there are words only.
Then they are read from left to right; a command word hands all that follow it to its command. Long
options may be shortened as long as they stay unique, and take a value behind `=` or as the next
word.
-/

namespace RequestSigning.CommandLine

/-- A value written in the same argument as its option. -/
inductive Attached
  /-- Behind an equals sign. -/
  | assigned (value : String)
  /-- Right behind a short option. -/
  | glued (value : String)
  deriving DecidableEq, Repr

structure OptionUse where
  option : OptionSpec
  attached : Option Attached
  deriving DecidableEq, Repr

/-- An argument by its role. An option may be unknown. -/
inductive Token
  | word (s : String)
  | separator
  | option (s : String) (use : Option OptionUse)
  deriving DecidableEq, Repr

def Token.text : Token → String
  | word s => s
  | separator => "--"
  | option s _ => s

inductive Fault
  | ambiguous (argument : String) (candidates : List String)
  | valueMissing (option : OptionSpec)
  | valueUnused (option : OptionSpec) (value : String)
  | unknownCommand (within : Command) (word : String)
  | optionsMissing (options : List OptionSpec)
  | unrecognized (arguments : List String)
  deriving DecidableEq, Repr

def Fault.message : Fault → String
  | ambiguous argument candidates =>
    "ambiguous option: " ++ argument ++ " could match " ++ ", ".intercalate candidates
  | valueMissing o => "argument " ++ o.shown ++ ": expected one argument"
  | valueUnused o value =>
    "argument " ++ o.shown ++ ": ignored explicit argument " ++ Text.quoted value
  | unknownCommand c word =>
    "argument " ++ c.choiceName ++ ": invalid choice: " ++ Text.quoted word ++ " (choose from "
      ++ ", ".intercalate (c.children.map fun d => Text.quoted d.word) ++ ")"
  | optionsMissing os =>
    "the following arguments are required: " ++ ", ".intercalate (os.map OptionSpec.shown)
  | unrecognized arguments => "unrecognized arguments: " ++ " ".intercalate arguments

inductive Ending
  | help (c : Command)
  | version
  | refused (c : Command) (fault : Fault)
  deriving DecidableEq, Repr

/-- An option that was given; a switch has no value. -/
structure Setting where
  key : String
  value : String := ""
  deriving DecidableEq, Repr

/-- What was read: the last command called, the options given and the arguments that are left
over. -/
structure Reading where
  command : Command
  settings : List Setting
  leftOver : List String
  deriving DecidableEq, Repr

/-! ## Telling arguments apart -/

/-- The text before the first equals sign and the text behind it, if there is one. -/
def splitAssignment (s : String) : String × Option String :=
  let cs := s.toList
  let name := cs.takeWhile (· ≠ '=')
  (String.ofList name,
    if name.length < cs.length then some (String.ofList (cs.drop (name.length + 1))) else none)

/-- Digits, or digits around a point with at least one behind it; a line feed may end the text. -/
def isNumberTail (cs : List Char) : Bool :=
  let cs := if cs.getLast? = some '\n' then cs.dropLast else cs
  match cs.dropWhile Text.isDecimalDigit with
  | [] => !cs.isEmpty
  | '.' :: rest => !rest.isEmpty && rest.all Text.isDecimalDigit
  | _ => false

/-- Whether an argument that starts with a hyphen is a number rather than an option. -/
def looksNegative (s : String) : Bool :=
  match s.toList with
  | '-' :: rest => isNumberTail rest
  | _ => false

/-- The options that a shortened spelling can mean: long ones by how they start, short ones by their
letter. -/
def candidates (c : Command) (s : String) : List (String × OptionUse) :=
  match s.toList with
  | '-' :: '-' :: _ =>
    let (name, value) := splitAssignment s
    (c.spellings.filter fun o => name.toList.isPrefixOf o.1.toList).map fun o =>
      (o.1, ⟨o.2, value.map .assigned⟩)
  | '-' :: letter :: rest =>
    c.spellings.filterMap fun o =>
      if o.1.toList = ['-', letter] then some (o.1, ⟨o.2, some (.glued (String.ofList rest))⟩)
      else if s.toList.isPrefixOf o.1.toList then some (o.1, ⟨o.2, none⟩)
      else none
  | _ => []

/-- The option that an argument names in full, with or without a value behind an equals sign. -/
def named? (c : Command) (s : String) : Option OptionUse :=
  match c.option? s with
  | some o => some ⟨o, none⟩
  | none =>
    match splitAssignment s with
    | (name, some value) => (c.option? name).map fun o => ⟨o, some (.assigned value)⟩
    | (_, none) => none

/-- The role of an argument before the separator. -/
def token (c : Command) (s : String) : Except Fault Token :=
  if s.toList.head? ≠ some '-' || s.toList.length = 1 then .ok (.word s)
  else
    match named? c s with
    | some use => .ok (.option s (some use))
    | none =>
      match candidates c s with
      | [(_, use)] => .ok (.option s (some use))
      | [] =>
        if looksNegative s || s.toList.contains ' ' then .ok (.word s) else .ok (.option s none)
      | several => .error (.ambiguous s (several.map (·.1)))

def tokens (c : Command) : List String → Except Fault (List Token)
  | [] => .ok []
  | s :: rest =>
    if s = "--" then .ok (.separator :: rest.map .word)
    else
      match token c s with
      | .error f => .error f
      | .ok t => (tokens c rest).map (t :: ·)

/-! ## Reading from left to right -/

/-- Follows letters glued behind a short option without a value, each of them such an option; the
value that none of them takes, if one is written. -/
def gluedValue? (c : Command) : List Char → Option String
  | [] => none
  | '-' :: rest => some (String.ofList ('-' :: rest))
  | letter :: rest =>
    match c.option? (String.ofList ['-', letter]), rest with
    | some _, '=' :: value => some (String.ofList value)
    | some _, _ => gluedValue? c rest
    | none, _ => none

/-- The value attached to an option that takes none. -/
def unusedValue? (c : Command) (use : OptionUse) : Option String :=
  match use.attached with
  | none => none
  | some (.assigned value) => some value
  | some (.glued value) => gluedValue? c value.toList

/-- A command word with all that follows it: behind a separator there has to be a word. -/
def callOf? (c : Command) (ts : List Token) : Option (String × List String) :=
  if c.children.isEmpty then none
  else
    match ts with
    | .word s :: rest => some (s, rest.map Token.text)
    | .separator :: .word s :: rest => some (Token.separator.text, s :: rest.map Token.text)
    | _ => none

/-- The arguments of one command, up to the word that calls a command below. -/
structure Level where
  settings : List Setting
  leftOver : List String
  call : Option (String × List String)
  deriving DecidableEq, Repr

def Level.withSetting (l : Level) (s : Setting) : Level := { l with settings := s :: l.settings }

def Level.withLeftOver (l : Level) (s : String) : Level := { l with leftOver := s :: l.leftOver }

def readLevel (c : Command) : List Token → Except Ending Level
  | [] => .ok ⟨[], [], none⟩
  | .option s none :: rest => (readLevel c rest).map (·.withLeftOver s)
  | .option _ (some use) :: rest =>
    match use.option.effect, use.attached with
    | .takesValue, some (.assigned value) | .takesValue, some (.glued value) =>
      (readLevel c rest).map (·.withSetting ⟨use.option.key, value⟩)
    | .takesValue, none =>
      match rest with
      | .word value :: rest => (readLevel c rest).map (·.withSetting ⟨use.option.key, value⟩)
      | _ => .error (.refused c (.valueMissing use.option))
    | effect, _ =>
      match unusedValue? c use with
      | some value => .error (.refused c (.valueUnused use.option value))
      | none =>
        match effect with
        | .help => .error (.help c)
        | .version => .error .version
        | _ => (readLevel c rest).map (·.withSetting ⟨use.option.key, ""⟩)
  | t :: rest =>
    match callOf? c (t :: rest) with
    | some call => .ok ⟨[], [], some call⟩
    | none => (readLevel c rest).map (·.withLeftOver t.text)

def missingOptions (c : Command) (settings : List Setting) : List OptionSpec :=
  c.options.filter fun o => o.required && !settings.any (·.key = o.key)

/-- Reads arguments for a command and the commands below it. `depth` bounds how far commands lie
below one another. -/
def readFrom : Nat → Command → List String → Except Ending Reading
  | 0, c, args => .ok ⟨c, [], args⟩
  | depth + 1, c, args =>
    match tokens c args with
    | .error f => .error (.refused c f)
    | .ok ts =>
      match readLevel c ts with
      | .error e => .error e
      | .ok level =>
        match level.call with
        | none =>
          match missingOptions c level.settings with
          | [] => .ok ⟨c, level.settings, level.leftOver⟩
          | os => .error (.refused c (.optionsMissing os))
        | some (word, rest) =>
          match c.children.find? (·.word = word) with
          | none => .error (.refused c (.unknownCommand c word))
          | some child =>
            match readFrom depth child rest with
            | .error e => .error e
            | .ok r =>
              match missingOptions c level.settings with
              | [] => .ok ⟨r.command, level.settings ++ r.settings, level.leftOver ++ r.leftOver⟩
              | os => .error (.refused c (.optionsMissing os))

/-- Commands lie at most two below the program. -/
def depth : Nat := 3

/-- Reads the arguments of the program; nothing may be left over. -/
def read (args : List String) : Except Ending Reading :=
  match readFrom depth .program args with
  | .error e => .error e
  | .ok r =>
    if r.leftOver.isEmpty then .ok r else .error (.refused .program (.unrecognized r.leftOver))

end RequestSigning.CommandLine
