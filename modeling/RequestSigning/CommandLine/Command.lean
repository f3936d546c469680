/-!
# Commands and their options

The program, its commands and theirs. Every command has options, and either arguments are options
only or the rest of the arguments belongs to a command below.
-/

namespace RequestSigning.CommandLine

inductive Command
  | program
  | stringToSign
  | sign
  | credentials
  | store
  | delete
  deriving DecidableEq, Repr

inductive Effect
  | help
  | version
  | switch
  | takesValue
  deriving DecidableEq, Repr

/-- An option by all of its spellings; settings go by the last of them. -/
structure OptionSpec where
  spellings : List String
  effect : Effect
  required : Bool := false
  deriving DecidableEq, Repr

namespace OptionSpec

def key (o : OptionSpec) : String := o.spellings.getLastD ""

def shown (o : OptionSpec) : String := "/".intercalate o.spellings

end OptionSpec

namespace Command

def word : Command → String
  | program => "atmos-sign"
  | stringToSign => "string-to-sign"
  | sign => "sign"
  | credentials => "credentials"
  | store => "store"
  | delete => "delete"

def path : Command → String
  | program => program.word
  | c@stringToSign | c@sign | c@credentials => program.word ++ " " ++ c.word
  | c@store | c@delete => program.word ++ " " ++ credentials.word ++ " " ++ c.word

def children : Command → List Command
  | program => [stringToSign, sign, credentials]
  | credentials => [store, delete]
  | _ => []

def choiceName : Command → String
  | program => "command"
  | _ => "credentials_command"

def helpOption : OptionSpec := ⟨["-h", "--help"], .help, false⟩

def requestOptions : List OptionSpec :=
  [⟨["--method"], .takesValue, false⟩, ⟨["--path"], .takesValue, true⟩,
   ⟨["--header"], .takesValue, false⟩, ⟨["--content-type"], .takesValue, false⟩,
   ⟨["--date"], .takesValue, false⟩]

/-- The options of a command in the order in which they are listed. -/
def options : Command → List OptionSpec
  | program =>
    [helpOption, ⟨["--version"], .version, false⟩, ⟨["--check-compatibility"], .switch, false⟩,
     ⟨["--verbose"], .switch, false⟩]
  | stringToSign => helpOption :: requestOptions ++ [⟨["--uid"], .takesValue, false⟩]
  | sign =>
    helpOption :: requestOptions ++
      [⟨["--uid"], .takesValue, false⟩, ⟨["--secret"], .takesValue, false⟩,
       ⟨["--keyring"], .switch, false⟩, ⟨["--show-string-to-sign"], .switch, false⟩]
  | credentials => [helpOption]
  | store => [helpOption, ⟨["--uid"], .takesValue, true⟩, ⟨["--secret"], .takesValue, true⟩]
  | delete => [helpOption, ⟨["--uid"], .takesValue, true⟩]

def spellings (c : Command) : List (String × OptionSpec) :=
  c.options.flatMap fun o => o.spellings.map fun s => (s, o)

def option? (c : Command) (spelling : String) : Option OptionSpec := c.spellings.lookup spelling

end Command

end RequestSigning.CommandLine
