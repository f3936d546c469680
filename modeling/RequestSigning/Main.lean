import RequestSigning.CommandLine.Run

/-!
# The program

Collects what the program needs from its surroundings, runs it and prints what it gives.
-/

namespace RequestSigning

/-- The moment, as the file system tells it. -/
def currentInstant : IO Date.Instant := do
  let (_, path) ← IO.FS.createTempFile
  let time := (← path.metadata).modified
  IO.FS.removeFile path
  return .whole time.sec

/-- The variables that are looked at and set. -/
def currentEnvironment : IO Environment :=
  [uidVariable, secretVariable].filterMapM fun name => do
    return (← IO.getEnv name).map fun value => (name, .text value)

/-- A keyring that is out of order: this program has no access to that of the system. -/
def absentKeyring : Keyring :=
  let cause := some "No keyring is available"
  { faults := ⟨cause, cause, cause⟩ }

def runProgram (args : List String) : IO UInt32 := do
  let place : CommandLine.Place :=
    { environment := ← currentEnvironment, keyring := absentKeyring,
      around := { now := ← currentInstant } }
  match (CommandLine.run args place).outcome with
  | .ok o =>
    IO.print o.out
    IO.eprint o.err
    return o.exit.toUInt32
  | .error e =>
    IO.eprintln e.text
    return 1

end RequestSigning

def main (args : List String) : IO UInt32 := RequestSigning.runProgram args
