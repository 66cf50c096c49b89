import CloudInventory.Command.Run

/-!
The program: reads the files and the environment that a command needs, runs it, and prints what it
has to say.
-/
namespace CloudInventory

/-- Why a file cannot be read. -/
def unreadable : IO.Error → String
  | .noFileOrDirectory .. => "No such file or directory (os error 2)"
  | .permissionDenied .. => "Permission denied (os error 13)"
  | other => toString other

/-- The content of a file, or why it cannot be read. -/
def contentOf (path : String) : IO (String × Except String String) := do
  try
    pure (path, .ok (← IO.FS.readFile path))
  catch e => pure (path, .error (unreadable e))

def environmentNames : List String :=
  ["LINODE_TOKEN", "LINODE_URL", "LINODE_API_VERSION", "LINODE_UA_PREFIX"]

/-- The surroundings of a command. There is no live service. -/
def surroundingsOf (command : Command) : IO Surroundings := do
  let contents ← command.files.mapM contentOf
  let values ← environmentNames.mapM (fun name => do pure (name, ← IO.getEnv name))
  pure {
    file := fun path => (contents.lookup path).getD (.error "not a file of this command")
    environment := fun name => (values.lookup name).getD none
    live := fun _ _ _ => .error (.transport "the live service cannot be reached") }

def usageText : String := "Usage: linode [-v] <COMMAND>

Commands:
  data-sources
  schema <DATA_SOURCE>
  validate <DATA_SOURCE> <FILE>
  plan <DATA_SOURCE> <FILE>
  read <DATA_SOURCE> <FILE> [--fixture <FIXTURE>] [--name <NAME>]
  help [COMMAND]"

/-- What is wrong with the arguments. -/
def complaintOf : Usage → Option String
  | .help => none
  | .nothingGiven | .missingSubcommand => some "a subcommand is required"
  | .invalidSubcommand => some "unrecognized subcommand"
  | .missingArgument => some "a required argument is missing"
  | .unknownArgument => some "unexpected argument"
  | .invalidValue => some "a value is required"
  | .surplusValue => some "a value was given where none is taken"
  | .repeatedArgument => some "an argument was given more than once"

end CloudInventory

open CloudInventory

def main (arguments : List String) : IO UInt32 := do
  match Command.ofArguments arguments with
  | .error usage =>
    match complaintOf usage with
    | none =>
      IO.println usageText
      pure 0
    | some complaint =>
      IO.eprintln ("error: " ++ complaint ++ "\n\n" ++ usageText)
      pure 2
  | .ok command =>
    match command.run (← surroundingsOf command) with
    | .ok printed =>
      IO.println printed
      pure 0
    | .error message =>
      IO.eprintln ("Error: " ++ message)
      pure 1
