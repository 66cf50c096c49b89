import CloudInventory.Text.Parts

/-!
The command line: which command a list of arguments asks for, or why it asks for none. Arguments are
taken from the left. A flag may stand anywhere; what follows two hyphens is never a flag. The value
of an argument is settled when the next argument begins, so that a fault in it comes after a flag
that is not known.
-/
namespace CloudInventory

inductive Command where
  /-- Name the data sources. -/
  | dataSources
  /-- Show the schema of a data source. -/
  | schema (source : String)
  /-- Validate the query in a file. -/
  | validate (source file : String)
  /-- Show what a read of the query in a file would send. -/
  | plan (source file : String)
  /-- Read a data source, from a fixture if one is given. -/
  | read (source file : String) (fixture : Option String) (name : String)
  deriving DecidableEq, Repr

/-- Why arguments ask for no command. -/
inductive Usage where
  | help
  /-- Nothing was given at all. -/
  | nothingGiven
  | missingSubcommand
  | invalidSubcommand
  | missingArgument
  | unknownArgument
  /-- A value is empty or absent. -/
  | invalidValue
  /-- A flag that takes no value was given one. -/
  | surplusValue
  /-- An argument that may be given once was given again. -/
  | repeatedArgument
  deriving DecidableEq, Repr

/-- What an argument looks like. -/
inductive Word where
  /-- Two hyphens and nothing else. -/
  | divider
  /-- A name after two hyphens, and a value after an equals sign. -/
  | long (name : String) (value : Option String)
  /-- Letters after one hyphen. -/
  | short (letters : List Char)
  | plain (text : String)
  deriving DecidableEq, Repr

def Word.ofArgument (argument : String) : Word :=
  match argument.toList with
  | ['-', '-'] => .divider
  | '-' :: '-' :: rest =>
    match rest.span (· ≠ '=') with
    | (name, _ :: value) => .long (String.ofList name) (some (String.ofList value))
    | (name, []) => .long (String.ofList name) none
  | '-' :: letter :: rest => .short (letter :: rest)
  | _ => .plain argument

/-- The subcommands. -/
inductive Subcommand where
  | dataSources | schema | validate | plan | read
  deriving DecidableEq, Repr

namespace Subcommand

def ofName? (name : String) : Option Subcommand :=
  if name = "data-sources" then some .dataSources
  else if name = "schema" then some .schema
  else if name = "validate" then some .validate
  else if name = "plan" then some .plan
  else if name = "read" then some .read
  else none

end Subcommand

/-- A place for the value of an argument. -/
inductive Slot where
  | source | file | fixture | name
  deriving DecidableEq, Repr

namespace Slot

/-- Whether the value names a file, which no empty text does. -/
def isFile : Slot → Bool
  | .file | .fixture => true
  | .source | .name => false

/-- The slots of a subcommand that are filled in order. -/
def positional : Subcommand → List Slot
  | .dataSources => []
  | .schema => [.source]
  | .validate | .plan | .read => [.source, .file]

/-- The slot of a subcommand that a flag fills. -/
def ofFlag? : Subcommand → String → Option Slot
  | .read, flag =>
    if flag = "fixture" then some .fixture else if flag = "name" then some .name else none
  | _, _ => none

end Slot

/-- What has been taken from the arguments of a subcommand. -/
structure Taken where
  /-- The positional slots still free. -/
  free : List Slot
  filled : List (Slot × String)
  /-- A slot that is about to be filled, with its value once that has come. -/
  pending : Option (Slot × Option String)

namespace Taken

def value? (t : Taken) (slot : Slot) : Option String :=
  t.filled.lookup slot

/-- Fills a slot, once. -/
def fill (t : Taken) (slot : Slot) (value : String) : Except Usage Taken :=
  if (t.value? slot).isSome then .error .repeatedArgument
  else if slot.isFile ∧ value.isEmpty then .error .invalidValue
  else .ok { t with filled := t.filled ++ [(slot, value)] }

/-- Fills the slot that is about to be filled. -/
def settle (t : Taken) : Except Usage Taken :=
  match t.pending with
  | none => .ok t
  | some (_, none) => .error .invalidValue
  | some (slot, some value) => { t with pending := none }.fill slot value

/-- Takes a long flag. -/
def takeLong (t : Taken) (command : Subcommand) (name : String) (value : Option String) :
    Except Usage Taken :=
  match Slot.ofFlag? command name, value with
  | some slot, some value => do (← t.settle).fill slot value
  | some slot, none => do pure { (← t.settle) with pending := some (slot, none) }
  | none, value =>
    if name = "verbose" ∨ name = "help" then
      if value.isSome then .error .surplusValue
      else do
        let t ← t.settle
        if name = "help" then .error .help else pure t
    else .error .unknownArgument

/-- Takes letters after one hyphen. -/
def takeShort (t : Taken) : List Char → Except Usage Taken
  | [] => .ok t
  | letter :: rest =>
    if letter = 'v' then do (← t.settle).takeShort rest
    else if letter = 'h' then do
      let _ ← t.settle
      .error .help
    else .error .unknownArgument

/-- Takes a text into the next free positional slot. -/
def takePositional (t : Taken) (text : String) : Except Usage Taken :=
  match t.free with
  | [] => .error .unknownArgument
  | slot :: free => do pure { (← t.settle) with free, pending := some (slot, some text) }

/-- Takes a text, as the value of a flag that waits for one or else into a positional slot. -/
def takePlain (t : Taken) (text : String) : Except Usage Taken :=
  match t.pending with
  | some (slot, none) => .ok { t with pending := some (slot, some text) }
  | _ => t.takePositional text

/-- Takes one argument, which may be a flag only before the divider. -/
def takeWord (t : Taken) (command : Subcommand) : Word → Except Usage Taken
  | .divider => .ok t
  | .long name value => t.takeLong command name value
  | .short letters => t.takeShort letters
  | .plain text => t.takePlain text

/-- Takes arguments after the divider. -/
def takeRest (t : Taken) : List String → Except Usage Taken
  | [] => .ok t
  | argument :: rest => do (← t.takePositional argument).takeRest rest

/-- Takes arguments. -/
def takeAll (t : Taken) (command : Subcommand) : List String → Except Usage Taken
  | [] => .ok t
  | argument :: rest =>
    match Word.ofArgument argument with
    | .divider => t.takeRest rest
    | word => do (← t.takeWord command word).takeAll command rest

/-- The value of a slot that must be filled. -/
def needed (t : Taken) (slot : Slot) : Except Usage String :=
  match t.value? slot with
  | some value => .ok value
  | none => .error .missingArgument

/-- The name under which a read is reported when none is given. -/
def standardName : String := "cli"

/-- The command that has been taken. -/
def command (t : Taken) : Subcommand → Except Usage Command
  | .dataSources => .ok .dataSources
  | .schema => do pure (.schema (← t.needed .source))
  | .validate => do pure (.validate (← t.needed .source) (← t.needed .file))
  | .plan => do pure (.plan (← t.needed .source) (← t.needed .file))
  | .read => do
    pure (.read (← t.needed .source) (← t.needed .file) (t.value? .fixture)
      ((t.value? .name).getD standardName))

end Taken

namespace Command

/-- The command of a subcommand and the arguments after it. -/
def ofSubcommand (subcommand : Subcommand) (arguments : List String) : Except Usage Command := do
  let start : Taken := ⟨Slot.positional subcommand, [], none⟩
  let taken ← start.takeAll subcommand arguments
  (← taken.settle).command subcommand

/-- The outcome of asking for help on subcommands, of which none has others inside. -/
def helpOn : List String → Usage
  | [] => .help
  | [name] =>
    if name = "help" ∨ (Subcommand.ofName? name).isSome then .help else .invalidSubcommand
  | _ => .invalidSubcommand

/-- The outcome when only flags come before the end. -/
def nothingAfter (flagsGiven : Bool) : Usage :=
  if flagsGiven then .missingSubcommand else .nothingGiven

/-- The outcome of arguments after a divider, where no subcommand may stand. -/
def afterDivider (flagsGiven : Bool) : List String → Usage
  | [] => nothingAfter flagsGiven
  | name :: _ =>
    if name = "help" ∨ (Subcommand.ofName? name).isSome then .unknownArgument
    else .invalidSubcommand

/-- Whether letters after one hyphen are flags that may stand before a subcommand. -/
def checkShort : List Char → Except Usage Unit
  | [] => .ok ()
  | letter :: rest =>
    if letter = 'v' then checkShort rest
    else if letter = 'h' then .error .help
    else .error .unknownArgument

/-- Whether a long flag may stand before a subcommand. -/
def checkLong (name : String) (value : Option String) : Except Usage Unit :=
  if name = "verbose" ∨ name = "help" then
    if value.isSome then .error .surplusValue
    else if name = "help" then .error .help
    else .ok ()
  else .error .unknownArgument

/-- The command that arguments ask for, after flags that have or have not been given. -/
def ofArgumentsAfter (flagsGiven : Bool) : List String → Except Usage Command
  | [] => .error (nothingAfter flagsGiven)
  | argument :: rest =>
    match Word.ofArgument argument with
    | .divider => .error (afterDivider flagsGiven rest)
    | .long name value => do
      checkLong name value
      ofArgumentsAfter true rest
    | .short letters => do
      checkShort letters
      ofArgumentsAfter true rest
    | .plain name =>
      match Subcommand.ofName? name with
      | some subcommand => ofSubcommand subcommand rest
      | none => .error (if name = "help" then helpOn rest else .invalidSubcommand)

/-- The command that arguments ask for. -/
def ofArguments (arguments : List String) : Except Usage Command :=
  ofArgumentsAfter false arguments

end Command

end CloudInventory
