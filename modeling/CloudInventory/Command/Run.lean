import CloudInventory.Command.Arguments
import CloudInventory.Command.Outline
import CloudInventory.Fixture.Basic
import CloudInventory.Provider.Settings
import CloudInventory.Source.Registry

/-!
Running a command. What it finds around itself is given: the contents of files, the environment, and
how the live service answers. The outcome is what it prints or the error it ends with.
-/
namespace CloudInventory

/-- What a command finds around itself. -/
structure Surroundings where
  /-- The content of a file, or why it cannot be read. -/
  file : String → Except String String
  environment : String → Option String
  /-- How the live service answers a request, after those before it. -/
  live : Connection → List Request → Request → Reply

namespace Command

/-- The files that a command reads. -/
def files : Command → List String
  | .dataSources | .schema _ => []
  | .validate _ file | .plan _ file => [file]
  | .read _ file fixture _ => file :: fixture.toList

/-- The error texts of something, as the error that a command ends with. -/
def explained {ε α : Type} (explain : ε → String) : Except ε α → Except String α :=
  Except.mapError explain

/-- The document in a file. -/
def document (around : Surroundings) (path : String) : Except String Json := do
  let content ← explained (fun reason => "Failed to read " ++ path ++ ": " ++ reason)
    (around.file path)
  match Json.parse? content with
  | some document => pure document
  | none => .error ("Failed to parse " ++ path ++ ": <json error>")

/-- The query in a file. -/
def query (around : Surroundings) (path : String) : Except String Config := do
  match ← document around path with
  | .object members => pure (Value.ofJsonMembers members)
  | _ => .error (path ++ ": query document must be a JSON object")

/-- One line for each diagnostic. -/
def diagnosticLines (ds : Diagnostics) : List String :=
  ds.map (fun d =>
    (match d.severity with
      | .error => "  ✗ "
      | .warning => "  ! ") ++ d.text)

def joinLines (lines : List String) : String :=
  "\n".intercalate lines

def source (name : String) : Except String DataSource :=
  explained ProviderError.text (DataSource.named name)

def runValidate (around : Surroundings) (name path : String) : Except String String := do
  let d ← source name
  let config ← query around path
  let found := d.validate config
  if found.hasError then
    .error (joinLines ((path ++ " is not valid for " ++ name ++ ":") :: diagnosticLines found))
  else pure (joinLines (("✓ " ++ path ++ " is valid for " ++ name) :: diagnosticLines found))

def planLines (p : Plan) : List String :=
  ["id: " ++ p.id, "X-Filter: " ++ p.filter,
    "local filters: "
      ++ (if p.localFilters.isEmpty then "(none)" else ", ".intercalate p.localFilters),
    "latest: " ++ (if p.latest then "true" else "false")]

def runPlan (around : Surroundings) (name path : String) : Except String String := do
  let d ← source name
  let config ← query around path
  let p ← explained (fun found => joinLines ("Plan failed:" :: diagnosticLines found))
    (d.plan config)
  pure (joinLines (planLines p))

/-- Who answers the requests of a read, and how many elements it asks for at once. -/
structure Service where
  pageSize : UInt32
  respond : List Request → Request → Reply

/-- The fixture in a file, or else the live service. -/
def service (around : Surroundings) : Option String → Except String Service
  | some path => do
    let spelled ← document around path
    let fixture ← explained (fun e => "Invalid fixture " ++ path ++ ": " ++ e.message)
      (Fixture.ofJson spelled)
    pure ⟨fixture.pageSize, fun _ request => fixture.respond request⟩
  | none => do
    let settings ← explained SettingsError.message (Settings.ofConfig [] around.environment)
    let connection ← explained ProviderError.text settings.connect
    pure ⟨connection.pageSize, around.live connection⟩

def runRead (around : Surroundings) (name path : String) (fixture : Option String)
    (readName : String) : Except String String := do
  let service ← service around fixture
  let config ← query around path
  let d ← source name
  let reading := d.read service.pageSize ⟨name, readName⟩ config
  let snapshot ← explained (fun found => joinLines ("Read failed:" :: diagnosticLines found))
    (reading.run service.respond (fun _ => false)).1
  pure (Value.map snapshot.attributes).toJson.pretty

/-- What a command prints, or the error it ends with. -/
def run (around : Surroundings) : Command → Except String String
  | .dataSources => .ok (joinLines DataSource.names)
  | .schema name => (source name).map (fun d => joinLines (Outline.lines d.schema))
  | .validate name path => runValidate around name path
  | .plan name path => runPlan around name path
  | .read name path fixture readName => runRead around name path fixture readName

end Command

end CloudInventory
