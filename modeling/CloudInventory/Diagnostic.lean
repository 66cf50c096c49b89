/-!
Diagnostics: what is wrong with a configuration or a read, and where in the configuration.
-/
namespace CloudInventory

/-- One step into a configuration. -/
inductive Step where
  | key (name : String)
  | index (i : Nat)
  deriving DecidableEq, Repr

/-- A place in a configuration, from the root. -/
abbrev Path := List Step

namespace Path

/-- A step that follows another one. -/
def stepText : Step → String
  | .key name => "." ++ name
  | .index i => "[" ++ toString i ++ "]"

/-- Keys are set off by points, except for the first step, and indices stand in brackets. -/
def text : Path → String
  | [] => ""
  | .key name :: rest => name ++ String.join (rest.map stepText)
  | .index i :: rest => stepText (.index i) ++ String.join (rest.map stepText)

end Path

inductive Severity where
  | error
  | warning
  deriving DecidableEq, Repr

def Severity.name : Severity → String
  | .error => "Error"
  | .warning => "Warning"

structure Diagnostic where
  severity : Severity
  summary : String
  detail : String
  path : Option Path
  deriving DecidableEq, Repr

namespace Diagnostic

def error (summary detail : String) (path : Option Path) : Diagnostic :=
  ⟨.error, summary, detail, path⟩

def isError (d : Diagnostic) : Bool :=
  d.severity = .error

/-- Where the diagnostic points, unless that is the whole configuration. -/
def placeText : Option Path → String
  | none | some [] => ""
  | some path => " (at " ++ Path.text path ++ ")"

def text (d : Diagnostic) : String :=
  d.severity.name ++ ": " ++ d.summary ++ (if d.detail.isEmpty then "" else ": " ++ d.detail)
    ++ placeText d.path

end Diagnostic

/-- Diagnostics in the order in which they were found. -/
abbrev Diagnostics := List Diagnostic

namespace Diagnostics

def hasError (ds : Diagnostics) : Bool :=
  ds.any Diagnostic.isError

def errors (ds : Diagnostics) : Diagnostics :=
  ds.filter Diagnostic.isError

/-- One line for each. -/
def text (ds : Diagnostics) : String :=
  "\n".intercalate (ds.map Diagnostic.text)

end Diagnostics

end CloudInventory
