import CloudInventory.Diagnostic
import CloudInventory.Schema.Basic

/-!
Validating a configuration against a schema. Every fault is found, in a fixed order: unknown names,
then attributes, then blocks, each by name, with the elements of a block in turn. The validators of
a block run on an element only when nothing else is wrong with it.
-/
namespace CloudInventory

/-- What is wrong at one place of a configuration. -/
inductive Problem where
  | unknown (name : String)
  | missing (name : String)
  | computed (name : String)
  | wrongType (error : TypeError)
  | rejected (message : String)
  | notList (got : Kind)
  | notMap (got : Kind)
  | rejectedBlock (message : String)
  deriving DecidableEq, Repr

namespace Problem

def summary : Problem → String
  | .unknown _ => "Unsupported argument"
  | .missing _ => "Missing required argument"
  | .computed _ => "Invalid configuration"
  | .wrongType _ => "Incorrect attribute value type"
  | .rejected _ => "Invalid attribute value"
  | .notList _ | .notMap _ => "Incorrect block type"
  | .rejectedBlock _ => "Invalid block"

def detail : Problem → String
  | .unknown name => "Unknown attribute '" ++ name ++ "'"
  | .missing name => "Required attribute '" ++ name ++ "' is missing"
  | .computed name => "Attribute '" ++ name ++ "' is computed and cannot be set"
  | .wrongType error => error.message
  | .rejected message | .rejectedBlock message => message
  | .notList got => mismatchText Kind.list.name got.name
  | .notMap got => mismatchText Kind.map.name got.name

end Problem

/-- A problem and its place. -/
structure Finding where
  path : Path
  problem : Problem
  deriving DecidableEq, Repr

namespace Finding

/-- The same problem seen from one step further out. -/
def under (step : Step) (f : Finding) : Finding :=
  { f with path := step :: f.path }

def toDiagnostic (f : Finding) : Diagnostic :=
  .error f.problem.summary f.problem.detail (some f.path)

end Finding

/-- The keys of a configuration that name neither an attribute nor a block, in order. -/
def unknownKeys (attributes : Dictionary Attribute) (blocks : Dictionary Block)
    (config : Config) : List String :=
  sortTexts (config.keys.filter (fun k => !attributes.contains k && !blocks.contains k))

def unknownFindings (attributes : Dictionary Attribute) (blocks : Dictionary Block)
    (config : Config) : List Finding :=
  (unknownKeys attributes blocks config).map (fun k => ⟨[.key k], .unknown k⟩)

namespace Attribute

/-- The problems of a value that is given and not null. -/
def valueProblems (a : Attribute) (name : String) (value : Value) : List Problem :=
  if a.computed && !a.required then [.computed name]
  else
    match a.type.check value with
    | .error e => [.wrongType e]
    | .ok () => (Validator.rejections a.validators value).map .rejected

/-- The problems of an attribute; null counts as not given. -/
def problems (a : Attribute) (name : String) : Option Value → List Problem
  | none | some .null =>
    if a.required && a.defaultValue.isNone then [.missing name] else []
  | some value => a.valueProblems name value

end Attribute

def attributeFindings (attributes : Dictionary Attribute) (config : Config) : List Finding :=
  attributes.flatMap (fun (name, a) =>
    (a.problems name (config.get? name)).map (fun p => ⟨[.key name], p⟩))

/-- The findings in one element of a block, seen from the element; `nested` finds those in its own
blocks. -/
def elementFindings (attributes : Dictionary Attribute) (blocks : Dictionary Block)
    (validators : List Validator) (nested : Config → List Finding) : Value → List Finding
  | .map entries =>
    let inner := unknownFindings attributes blocks entries
      ++ attributeFindings attributes entries ++ nested entries
    if inner.isEmpty then
      (Validator.rejections validators (.map entries)).map (fun m => ⟨[], .rejectedBlock m⟩)
    else inner
  | item => [⟨[], .notMap item.kind⟩]

mutual

/-- The findings in what a configuration gives for one block, seen from the block. -/
def blockFindings (name : String) : Block → Option Value → List Finding
  | ⟨_, attributes, blocks, computed, _, validators⟩, value =>
    match value with
    | none | some .null => []
    | some (.list items) =>
      if computed && !items.isEmpty then [⟨[], .computed name⟩]
      else items.zipIdx.flatMap (fun (item, i) =>
        (elementFindings attributes blocks validators
          (fun entries => blocksFindings blocks entries) item).map (Finding.under (.index i)))
    | some other => [⟨[], .notList other.kind⟩]
termination_by structural block => block

/-- The findings in what a configuration gives for blocks. -/
def blocksFindings : List (String × Block) → Config → List Finding
  | [], _ => []
  | (name, block) :: rest, config =>
    (blockFindings name block (config.get? name)).map (Finding.under (.key name))
      ++ blocksFindings rest config
termination_by structural blocks => blocks

end

/-- All findings in the contents of a configuration or of a block element. -/
def contentFindings (attributes : Dictionary Attribute) (blocks : Dictionary Block)
    (config : Config) : List Finding :=
  unknownFindings attributes blocks config ++ attributeFindings attributes config
    ++ blocksFindings blocks config

namespace Schema

def findings (schema : Schema) (config : Config) : List Finding :=
  contentFindings schema.attributes schema.blocks config

def validate (schema : Schema) (config : Config) : Diagnostics :=
  (schema.findings config).map Finding.toDiagnostic

end Schema

end CloudInventory
