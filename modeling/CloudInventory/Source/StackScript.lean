import CloudInventory.Record.Basic
import CloudInventory.Source.Basic

/-!
Scripts that set up a machine when it is deployed.
-/
namespace CloudInventory

/-- A variable that a script asks for when it is deployed. -/
structure UserDefinedField where
  label : String
  name : String
  sample : Option String
  oneOf : Option String
  manyOf : Option String
  defaultValue : Option String
  deriving DecidableEq, Repr

structure StackScript where
  id : Int64
  label : String
  script : String
  description : String
  revisionNote : String
  isPublic : Bool
  mine : Bool
  images : List String
  deploymentsActive : Int64
  deploymentsTotal : Int64
  userGravatarId : String
  username : String
  created : String
  updated : Option String
  userDefinedFields : List UserDefinedField
  deriving DecidableEq, Repr

open Catalog (remote here)

namespace UserDefinedField

def reader : Reader UserDefinedField :=
  RecordReader.of mk
    |>.required "label" .text
    |>.required "name" .text
    |>.optional "example" .text
    |>.optional "oneOf" .text
    |>.optional "manyOf" .text
    |>.optional "default" .text
    |>.reader "UserDefinedField"

/-- What a result holds of a variable. -/
def row (u : UserDefinedField) : Value := .object [
  ("label", .string u.label),
  ("name", .string u.name),
  ("example", .ofOption .string u.sample),
  ("one_of", .ofOption .string u.oneOf),
  ("many_of", .ofOption .string u.manyOf),
  ("default", .ofOption .string u.defaultValue)]

def block : Block := .result [
    ("label", .string),
    ("name", .string),
    ("example", .string),
    ("one_of", .string),
    ("many_of", .string),
    ("default", .string)] []

end UserDefinedField

namespace StackScript

def reader : Reader StackScript :=
  RecordReader.of mk
    |>.required "id" .whole
    |>.required "label" .text
    |>.defaulted "script" .text ""
    |>.defaulted "description" .text ""
    |>.defaulted "rev_note" .text ""
    |>.defaulted "is_public" .flag false
    |>.defaulted "mine" .flag false
    |>.defaulted "images" (.list .text) []
    |>.defaulted "deployments_active" .whole 0
    |>.defaulted "deployments_total" .whole 0
    |>.defaulted "user_gravatar_id" .text ""
    |>.defaulted "username" .text ""
    |>.required "created" .text
    |>.optional "updated" .text
    |>.defaulted "user_defined_fields" (.list UserDefinedField.reader) []
    |>.reader "StackScript"

def catalog : Catalog StackScript := .ofList [
  remote "deployments_total" .int (fun s => .int s.deploymentsTotal),
  remote "description" .string (fun s => .string s.description),
  remote "is_public" .bool (fun s => .bool s.isPublic),
  remote "label" .string (fun s => .string s.label),
  here "rev_note" .string (fun s => .string s.revisionNote),
  here "mine" .bool (fun s => .bool s.mine),
  here "deployments_active" .int (fun s => .int s.deploymentsActive),
  here "images" .string (fun s => .texts s.images),
  here "username" .string (fun s => .string s.username)]

/-- What a result holds of a script. -/
def row (s : StackScript) : Value := .object [
  ("id", .int s.id),
  ("label", .string s.label),
  ("script", .string s.script),
  ("description", .string s.description),
  ("rev_note", .string s.revisionNote),
  ("is_public", .bool s.isPublic),
  ("images", .texts s.images),
  ("deployments_active", .int s.deploymentsActive),
  ("deployments_total", .int s.deploymentsTotal),
  ("user_gravatar_id", .string s.userGravatarId),
  ("username", .string s.username),
  ("created", .string s.created),
  ("updated", .ofOption .string s.updated),
  ("user_defined_fields", .list (s.userDefinedFields.map UserDefinedField.row))]

def block : Block := .result [
    ("id", .int),
    ("label", .string),
    ("script", .string),
    ("description", .string),
    ("rev_note", .string),
    ("is_public", .bool),
    ("images", .list .string),
    ("deployments_active", .int),
    ("deployments_total", .int),
    ("user_gravatar_id", .string),
    ("username", .string),
    ("created", .string),
    ("updated", .string)] [
    ("user_defined_fields", UserDefinedField.block)]

end StackScript

/-- The scripts, the most recent of which was created last. -/
def Source.stackScripts : Source StackScript where
  name := "linode_stackscripts"
  description := "Lists StackScripts visible to the account."
  endpoint := "linode/stackscripts"
  reader := StackScript.reader
  catalog := StackScript.catalog
  results := "stackscripts"
  row := StackScript.row
  block := StackScript.block
  latestKey := some ⟨"created", .timestamp, fun s => .string s.created⟩

end CloudInventory
