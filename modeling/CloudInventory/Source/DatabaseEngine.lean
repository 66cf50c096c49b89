import CloudInventory.Record.Basic
import CloudInventory.Source.Basic

/-!
The versions of database engines that can be run.
-/
namespace CloudInventory

structure DatabaseEngine where
  id : String
  engine : String
  version : String
  deriving DecidableEq, Repr

open Catalog (remote here)

namespace DatabaseEngine

def reader : Reader DatabaseEngine :=
  RecordReader.of mk
    |>.required "id" .text
    |>.required "engine" .text
    |>.required "version" .text
    |>.reader "DatabaseEngine"

def catalog : Catalog DatabaseEngine := .ofList [
  remote "engine" .string (fun e => .string e.engine),
  remote "version" .string (fun e => .string e.version),
  here "id" .string (fun e => .string e.id)]

/-- What a result holds of an engine. -/
def row (e : DatabaseEngine) : Value := .object [
  ("id", .string e.id),
  ("engine", .string e.engine),
  ("version", .string e.version)]

def block : Block := .result [
    ("id", .string),
    ("engine", .string),
    ("version", .string)] []

end DatabaseEngine

/-- The engines of managed databases, the most recent of which has the highest version. -/
def Source.databaseEngines : Source DatabaseEngine where
  name := "linode_database_engines"
  description := "Lists the engines and versions available for Managed Databases."
  endpoint := "databases/engines"
  reader := DatabaseEngine.reader
  catalog := DatabaseEngine.catalog
  results := "engines"
  row := DatabaseEngine.row
  block := DatabaseEngine.block
  latestKey := some ⟨"version", .version, fun e => .string e.version⟩

end CloudInventory
