import CloudInventory.Record.Basic
import CloudInventory.Source.Basic

/-!
Virtual private networks.
-/
namespace CloudInventory

structure Vpc where
  id : Int64
  label : String
  description : String
  region : String
  created : String
  updated : Option String
  deriving DecidableEq, Repr

open Catalog (remote here)

namespace Vpc

def reader : Reader Vpc :=
  RecordReader.of mk
    |>.required "id" .whole
    |>.required "label" .text
    |>.defaulted "description" .text ""
    |>.required "region" .text
    |>.required "created" .text
    |>.optional "updated" .text
    |>.reader "Vpc"

def catalog : Catalog Vpc := .ofList [
  remote "id" .int (fun v => .int v.id),
  remote "label" .string (fun v => .string v.label),
  remote "description" .string (fun v => .string v.description),
  remote "region" .string (fun v => .string v.region),
  here "created" .string (fun v => .string v.created),
  here "updated" .string (fun v => .ofOption .string v.updated)]

/-- What a result holds of a network. -/
def row (v : Vpc) : Value := .object [
  ("id", .int v.id),
  ("label", .string v.label),
  ("description", .string v.description),
  ("region", .string v.region),
  ("created", .string v.created),
  ("updated", .ofOption .string v.updated)]

def block : Block := .result [
    ("id", .int),
    ("label", .string),
    ("description", .string),
    ("region", .string),
    ("created", .string),
    ("updated", .string)] []

end Vpc

def Source.vpcs : Source Vpc where
  name := "linode_vpcs"
  description := "Lists the VPCs on the account."
  endpoint := "vpcs"
  reader := Vpc.reader
  catalog := Vpc.catalog
  results := "vpcs"
  row := Vpc.row
  block := Vpc.block

end CloudInventory
