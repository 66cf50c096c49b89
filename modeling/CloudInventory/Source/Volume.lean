import CloudInventory.Record.Basic
import CloudInventory.Source.Basic

/-!
Volumes of block storage.
-/
namespace CloudInventory

structure Volume where
  id : Int64
  label : String
  region : String
  size : Int64
  status : String
  linodeId : Option Int64
  filesystemPath : String
  encryption : Option String
  tags : List String
  created : String
  updated : Option String
  deriving DecidableEq, Repr

open Catalog (remote here)

namespace Volume

def reader : Reader Volume :=
  RecordReader.of mk
    |>.required "id" .whole
    |>.required "label" .text
    |>.required "region" .text
    |>.required "size" .whole
    |>.required "status" .text
    |>.optional "linode_id" .whole
    |>.defaulted "filesystem_path" .text ""
    |>.optional "encryption" .text
    |>.defaulted "tags" (.list .text) []
    |>.required "created" .text
    |>.optional "updated" .text
    |>.reader "Volume"

def catalog : Catalog Volume := .ofList [
  remote "label" .string (fun v => .string v.label),
  remote "tags" .string (fun v => .texts v.tags),
  here "id" .int (fun v => .int v.id),
  here "region" .string (fun v => .string v.region),
  here "size" .int (fun v => .int v.size),
  here "status" .string (fun v => .string v.status),
  here "linode_id" .int (fun v => .ofOption .int v.linodeId),
  here "filesystem_path" .string (fun v => .string v.filesystemPath),
  here "encryption" .string (fun v => .ofOption .string v.encryption),
  here "created" .string (fun v => .string v.created),
  here "updated" .string (fun v => .ofOption .string v.updated)]

/-- What a result holds of a volume. -/
def row (v : Volume) : Value := .object [
  ("id", .int v.id),
  ("label", .string v.label),
  ("region", .string v.region),
  ("size", .int v.size),
  ("status", .string v.status),
  ("linode_id", .ofOption .int v.linodeId),
  ("filesystem_path", .string v.filesystemPath),
  ("encryption", .ofOption .string v.encryption),
  ("tags", .texts v.tags),
  ("created", .string v.created),
  ("updated", .ofOption .string v.updated)]

def block : Block := .result [
    ("id", .int),
    ("label", .string),
    ("region", .string),
    ("size", .int),
    ("status", .string),
    ("linode_id", .int),
    ("filesystem_path", .string),
    ("encryption", .string),
    ("tags", .set .string),
    ("created", .string),
    ("updated", .string)] []

end Volume

def Source.volumes : Source Volume where
  name := "linode_volumes"
  description := "Lists Block Storage volumes on the account."
  endpoint := "volumes"
  reader := Volume.reader
  catalog := Volume.catalog
  results := "volumes"
  row := Volume.row
  block := Volume.block

end CloudInventory
