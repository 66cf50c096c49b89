import CloudInventory.Record.Basic
import CloudInventory.Source.Basic

/-!
Disk images, the vendor's and the account's own.
-/
namespace CloudInventory

structure Image where
  id : String
  label : String
  description : Option String
  created : String
  createdBy : Option String
  deprecated : Bool
  isPublic : Bool
  size : Int64
  status : String
  imageType : String
  vendor : Option String
  expiry : Option String
  capabilities : List String
  tags : List String
  deriving DecidableEq, Repr

open Catalog (remote here)

namespace Image

def reader : Reader Image :=
  RecordReader.of mk
    |>.required "id" .text
    |>.required "label" .text
    |>.optional "description" .text
    |>.required "created" .text
    |>.optional "created_by" .text
    |>.defaulted "deprecated" .flag false
    |>.defaulted "is_public" .flag false
    |>.defaulted "size" .whole 0
    |>.defaulted "status" .text ""
    |>.defaulted "type" .text ""
    |>.optional "vendor" .text
    |>.optional "expiry" .text
    |>.defaulted "capabilities" (.list .text) []
    |>.defaulted "tags" (.list .text) []
    |>.reader "Image"

def catalog : Catalog Image := .ofList [
  remote "deprecated" .bool (fun i => .bool i.deprecated),
  remote "is_public" .bool (fun i => .bool i.isPublic),
  remote "label" .string (fun i => .string i.label),
  remote "size" .int (fun i => .int i.size),
  remote "vendor" .string (fun i => .ofOption .string i.vendor),
  here "capabilities" .string (fun i => .texts i.capabilities),
  here "created" .string (fun i => .string i.created),
  here "created_by" .string (fun i => .ofOption .string i.createdBy),
  here "description" .string (fun i => .ofOption .string i.description),
  here "id" .string (fun i => .string i.id),
  here "status" .string (fun i => .string i.status),
  here "tags" .string (fun i => .texts i.tags),
  here "type" .string (fun i => .string i.imageType)]

/-- What a result holds of an image. -/
def row (i : Image) : Value := .object [
  ("id", .string i.id),
  ("label", .string i.label),
  ("description", .ofOption .string i.description),
  ("created", .string i.created),
  ("created_by", .ofOption .string i.createdBy),
  ("deprecated", .bool i.deprecated),
  ("is_public", .bool i.isPublic),
  ("size", .int i.size),
  ("status", .string i.status),
  ("type", .string i.imageType),
  ("vendor", .ofOption .string i.vendor),
  ("expiry", .ofOption .string i.expiry),
  ("capabilities", .texts i.capabilities),
  ("tags", .texts i.tags)]

def block : Block := .result [
    ("id", .string),
    ("label", .string),
    ("description", .string),
    ("created", .string),
    ("created_by", .string),
    ("deprecated", .bool),
    ("is_public", .bool),
    ("size", .int),
    ("status", .string),
    ("type", .string),
    ("vendor", .string),
    ("expiry", .string),
    ("capabilities", .list .string),
    ("tags", .list .string)] []

end Image

/-- The images, the most recent of which was created last. -/
def Source.images : Source Image where
  name := "linode_images"
  description := "Lists the images available to the account."
  endpoint := "images"
  reader := Image.reader
  catalog := Image.catalog
  results := "images"
  row := Image.row
  block := Image.block
  latestKey := some ⟨"created", .timestamp, fun i => .string i.created⟩

end CloudInventory
