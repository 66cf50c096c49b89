import CloudInventory.Record.Basic
import CloudInventory.Source.Basic

/-!
The plans by which virtual machines are sold.
-/
namespace CloudInventory

structure Price where
  hourly : Binary64
  monthly : Binary64
  deriving DecidableEq, Repr

/-- What keeping backups costs in addition. -/
structure BackupsAddon where
  price : Price
  deriving DecidableEq, Repr

structure Addons where
  backups : BackupsAddon
  deriving DecidableEq, Repr

structure InstanceType where
  id : String
  label : String
  planClass : String
  disk : Int64
  memory : Int64
  vcpus : Int64
  gpus : Int64
  networkOut : Int64
  transfer : Int64
  successor : Option String
  price : Price
  addons : Addons
  deriving DecidableEq, Repr

open Catalog (remote here)

namespace Price

def zero : Price := ⟨.zero, .zero⟩

def reader : Reader Price :=
  RecordReader.of mk
    |>.defaulted "hourly" .real .zero
    |>.defaulted "monthly" .real .zero
    |>.reader "Price"

/-- What a result holds of a price. -/
def row (p : Price) : Value := .object [
  ("hourly", .float p.hourly),
  ("monthly", .float p.monthly)]

def block : Block := .result [
    ("hourly", .float),
    ("monthly", .float)] []

end Price

namespace BackupsAddon

def reader : Reader BackupsAddon :=
  RecordReader.of mk
    |>.defaulted "price" Price.reader .zero
    |>.reader "BackupsAddon"

def row (b : BackupsAddon) : Value := .object [("price", .list [b.price.row])]

def block : Block := .result [] [("price", Price.block)]

end BackupsAddon

namespace Addons

def reader : Reader Addons :=
  RecordReader.of mk
    |>.defaulted "backups" BackupsAddon.reader ⟨.zero⟩
    |>.reader "Addons"

def row (a : Addons) : Value := .object [("backups", .list [a.backups.row])]

def block : Block := .result [] [("backups", BackupsAddon.block)]

end Addons

namespace InstanceType

def reader : Reader InstanceType :=
  RecordReader.of mk
    |>.required "id" .text
    |>.required "label" .text
    |>.required "class" .text
    |>.required "disk" .whole
    |>.required "memory" .whole
    |>.required "vcpus" .whole
    |>.defaulted "gpus" .whole 0
    |>.defaulted "network_out" .whole 0
    |>.defaulted "transfer" .whole 0
    |>.optional "successor" .text
    |>.defaulted "price" Price.reader .zero
    |>.defaulted "addons" Addons.reader ⟨⟨.zero⟩⟩
    |>.reader "InstanceType"

def catalog : Catalog InstanceType := .ofList [
  remote "class" .string (fun t => .string t.planClass),
  remote "disk" .int (fun t => .int t.disk),
  remote "gpus" .int (fun t => .int t.gpus),
  remote "label" .string (fun t => .string t.label),
  remote "memory" .int (fun t => .int t.memory),
  remote "network_out" .int (fun t => .int t.networkOut),
  remote "transfer" .int (fun t => .int t.transfer),
  remote "vcpus" .int (fun t => .int t.vcpus),
  here "id" .string (fun t => .string t.id),
  here "successor" .string (fun t => .ofOption .string t.successor)]

/-- What a result holds of a plan. -/
def row (t : InstanceType) : Value := .object [
  ("id", .string t.id),
  ("label", .string t.label),
  ("class", .string t.planClass),
  ("disk", .int t.disk),
  ("memory", .int t.memory),
  ("vcpus", .int t.vcpus),
  ("gpus", .int t.gpus),
  ("network_out", .int t.networkOut),
  ("transfer", .int t.transfer),
  ("successor", .ofOption .string t.successor),
  ("price", .list [t.price.row]),
  ("addons", .list [t.addons.row])]

def block : Block := .result [
    ("id", .string),
    ("label", .string),
    ("class", .string),
    ("disk", .int),
    ("memory", .int),
    ("vcpus", .int),
    ("gpus", .int),
    ("network_out", .int),
    ("transfer", .int),
    ("successor", .string)] [
    ("price", Price.block),
    ("addons", Addons.block)]

end InstanceType

def Source.instanceTypes : Source InstanceType where
  name := "linode_instance_types"
  description := "Lists the Linode plans available for deployment."
  endpoint := "linode/types"
  reader := InstanceType.reader
  catalog := InstanceType.catalog
  results := "types"
  row := InstanceType.row
  block := InstanceType.block

end CloudInventory
