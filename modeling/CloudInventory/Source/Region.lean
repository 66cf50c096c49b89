import CloudInventory.Record.Basic
import CloudInventory.Source.Basic

/-!
The regions of the vendor's data centers.
-/
namespace CloudInventory

/-- The name servers of a region. -/
structure Resolvers where
  ipv4 : String
  ipv6 : String
  deriving DecidableEq, Repr

structure Region where
  id : String
  label : String
  country : String
  capabilities : List String
  status : String
  siteType : String
  resolvers : Resolvers
  deriving DecidableEq, Repr

open Catalog (remote here)

namespace Resolvers

def none : Resolvers := ⟨"", ""⟩

def reader : Reader Resolvers :=
  RecordReader.of mk
    |>.defaulted "ipv4" .text ""
    |>.defaulted "ipv6" .text ""
    |>.reader "Resolvers"

def row (r : Resolvers) : Value := .object [
  ("ipv4", .string r.ipv4),
  ("ipv6", .string r.ipv6)]

def block : Block := .result [
    ("ipv4", .string),
    ("ipv6", .string)] []

end Resolvers

namespace Region

def reader : Reader Region :=
  RecordReader.of mk
    |>.required "id" .text
    |>.required "label" .text
    |>.required "country" .text
    |>.defaulted "capabilities" (.list .text) []
    |>.required "status" .text
    |>.defaulted "site_type" .text ""
    |>.defaulted "resolvers" Resolvers.reader .none
    |>.reader "Region"

def catalog : Catalog Region := .ofList [
  remote "country" .string (fun r => .string r.country),
  remote "site_type" .string (fun r => .string r.siteType),
  remote "status" .string (fun r => .string r.status),
  here "capabilities" .string (fun r => .texts r.capabilities),
  here "id" .string (fun r => .string r.id),
  here "label" .string (fun r => .string r.label)]

/-- What a result holds of a region. -/
def row (r : Region) : Value := .object [
  ("id", .string r.id),
  ("label", .string r.label),
  ("country", .string r.country),
  ("capabilities", .texts r.capabilities),
  ("status", .string r.status),
  ("site_type", .string r.siteType),
  ("resolvers", .list [r.resolvers.row])]

def block : Block := .result [
    ("id", .string),
    ("label", .string),
    ("country", .string),
    ("capabilities", .set .string),
    ("status", .string),
    ("site_type", .string)] [
    ("resolvers", Resolvers.block)]

end Region

/-- The regions in which services are available. -/
def Source.regions : Source Region where
  name := "linode_regions"
  description := "Lists the regions Linode services are available in."
  endpoint := "regions"
  reader := Region.reader
  catalog := Region.catalog
  results := "regions"
  row := Region.row
  block := Region.block

end CloudInventory
