import CloudInventory.Record.Basic
import CloudInventory.Source.Basic

/-!
Firewalls, with their rules and the devices that they guard.
-/
namespace CloudInventory

/-- The addresses that a rule is about. -/
structure Addresses where
  ipv4 : List String
  ipv6 : List String
  deriving DecidableEq, Repr

structure FirewallRule where
  label : Option String
  action : String
  protocol : String
  ports : Option String
  addresses : Addresses
  deriving DecidableEq, Repr

/-- The rules in both directions, and what becomes of traffic that no rule is about. -/
structure RuleSet where
  inbound : List FirewallRule
  inboundPolicy : String
  outbound : List FirewallRule
  outboundPolicy : String
  deriving DecidableEq, Repr

/-- What a firewall guards. -/
structure Device where
  id : Int64
  kind : String
  label : Option String
  url : Option String
  deriving DecidableEq, Repr

structure Firewall where
  id : Int64
  label : String
  status : String
  tags : List String
  rules : RuleSet
  devices : List Device
  created : String
  updated : Option String
  deriving DecidableEq, Repr

open Catalog (remote here)

def Addresses.reader : Reader Addresses :=
  RecordReader.of mk
    |>.defaulted "ipv4" (.list .text) []
    |>.defaulted "ipv6" (.list .text) []
    |>.reader "Addresses"

namespace FirewallRule

def reader : Reader FirewallRule :=
  RecordReader.of mk
    |>.optional "label" .text
    |>.required "action" .text
    |>.required "protocol" .text
    |>.optional "ports" .text
    |>.defaulted "addresses" Addresses.reader ⟨[], []⟩
    |>.reader "Rule"

/-- What a result holds of a rule. -/
def row (r : FirewallRule) : Value := .object [
  ("label", .ofOption .string r.label),
  ("action", .string r.action),
  ("protocol", .string r.protocol),
  ("ports", .ofOption .string r.ports),
  ("ipv4", .texts r.addresses.ipv4),
  ("ipv6", .texts r.addresses.ipv6)]

def block : Block := .result [
    ("label", .string),
    ("action", .string),
    ("protocol", .string),
    ("ports", .string),
    ("ipv4", .list .string),
    ("ipv6", .list .string)] []

end FirewallRule

def RuleSet.reader : Reader RuleSet :=
  RecordReader.of mk
    |>.defaulted "inbound" (.list FirewallRule.reader) []
    |>.defaulted "inbound_policy" .text ""
    |>.defaulted "outbound" (.list FirewallRule.reader) []
    |>.defaulted "outbound_policy" .text ""
    |>.reader "RuleSet"

namespace Device

def reader : Reader Device :=
  RecordReader.of mk
    |>.required "id" .whole
    |>.required "type" .text
    |>.optional "label" .text
    |>.optional "url" .text
    |>.reader "Device"

/-- What a result holds of a device. -/
def row (d : Device) : Value := .object [
  ("entity_id", .int d.id),
  ("type", .string d.kind),
  ("label", .ofOption .string d.label),
  ("url", .ofOption .string d.url)]

def block : Block := .result [
    ("entity_id", .int),
    ("type", .string),
    ("label", .string),
    ("url", .string)] []

end Device

namespace Firewall

def reader : Reader Firewall :=
  RecordReader.of mk
    |>.required "id" .whole
    |>.required "label" .text
    |>.required "status" .text
    |>.defaulted "tags" (.list .text) []
    |>.defaulted "rules" RuleSet.reader ⟨[], "", [], ""⟩
    |>.defaulted "entities" (.list Device.reader) []
    |>.required "created" .text
    |>.optional "updated" .text
    |>.reader "Firewall"

/-- The identifiers of the virtual machines among the devices. -/
def linodes (f : Firewall) : List Int64 :=
  (f.devices.filter (fun d => d.kind = "linode")).map Device.id

def catalog : Catalog Firewall := .ofList [
  remote "id" .int (fun f => .int f.id),
  remote "label" .string (fun f => .string f.label),
  remote "tags" .string (fun f => .texts f.tags),
  here "status" .string (fun f => .string f.status),
  here "created" .string (fun f => .string f.created),
  here "updated" .string (fun f => .ofOption .string f.updated)]

/-- What a result holds of a firewall. -/
def row (f : Firewall) : Value := .object [
  ("id", .int f.id),
  ("label", .string f.label),
  ("tags", .texts f.tags),
  ("disabled", .bool (f.status = "disabled")),
  ("status", .string f.status),
  ("inbound_policy", .string f.rules.inboundPolicy),
  ("outbound_policy", .string f.rules.outboundPolicy),
  ("linodes", .wholes f.linodes),
  ("created", .string f.created),
  ("updated", .ofOption .string f.updated),
  ("inbound", .list (f.rules.inbound.map FirewallRule.row)),
  ("outbound", .list (f.rules.outbound.map FirewallRule.row)),
  ("devices", .list (f.devices.map Device.row))]

def block : Block := .result [
    ("id", .int),
    ("label", .string),
    ("tags", .set .string),
    ("disabled", .bool),
    ("status", .string),
    ("inbound_policy", .string),
    ("outbound_policy", .string),
    ("linodes", .set .int),
    ("created", .string),
    ("updated", .string)] [
    ("inbound", FirewallRule.block),
    ("outbound", FirewallRule.block),
    ("devices", Device.block)]

end Firewall

def Source.firewalls : Source Firewall where
  name := "linode_firewalls"
  description := "Lists Cloud Firewalls on the account."
  endpoint := "networking/firewalls"
  reader := Firewall.reader
  catalog := Firewall.catalog
  results := "firewalls"
  row := Firewall.row
  block := Firewall.block

end CloudInventory
