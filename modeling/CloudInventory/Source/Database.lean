import CloudInventory.Record.Basic
import CloudInventory.Source.Basic

/-!
Managed databases. The vendor filters them by no field.
-/
namespace CloudInventory

/-- The host names under which a database is reached. -/
structure Hosts where
  primary : Option String
  secondary : Option String
  deriving DecidableEq, Repr

structure Database where
  id : Int64
  label : String
  engine : String
  version : String
  region : String
  status : String
  nodeType : String
  clusterSize : Int64
  encrypted : Bool
  sslConnection : Bool
  replicationType : Option String
  allowList : List String
  hosts : Hosts
  instanceUri : String
  created : String
  updated : Option String
  deriving DecidableEq, Repr

open Catalog (here)

def Hosts.reader : Reader Hosts :=
  RecordReader.of mk
    |>.optional "primary" .text
    |>.optional "secondary" .text
    |>.reader "Hosts"

namespace Database

def reader : Reader Database :=
  RecordReader.of mk
    |>.required "id" .whole
    |>.required "label" .text
    |>.required "engine" .text
    |>.required "version" .text
    |>.required "region" .text
    |>.required "status" .text
    |>.required "type" .text
    |>.defaulted "cluster_size" .whole 0
    |>.defaulted "encrypted" .flag false
    |>.defaulted "ssl_connection" .flag false
    |>.optional "replication_type" .text
    |>.defaulted "allow_list" (.list .text) []
    |>.defaulted "hosts" Hosts.reader ⟨none, none⟩
    |>.defaulted "instance_uri" .text ""
    |>.required "created" .text
    |>.optional "updated" .text
    |>.reader "Database"

def catalog : Catalog Database := .ofList [
  here "engine" .string (fun d => .string d.engine),
  here "region" .string (fun d => .string d.region),
  here "status" .string (fun d => .string d.status),
  here "type" .string (fun d => .string d.nodeType),
  here "version" .string (fun d => .string d.version),
  here "allow_list" .string (fun d => .texts d.allowList),
  here "cluster_size" .int (fun d => .int d.clusterSize),
  here "created" .string (fun d => .string d.created),
  here "encrypted" .bool (fun d => .bool d.encrypted),
  here "host_primary" .string (fun d => .ofOption .string d.hosts.primary),
  here "host_secondary" .string (fun d => .ofOption .string d.hosts.secondary),
  here "id" .int (fun d => .int d.id),
  here "instance_uri" .string (fun d => .string d.instanceUri),
  here "label" .string (fun d => .string d.label),
  here "updated" .string (fun d => .ofOption .string d.updated)]

/-- What a result holds of a database. -/
def row (d : Database) : Value := .object [
  ("id", .int d.id),
  ("label", .string d.label),
  ("engine", .string d.engine),
  ("version", .string d.version),
  ("region", .string d.region),
  ("status", .string d.status),
  ("type", .string d.nodeType),
  ("cluster_size", .int d.clusterSize),
  ("encrypted", .bool d.encrypted),
  ("ssl_connection", .bool d.sslConnection),
  ("replication_type", .ofOption .string d.replicationType),
  ("allow_list", .texts d.allowList),
  ("host_primary", .ofOption .string d.hosts.primary),
  ("host_secondary", .ofOption .string d.hosts.secondary),
  ("instance_uri", .string d.instanceUri),
  ("created", .string d.created),
  ("updated", .ofOption .string d.updated)]

def block : Block := .result [
    ("id", .int),
    ("label", .string),
    ("engine", .string),
    ("version", .string),
    ("region", .string),
    ("status", .string),
    ("type", .string),
    ("cluster_size", .int),
    ("encrypted", .bool),
    ("ssl_connection", .bool),
    ("replication_type", .string),
    ("allow_list", .set .string),
    ("host_primary", .string),
    ("host_secondary", .string),
    ("instance_uri", .string),
    ("created", .string),
    ("updated", .string)] []

end Database

def Source.databases : Source Database where
  name := "linode_databases"
  description := "Lists Managed Database instances on the account."
  endpoint := "databases/instances"
  reader := Database.reader
  catalog := Database.catalog
  results := "databases"
  row := Database.row
  block := Database.block

end CloudInventory
