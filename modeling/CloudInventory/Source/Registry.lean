import CloudInventory.Source.Database
import CloudInventory.Source.DatabaseEngine
import CloudInventory.Source.Firewall
import CloudInventory.Source.Image
import CloudInventory.Source.InstanceType
import CloudInventory.Source.Region
import CloudInventory.Source.StackScript
import CloudInventory.Source.User
import CloudInventory.Source.Volume
import CloudInventory.Source.Vpc

/-!
The registry of data sources.
-/
namespace CloudInventory

/-- The data sources there are. -/
inductive DataSource where
  | databaseEngines | databases | firewalls | images | instanceTypes
  | regions | stackScripts | users | volumes | vpcs
  deriving DecidableEq, Repr

namespace DataSource

/-- What the entities of a data source are. -/
def Entity : DataSource → Type
  | databaseEngines => DatabaseEngine
  | databases => Database
  | firewalls => Firewall
  | images => Image
  | instanceTypes => InstanceType
  | regions => Region
  | stackScripts => StackScript
  | users => User
  | volumes => Volume
  | vpcs => Vpc

def source : (d : DataSource) → Source d.Entity
  | databaseEngines => .databaseEngines
  | databases => .databases
  | firewalls => .firewalls
  | images => .images
  | instanceTypes => .instanceTypes
  | regions => .regions
  | stackScripts => .stackScripts
  | users => .users
  | volumes => .volumes
  | vpcs => .vpcs

def name (d : DataSource) : String := d.source.name

def schema (d : DataSource) : Schema := d.source.schema

def validate (d : DataSource) (config : Config) : Diagnostics := d.source.validate config

def plan (d : DataSource) (config : Config) : Except Diagnostics Plan := d.source.plan config

def read (d : DataSource) (pageSize : UInt32) (id : ResourceId) (config : Config) :
    Interaction Request Reply (Except Diagnostics Snapshot) :=
  d.source.read pageSize id config

/-- All data sources, in the order of their registration. -/
def all : List DataSource := [
  databaseEngines, databases, firewalls, images, instanceTypes,
  regions, stackScripts, users, volumes, vpcs]

/-- The names of all data sources, in order. -/
def names : List String := sortTexts (all.map name)

/-- The data source of a name, or the error that there is none. -/
def named (name : String) : Except ProviderError DataSource :=
  match all.find? (fun d => d.name = name) with
  | some d => .ok d
  | none => .error { message :=
      "Unknown data source '" ++ name ++ "'. Known data sources: " ++ ", ".intercalate names }

end DataSource

/-- The name of the provider of all data sources. -/
def providerName : String := "linode"

end CloudInventory
