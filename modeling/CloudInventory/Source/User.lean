import CloudInventory.Record.Basic
import CloudInventory.Source.Basic

/-!
The users of an account.
-/
namespace CloudInventory

structure User where
  username : String
  email : String
  restricted : Bool
  sshKeys : List String
  tfaEnabled : Bool
  userType : String
  passwordCreated : Option String
  verifiedPhoneNumber : Option String
  deriving DecidableEq, Repr

open Catalog (remote here)

namespace User

def reader : Reader User :=
  RecordReader.of mk
    |>.required "username" .text
    |>.required "email" .text
    |>.defaulted "restricted" .flag false
    |>.defaulted "ssh_keys" (.list .text) []
    |>.defaulted "tfa_enabled" .flag false
    |>.defaulted "user_type" .text ""
    |>.optional "password_created" .text
    |>.optional "verified_phone_number" .text
    |>.reader "User"

def catalog : Catalog User := .ofList [
  remote "username" .string (fun u => .string u.username),
  remote "email" .string (fun u => .string u.email),
  remote "restricted" .bool (fun u => .bool u.restricted),
  here "ssh_keys" .string (fun u => .texts u.sshKeys),
  here "tfa_enabled" .bool (fun u => .bool u.tfaEnabled),
  here "user_type" .string (fun u => .string u.userType),
  here "password_created" .string (fun u => .ofOption .string u.passwordCreated),
  here "verified_phone_number" .string (fun u => .ofOption .string u.verifiedPhoneNumber)]

/-- What a result holds of a user. -/
def row (u : User) : Value := .object [
  ("username", .string u.username),
  ("email", .string u.email),
  ("restricted", .bool u.restricted),
  ("ssh_keys", .texts u.sshKeys),
  ("tfa_enabled", .bool u.tfaEnabled),
  ("user_type", .string u.userType),
  ("password_created", .ofOption .string u.passwordCreated),
  ("verified_phone_number", .ofOption .string u.verifiedPhoneNumber)]

def block : Block := .result [
    ("username", .string),
    ("email", .string),
    ("restricted", .bool),
    ("ssh_keys", .list .string),
    ("tfa_enabled", .bool),
    ("user_type", .string),
    ("password_created", .string),
    ("verified_phone_number", .string)] []

end User

def Source.users : Source User where
  name := "linode_users"
  description := "Lists the users on the account."
  endpoint := "account/users"
  reader := User.reader
  catalog := User.catalog
  results := "users"
  row := User.row
  block := User.block

end CloudInventory
