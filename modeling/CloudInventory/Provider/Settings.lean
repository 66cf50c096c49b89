import CloudInventory.Api.Page
import CloudInventory.Provider.Error
import CloudInventory.Schema.Basic
import CloudInventory.Text.Blank
import CloudInventory.Text.Parts

/-!
Settings of the provider: how the vendor's live service is reached. A setting given in the
configuration wins over the environment variable of the same purpose, and that over the default. A
null setting and an empty variable count as not given. The token is never shown.
-/
namespace CloudInventory

structure Settings where
  /-- The access token, which only live reads need. -/
  token : Option String
  url : String
  apiVersion : String
  pageSize : UInt32
  userAgentPrefix : Option String
  deriving DecidableEq

inductive SettingsError where
  | missingToken
  | invalidUrl (url : String)
  | invalidPageSize (size : Int64)
  /-- A setting of the wrong kind. -/
  | invalidAttribute (name expected : String)
  deriving DecidableEq, Repr

def SettingsError.message : SettingsError → String
  | .missingToken => "Missing API token: set the token attribute or LINODE_TOKEN"
  | .invalidUrl url => "Invalid url '" ++ url ++ "': must start with http:// or https://"
  | .invalidPageSize size =>
    "Invalid page_size " ++ toString size.toInt ++ ": must be between 25 and 500"
  | .invalidAttribute name expected =>
    "Invalid attribute '" ++ name ++ "': expected " ++ expected

namespace Settings

def defaultUrl : String := "https://api.linode.com"

def defaultApiVersion : String := "v4"

/-- The page sizes that may be asked for, from the smallest to the largest. -/
def pageSizes : Int64 × Int64 := (.ofNat smallestPage, .ofNat largestPage)

/-- What an address starts with. -/
def schemes : List String := ["http://", "https://"]

/-- The settings when nothing is given. -/
def standard : Settings where
  token := none
  url := defaultUrl
  apiVersion := defaultApiVersion
  pageSize := .ofNat largestPage
  userAgentPrefix := none

/-- The text of a setting in the configuration. -/
def givenText (config : Config) (name : String) : Except SettingsError (Option String) :=
  match config.get? name with
  | none | some .null => .ok none
  | some (.string s) => .ok (some s)
  | some _ => .error (.invalidAttribute name "string")

/-- The whole number of a setting in the configuration. -/
def givenWhole (config : Config) (name : String) : Except SettingsError (Option Int64) :=
  match config.get? name with
  | none | some .null => .ok none
  | some (.int n) => .ok (some n)
  | some _ => .error (.invalidAttribute name "int")

/-- The text of a setting in the configuration or else in the environment. -/
def lookup (config : Config) (environment : String → Option String) (name variableName : String) :
    Except SettingsError (Option String) := do
  match ← givenText config name with
  | some s => pure (some s)
  | none => pure ((environment variableName).filter (fun s => !s.isEmpty))

/-- The page size that is given, if it is one that the vendor serves. -/
def checkPageSize : Option Int64 → Except SettingsError UInt32
  | none => .ok standard.pageSize
  | some size =>
    if pageSizes.1 ≤ size ∧ size ≤ pageSizes.2 then .ok (.ofNat size.toInt.toNat)
    else .error (.invalidPageSize size)

/-- The settings that a configuration and an environment spell. -/
def ofConfig (config : Config) (environment : String → Option String) :
    Except SettingsError Settings := do
  let token ← lookup config environment "token" "LINODE_TOKEN"
  let url ← lookup config environment "url" "LINODE_URL"
  let apiVersion ← lookup config environment "api_version" "LINODE_API_VERSION"
  let userAgentPrefix ← lookup config environment "ua_prefix" "LINODE_UA_PREFIX"
  let pageSize ← checkPageSize (← givenWhole config "page_size")
  let url := url.getD defaultUrl
  if schemes.any (Text.startsWith url) then
    pure ⟨token, url, apiVersion.getD defaultApiVersion, pageSize, userAgentPrefix⟩
  else .error (.invalidUrl url)

/-- The address of the service: the address given and the version, joined by one slash. -/
def apiUrl (s : Settings) : String :=
  let isSlash (c : Char) : Bool := c = '/'
  String.ofList (Text.stripEndBy isSlash s.url.toList) ++ "/"
    ++ String.ofList (Text.stripBy isSlash s.apiVersion.toList)

/-- How the program calls itself before the vendor. -/
def userAgent (s : Settings) : String :=
  match s.userAgentPrefix with
  | some first => first ++ " linode-provider/0.1.0"
  | none => "linode-provider/0.1.0"

/-- How a text that may be absent is shown. -/
def optionListing : Option String → String
  | none => "None"
  | some s => "Some(" ++ Text.quoted s ++ ")"

/-- How settings are shown in a listing of parts; of the token only whether there is one. -/
def listing (s : Settings) : String :=
  "ProviderConfig \x7b token: " ++ optionListing (s.token.map (fun _ => "<redacted>"))
    ++ ", url: " ++ Text.quoted s.url ++ ", api_version: " ++ Text.quoted s.apiVersion
    ++ ", page_size: " ++ toString s.pageSize.toNat
    ++ ", ua_prefix: " ++ optionListing s.userAgentPrefix ++ " \x7d"

/-- The schema of the provider's configuration. -/
def schema : Schema where
  name := "linode"
  description := some "Linode API connection settings"
  attributes := Dictionary.ofPairs [
    ("token", {
      type := .string
      description := some "Personal access token. Falls back to LINODE_TOKEN." }),
    ("url", {
      type := .string, defaultValue := some (.string defaultUrl)
      description := some "API base URL. Falls back to LINODE_URL."
      validators := [.stringPrefix schemes] }),
    ("api_version", {
      type := .string, defaultValue := some (.string defaultApiVersion)
      description := some "API version. Falls back to LINODE_API_VERSION." }),
    ("page_size", {
      type := .int, defaultValue := some (.int pageSizes.2)
      description := some "Number of elements requested per page."
      validators := [.intBetween pageSizes.1 pageSizes.2] }),
    ("ua_prefix", {
      type := .string
      description := some "Prefix prepended to the User-Agent header." })]
  blocks := []

end Settings

/-- What it takes to talk to the live service. -/
structure Connection where
  baseUrl : String
  token : String
  userAgent : String
  pageSize : UInt32
  deriving DecidableEq

/-- The connection that settings describe; without a token there is none. -/
def Settings.connect (s : Settings) : Except ProviderError Connection :=
  match s.token with
  | some token => .ok ⟨s.apiUrl, token, s.userAgent, s.pageSize⟩
  | none => .error {
      message := "Failed to configure Linode client"
      cause := some SettingsError.missingToken.message }

end CloudInventory
