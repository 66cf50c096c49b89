import CloudInventory.Diagnostic
import CloudInventory.Filter.Entry
import CloudInventory.Filter.FieldValue
import CloudInventory.Pattern.Reader
import CloudInventory.Time.Timestamp

/-!
What can go wrong in a filtered read, from a malformed query to a cancelled read.
-/
namespace CloudInventory

/-- What is wrong with a query. -/
inductive Misuse where
  | filterNotList
  | entryNotObject
  | nameNotString
  | noValues
  | valueNotString
  | matchByNotString
  | unknownMatchBy (text : String)
  | orderNotString
  | unknownOrder (text : String)
  | orderByNotString
  | latestNotBool
  | unknownField (name : String) (known : List String)
  | unsupportedOrderBy (name : String) (known : List String)
  | stated (message : String)
  deriving DecidableEq, Repr

namespace Misuse

/-- A text that is none of the spellings of something. -/
def notAmong (text what : String) (spellings : List String) : String :=
  "\"" ++ text ++ "\" is not a valid " ++ what ++ ". Valid values: " ++ ", ".intercalate spellings

def message : Misuse → String
  | .filterNotList => "filter must be a list of blocks"
  | .entryNotObject => "filter entry must be an object"
  | .nameNotString => "filter entry requires a string name"
  | .noValues => "filter entry requires at least one value"
  | .valueNotString => "filter values must be strings"
  | .matchByNotString => "match_by must be a string"
  | .unknownMatchBy text => notAmong text "match_by" MatchBy.spellings
  | .orderNotString => "order must be a string"
  | .unknownOrder text => notAmong text "order" Order.spellings
  | .orderByNotString => "order_by must be a string"
  | .latestNotBool => "latest must be a boolean"
  | .unknownField name known =>
    "\"" ++ name ++ "\" is not a filterable field. Valid filters: " ++ ", ".intercalate known
  | .unsupportedOrderBy name known =>
    "\"" ++ name ++ "\" is an unsupported order_by field. Valid fields: "
      ++ ", ".intercalate known
  | .stated message => message

end Misuse

/-- Why the most recent element cannot be told. -/
inductive LatestFault where
  | timestamp (text : String) (fault : Time.Fault)
  | version (text : String)
  | notString (field : String) (value : FieldValue)
  | stated (message : String)

def LatestFault.message : LatestFault → String
  | .timestamp text fault => "invalid timestamp '" ++ text ++ "': " ++ fault.message
  | .version text => "invalid version '" ++ text ++ "'"
  | .notString field value => "field '" ++ field ++ "' is not a string: " ++ value.listing
  | .stated message => message

inductive FilterError where
  /-- The query is malformed, at a place of the configuration if that is known. -/
  | configuration (cause : Misuse) (path : Option Path)
  /-- The list could not be fetched, for the reason given. -/
  | list (reason : String)
  /-- A pattern is refused as a regular expression. -/
  | regex (pattern : String) (fault : Pattern.Fault)
  | latest (cause : LatestFault)
  | cancelled

namespace FilterError

/-- Puts a fault of the query at a place; other errors have none. -/
def placed (path : Path) : FilterError → FilterError
  | .configuration cause _ => .configuration cause (some path)
  | other => other

/-- What a message adds about a refused pattern. -/
def faultText : Pattern.Fault → String
  | .malformed => ""
  | .tooLarge =>
    ": Compiled regex exceeds size limit of " ++ toString Pattern.maxMemory ++ " bytes."

def message : FilterError → String
  | .configuration cause _ => cause.message
  | .list reason => "Failed to list resources: " ++ reason
  | .regex pattern fault => "Failed to compile regex '" ++ pattern ++ "'" ++ faultText fault
  | .latest cause => "Failed to select latest element: " ++ cause.message
  | .cancelled => "Read cancelled"

/-- The reason behind the error where it comes from elsewhere. -/
def source? : FilterError → Option String
  | .list reason => some reason
  | _ => none

def summary : FilterError → String
  | .configuration .. => "Invalid filter configuration"
  | .list _ => "Failed to list resources"
  | .regex .. => "Invalid regular expression"
  | .latest _ => "Failed to select latest element"
  | .cancelled => "Read cancelled"

def detail : FilterError → String
  | .configuration cause _ => cause.message
  | .list reason => reason
  | .regex pattern fault => message (.regex pattern fault)
  | .latest cause => cause.message
  | .cancelled => "cancellation was requested before the read completed"

def path? : FilterError → Option Path
  | .configuration _ path => path
  | _ => none

def toDiagnostic (e : FilterError) : Diagnostic :=
  .error e.summary e.detail e.path?

end FilterError

end CloudInventory
