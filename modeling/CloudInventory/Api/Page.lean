import CloudInventory.Api.Error
import CloudInventory.Interaction
import CloudInventory.Record.Reader

/-!
Pages: a list is fetched page by page, from the first to the last that the latest response tells of.
Before each page the walk looks for cancellation, and it ends with the first error.
-/
namespace CloudInventory

/-- The fewest elements that the vendor serves on a page when asked for so many. -/
def smallestPage : Nat := 25

/-- The most elements that the vendor serves on a page. -/
def largestPage : Nat := 500

/-- A request for one page of a list. -/
structure Request where
  endpoint : String
  page : UInt32
  pageSize : UInt32
  /-- The filter that the vendor evaluates, as text. -/
  filter : Option String
  deriving DecidableEq, Repr

structure Page where
  data : List Json
  page : UInt32
  /-- How many pages the list has. -/
  pages : UInt32
  /-- How many elements the list has. -/
  results : UInt32

abbrev Reply := Except ApiError Page

/-- A computation that asks for pages. -/
abbrev Listing (α : Type) := Interaction Request Reply (Except ApiError α)

namespace Listing

variable {α : Type}

/-- The elements of a page. -/
def elements (endpoint : String) (read : Reader α) (page : Page) : Except ApiError (List α) :=
  match Reader.items read page.data with
  | .ok entities => .ok entities
  | .error misfit => .error (.decode (.element endpoint misfit))

/-- The elements of the list from a page on. -/
def walkFrom (endpoint : String) (pageSize : UInt32) (filter : String) (read : Reader α)
    (page : UInt32) : Listing (List α) :=
  .poll (fun cancelled =>
    if cancelled then .done (.error .cancelled)
    else .ask ⟨endpoint, page, pageSize, some filter⟩ (fun reply =>
      match reply with
      | .error e => .done (.error e)
      | .ok response =>
        match elements endpoint read response with
        | .error e => .done (.error e)
        | .ok entities =>
          if _more : page < response.pages then
            (walkFrom endpoint pageSize filter read (page + 1)).map (fun rest =>
              rest.map (entities ++ ·))
          else .done (.ok entities)))
termination_by UInt32.size - page.toNat
decreasing_by
  have bound := response.pages.toNat_lt
  have less := UInt32.lt_iff_toNat_lt.mp _more
  simp only [UInt32.size, UInt32.toNat_add, UInt32.toNat_one]
  omega

/-- All elements of the list of an endpoint. -/
def all (endpoint : String) (pageSize : UInt32) (filter : String) (read : Reader α) :
    Listing (List α) :=
  walkFrom endpoint pageSize filter read 1

end Listing

end CloudInventory
