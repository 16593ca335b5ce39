import Stockroom.Device.State
import Stockroom.Query.Selection

/-!
# List requests

What a caller asks of the list of devices, and the selection it stands for.
Several brands or several states are alternatives; a keyword is searched in the
name; blank keywords and sort keys count as absent.
-/

namespace Stockroom

/-! ## Page limits -/

structure PageLimits where
  /-- The size of a page for which none is asked. -/
  defaultSize : UInt32
  maxSize : UInt32
  deriving DecidableEq, Repr

namespace PageLimits

def standard : PageLimits := ⟨20, 100⟩

/-- The size of a page: the one asked for, unless it is zero, but never above the limit. -/
def size (limits : PageLimits) (asked : Option UInt32) : UInt32 :=
  min ((asked.filter (0 < ·)).getD limits.defaultSize) limits.maxSize

end PageLimits

/-! ## Requests -/

structure ListRequest where
  brands : List String
  states : List DeviceState
  keyword : Option String
  /-- Signed sort keys. -/
  sort : List String
  page : Option UInt32
  size : Option UInt32
  /-- A token from an earlier page. -/
  cursor : Option String
  deriving DecidableEq, Repr

namespace ListRequest

def empty : ListRequest := ⟨[], [], none, [], none, none, none⟩

/-- The latest devices come first unless a sort key is given. -/
def defaultSort : String := "-createdAt"

/-! ## Conditions -/

def requireBrands (brands : List String) (draft : Draft) : Draft :=
  match brands with
  | [] => draft
  | [brand] => draft.require (.eq "brand" (.text brand))
  | brands => draft.require (.oneOf "brand" (brands.map .text))

def stateCondition (state : DeviceState) : Condition := .eq "state" (.text state.word)

def requireStates (states : List DeviceState) (draft : Draft) : Draft :=
  match states with
  | [state] => draft.require (stateCondition state)
  | states => draft.requireAny (states.map stateCondition)

/-- The keyword without blanks around it, if anything is left of it. -/
def keyword? (request : ListRequest) : Option String :=
  (request.keyword.map Text.trim).filter (· ≠ "")

def requireKeyword (keyword : Option String) (draft : Draft) : Draft :=
  match keyword with
  | none => draft
  | some keyword => draft.require (.fullText "name" keyword)

/-! ## Order and page -/

/-- The sort keys that are not blank, or the default one. -/
def sortTexts (request : ListRequest) : List String :=
  match (request.sort.map Text.trim).filter (· ≠ "") with
  | [] => [defaultSort]
  | texts => texts

def draft (request : ListRequest) (limits : PageLimits) : Draft :=
  let filtered := Draft.empty
    |> requireBrands request.brands
    |> requireStates request.states
    |> requireKeyword request.keyword?
  (request.sortTexts.foldl Draft.orderBy filtered).paginate
    (request.page.getD 1) (limits.size request.size)

/-- The selection; only a cursor that cannot be read stands in its way. -/
def selection (request : ListRequest) (limits : PageLimits) :
    Except CursorFault Selection :=
  match request.cursor with
  | none => .ok (request.draft limits).build
  | some token => do
      let cursor ← Cursor.ofToken token
      return ((request.draft limits).continueFrom cursor).build

/-! ## JSON -/

def json (request : ListRequest) : Json :=
  .object [
    ("brands", .array (request.brands.map .text)),
    ("states", .array (request.states.map fun state => .text state.word)),
    ("keyword", .orNull .text request.keyword),
    ("sort", .array (request.sort.map .text)),
    ("page", .orNull (fun page => .int page.toNat) request.page),
    ("size", .orNull (fun size => .int size.toNat) request.size),
    ("cursor", .orNull .text request.cursor)]

def fieldNames : List String :=
  ["brands", "states", "keyword", "sort", "page", "size", "cursor"]

open Json.Document in
def ofDocument? (document : Json.Document) : Option ListRequest := do
  match ← document.record? fieldNames 0 with
  | [brands, states, keyword, sort, page, size, cursor] =>
      some {
        brands := ← fieldOr? [] (list? string?) brands
        states := ← fieldOr? [] (list? (choice? DeviceState.ofWord?)) states
        keyword := ← optionalField? string? keyword
        sort := ← fieldOr? [] (list? string?) sort
        page := ← optionalField? uint32? page
        size := ← optionalField? uint32? size
        cursor := ← optionalField? string? cursor }
  | _ => none

end ListRequest

end Stockroom
