import Stockroom.Device.Basic

/-!
# Pages

A page of the list of devices, with what a caller needs to move on: the number
of all devices that match, whether there are pages on either side, and the
tokens that lead to them.
-/

namespace Stockroom

structure PageInfo where
  page : UInt32
  size : UInt32
  totalItems : Int
  totalPages : Int
  hasNext : Bool
  hasPrevious : Bool
  nextCursor : Option String
  previousCursor : Option String
  deriving DecidableEq, Repr

namespace PageInfo

/--
The number of pages of the given size, the last of which may be partly filled, on words of 64
bits.  A sum beyond them wraps around; a build that checks sums for overflow stops there instead.
-/
def countWord (size : UInt32) (total : Int64) : Int64 :=
  if size = 0 then 0 else (total + .ofNat size.toNat - 1) / .ofNat size.toNat

/-- The number of pages for a total that a word of 64 bits holds. -/
def pageCount (size : UInt32) (total : Int) : Int := (countWord size (.ofInt total)).toInt

/-- The page with the given number, counted from one. -/
def ofTotal (page size : UInt32) (total : Int) : PageInfo where
  page := page
  size := size
  totalItems := total
  totalPages := pageCount size total
  hasNext := page.toNat < pageCount size total
  hasPrevious := 1 < page
  nextCursor := none
  previousCursor := none

/-- A member for a token, if there is one. -/
def cursorMember (name : String) : Option String → List (String × Json)
  | none => []
  | some token => [(name, .text token)]

def json (info : PageInfo) : Json :=
  .object ([
    ("page", .int info.page.toNat),
    ("size", .int info.size.toNat),
    ("totalItems", .int info.totalItems),
    ("totalPages", .int info.totalPages),
    ("hasNext", .bool info.hasNext),
    ("hasPrevious", .bool info.hasPrevious)] ++
    cursorMember "nextCursor" info.nextCursor ++
    cursorMember "previousCursor" info.previousCursor)

end PageInfo

structure Page where
  items : List Device
  info : PageInfo
  deriving DecidableEq, Repr

namespace Page

def length (page : Page) : Nat := page.items.length

def isEmpty (page : Page) : Bool := page.items.isEmpty

def json (page : Page) : Json :=
  .object [("items", .array (page.items.map Device.json)), ("pagination", page.info.json)]

end Page

end Stockroom
