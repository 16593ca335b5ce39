import Stockroom.Fault.Store
import Stockroom.Inventory.ListRequest
import Stockroom.Inventory.Page
import Stockroom.Query.Statement

/-!
# Listing

A selection is answered in two queries: the number of devices that match and the
rows of the page.  Behind a cursor one row more than the page holds is fetched;
it tells whether the list goes on in the direction of travel.  The page then
carries cursors for both of its ends, which continue the sort key that ordered
it.
-/

namespace Stockroom

/-- The two queries that answer a statement, in any setting where queries are run. -/
structure Queries (m : Type → Type) where
  count : Statement → ExceptT StoreFault m Int
  /-- The rows of the window and some beyond it. -/
  fetch : Statement → (extra : UInt32) → ExceptT StoreFault m (List Device)

namespace Statement

/-- The rows fetched beyond the page. -/
def lookAhead (statement : Statement) : UInt32 := if statement.isKeyset then 1 else 0

/-- The rows of the page in the order in which they are shown. -/
def shownRows (statement : Statement) (size : UInt32) (rows : List Device) : List Device :=
  let kept := rows.take size.toNat
  if statement.reversed then kept.reverse else kept

end Statement

namespace Selection

/-- The sort key that the cursors of the page continue. -/
def continuedSort (selection : Selection) : String :=
  match selection.cursor with
  | some cursor => cursor.field
  | none => (selection.primary?.map SortKey.signed).getD ListRequest.defaultSort

/--
Whether there is a page behind and a page before this one.  Behind a cursor the
side that the travel came from is taken for granted.
-/
def sides (selection : Selection) (info : PageInfo) (hasMore : Bool) : Bool × Bool :=
  match selection.cursor.map Cursor.travel with
  | none => (info.hasNext, info.hasPrevious)
  | some .next => (hasMore, true)
  | some .prev => (true, hasMore)

end Selection

namespace Page

/-- The page that the answers of both queries make up. -/
def assemble (selection : Selection) (statement : Statement) (total : Int)
    (rows : List Device) : Page :=
  let items := statement.shownRows selection.size rows
  let info := PageInfo.ofTotal selection.page selection.size total
  let (hasNext, hasPrevious) :=
    selection.sides info (selection.size.toNat < rows.length)
  let sort := selection.continuedSort
  { items
    info := { info with
      hasNext, hasPrevious
      nextCursor :=
        if hasNext then items.getLast?.map fun last => (last.cursor sort .next).token
        else none
      previousCursor :=
        if hasPrevious then items.head?.map fun first => (first.cursor sort .prev).token
        else none } }

/-- The page of a selection; a selection with a fault in it is refused before any query. -/
def list {m : Type → Type} [Monad m] (queries : Queries m) (catalog : Catalog)
    (selection : Selection) : ExceptT StoreFault m Page :=
  match catalog.statement selection with
  | .error fault => throw (StoreFault.ofQuery fault)
  | .ok statement => do
      let total ← queries.count statement
      let rows ← queries.fetch statement statement.lookAhead
      return assemble selection statement total rows

end Page

end Stockroom
