import Stockroom.Query.Condition
import Stockroom.Query.Cursor

/-!
# Selections

A selection describes one list query completely: the condition, the sort keys,
the page or the cursor, and the fields asked for.  A draft collects its parts;
the conditions put into a draft must all hold.
-/

namespace Stockroom

structure Selection where
  condition : Option Condition
  sorting : List SortKey
  /-- The page, counted from one; a cursor takes its place. -/
  page : UInt32
  size : UInt32
  /-- The fields asked for; none stands for all of them. -/
  fields : List String
  cursor : Option Cursor
  page_pos : 0 < page
  size_pos : 0 < size
  deriving Repr

namespace Selection

def defaultPage : UInt32 := 1

def defaultSize : UInt32 := 20

/-- The first sort key, which the cursors of a page continue. -/
def primary? (selection : Selection) : Option SortKey := selection.sorting.head?

/-- The rows in front of the page. -/
def offset (selection : Selection) : UInt64 :=
  (selection.page - 1).toUInt64 * selection.size.toUInt64

end Selection

/-- The parts of a selection, in the order in which they were given. -/
structure Draft where
  conditions : List Condition
  sorting : List SortKey
  page : UInt32
  size : UInt32
  fields : List String
  cursor : Option Cursor
  page_pos : 0 < page
  size_pos : 0 < size
  deriving Repr

namespace Draft

def empty : Draft :=
  ⟨[], [], Selection.defaultPage, Selection.defaultSize, [], none, by decide, by decide⟩

/-! ## Conditions -/

def require (draft : Draft) (condition : Condition) : Draft :=
  { draft with conditions := draft.conditions ++ [condition] }

/-- All of the conditions must hold; none of them adds nothing. -/
def requireAll (draft : Draft) : List Condition → Draft
  | [] => draft
  | parts => draft.require (.all parts)

/-- One of the conditions must hold; none of them adds nothing. -/
def requireAny (draft : Draft) : List Condition → Draft
  | [] => draft
  | parts => draft.require (.any parts)

def exclude (draft : Draft) (condition : Condition) : Draft :=
  draft.require condition.negate

/-! ## Order, page and fields -/

/-- Adds a sort key; a blank text adds none. -/
def orderBy (draft : Draft) (text : String) : Draft :=
  if (Text.trimChars text.toList).isEmpty then draft
  else { draft with sorting := draft.sorting ++ [SortKey.parse text] }

/-- The new number, unless it is zero. -/
def orKeep (kept new : UInt32) : UInt32 := if new = 0 then kept else new

theorem orKeep_pos {kept : UInt32} (h : 0 < kept) (new : UInt32) : 0 < orKeep kept new := by
  unfold orKeep
  split
  · exact h
  · next hne => exact UInt32.pos_iff_ne_zero.mpr hne

/-- Sets page and size; a zero keeps what is there. -/
def paginate (draft : Draft) (page size : UInt32) : Draft :=
  { draft with
    page := orKeep draft.page page
    size := orKeep draft.size size
    page_pos := orKeep_pos draft.page_pos page
    size_pos := orKeep_pos draft.size_pos size }

def select (draft : Draft) (fields : List String) : Draft :=
  { draft with fields := draft.fields ++ fields }

def continueFrom (draft : Draft) (cursor : Cursor) : Draft :=
  { draft with cursor := some cursor }

/-! ## The selection -/

def condition? (draft : Draft) : Option Condition :=
  match draft.conditions with
  | [] => none
  | [condition] => some condition
  | conditions => some (.all conditions)

def build (draft : Draft) : Selection where
  condition := draft.condition?
  sorting := draft.sorting
  page := draft.page
  size := draft.size
  fields := draft.fields
  cursor := draft.cursor
  page_pos := draft.page_pos
  size_pos := draft.size_pos

end Draft

end Stockroom
