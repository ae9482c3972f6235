import Lodging.Limits
import Lodging.RecordId

/-!
# Pages of a listing

A listing is read in pages, either by number or by the last identifier seen. A numbered page counts
the whole listing anew at each request, while a cursor only looks behind its position.
-/

namespace Lodging

/-- How many items a page of the requested size holds. -/
def pageLength (limit : UInt32) : Nat := min limit.toNat Limits.pageSize

/-- A page by its number, counted from one, and its size. -/
structure NumberedPage where
  number : UInt32
  limit : UInt32

/-- The items of a numbered page, with the size of the whole listing. -/
structure NumberedResult (α : Type) where
  items : List α
  total : Nat
  number : Nat
  limit : Nat

namespace NumberedPage

/-- The number of the page that is shown: page zero is page one. -/
def shown (page : NumberedPage) : Nat := max page.number.toNat 1

def skip (page : NumberedPage) : Nat := (page.shown - 1) * pageLength page.limit

def apply {α : Type} (page : NumberedPage) (listing : List α) : NumberedResult α where
  items := (listing.drop page.skip).take (pageLength page.limit)
  total := listing.length
  number := page.shown
  limit := pageLength page.limit

end NumberedPage

/-- The last identifier seen, as text, and a page size. The empty text stands before everything. -/
structure CursorPage where
  lastId : String
  limit : UInt32

/-- The items behind a cursor, the number of all that lie behind it, and the next cursor unless the
page was short. -/
structure CursorResult (α : Type) where
  items : List α
  total : Nat
  next : Option RecordId

namespace CursorPage

/-- The identifier behind which the page begins, if not at the start. -/
def position (page : CursorPage) : Except MalformedId (Option RecordId) :=
  if page.lastId.isEmpty then .ok none else (RecordId.parse page.lastId).map some

/-- The page of a listing of which only the part behind the cursor is given. A full page that is not
empty names its last item as the next cursor. -/
def apply {α : Type} (page : CursorPage) (idOf : α → RecordId) (behind : List α) :
    CursorResult α :=
  let items := behind.take (pageLength page.limit)
  { items
    total := behind.length
    next := if items.length = pageLength page.limit then items.getLast?.map idOf else none }

end CursorPage

end Lodging
