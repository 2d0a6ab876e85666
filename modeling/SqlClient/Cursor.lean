import SqlClient.Error
import SqlClient.Row

/-! # Cursors

A set of rows with a position on it: zero is before the first row, and one past the number of rows
is after the last. A cursor is a row set whose moves may fail.
-/
namespace SqlClient

structure RowSet where
  columns : List String
  rows : List (List Value)
  position : Nat := 0

inductive Move where
  | next
  | first
  | last
  | absolute (n : Nat)
  deriving DecidableEq

namespace RowSet

def size (s : RowSet) : Nat := s.rows.length

def isEmpty (s : RowSet) : Bool := s.rows.isEmpty

/-- Goes to a position, or after the last row, and says whether there is a row. -/
def seek (s : RowSet) (n : Nat) : Bool × RowSet :=
  let n := min n (s.size + 1)
  (1 ≤ n && n ≤ s.size, { s with position := n })

def move (s : RowSet) : Move → Bool × RowSet
  | .next => s.seek (s.position + 1)
  | .first => s.seek 1
  | .last => s.seek s.size
  | .absolute n => s.seek n

def current (s : RowSet) : Option Row :=
  match s.position with
  | 0 => none
  | n + 1 => s.rows[n]?.map fun values => ⟨s.columns, values⟩

theorem position_seek_le (s : RowSet) (n : Nat) : (s.seek n).2.position ≤ s.size + 1 :=
  Nat.min_le_right _ _

end RowSet

/-- Every move takes one entry of `faults`; one that is an error stops the move. -/
structure Cursor where
  set : RowSet
  faults : List (Option DriverError) := []

namespace Cursor

def move (c : Cursor) (m : Move) : Except DriverError Bool × Cursor :=
  match c.faults with
  | some e :: rest => (.error e, { c with faults := rest })
  | faults =>
    let (found, set) := c.set.move m
    (.ok found, ⟨set, faults.tail⟩)

def current (c : Cursor) : Option Row := c.set.current

end Cursor

inductive Outcome where
  | rows (c : Cursor)
  | affected (n : UInt64)

end SqlClient
