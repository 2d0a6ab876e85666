import SqlClient.Schema.Catalog
import SqlClient.Where.Condition

/-! # Answers

What the calls of a session give back.
-/
namespace SqlClient

inductive Answer where
  /-- The call was made for what it does. -/
  | done
  | failed (e : QueryError)
  /-- The slot holds nothing. -/
  | noSlot
  /-- What the slot holds has no such call. -/
  | noSuchCall
  | truth (b : Bool)
  | name (s : String)
  | names (ns : List String)
  | count (n : UInt64)
  | rendering (r : Rendered)
  | row (r : Option Row)
  | map (m : Option (OrderedMap String Value))
  | maps (ms : List (OrderedMap String Value))
  | strings (ss : Option (List (Option String)))
  | stringMap (m : Option (OrderedMap String (Option String)))
  | stringMaps (ms : List (OrderedMap String (Option String)))
  /-- How many entries there are. -/
  | size (n : Nat)
  | tree (cs : Conditions)
  | settings (s : Settings)
  | columns (c : Columns)
  | column (info : Option ColumnInfo) (contained required : Bool)
  | each (answers : List Answer)

def Answer.of {α : Type} (answer : α → Answer) : Except QueryError α → Answer
  | .ok a => answer a
  | .error e => failed e

end SqlClient
