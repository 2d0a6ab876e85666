import SqlClient.OrderedMap
import SqlClient.Where.Condition

/-! # Changes of a command

The calls that build a command apart from its WHERE tree, each of which makes an earlier rendering
stale.
-/
namespace SqlClient

inductive Direction where
  | ascending
  | descending
  deriving DecidableEq

def Direction.sql : Direction → String
  | ascending => "ASC"
  | descending => "DESC"

inductive Change where
  | fields (columns : List Ident)
  | addField (column : Ident)
  | resetFields
  | groupBy (columns : List Ident)
  /-- Sets the columns and the direction. -/
  | orderBy (columns : List Ident) (d : Direction)
  | direction (d : Direction)
  | limit (n : UInt64)
  | offset (n : UInt64)
  | value (column : Ident) (v : Value)
  | values (pairs : List (Ident × Value))
  | clearValues
  | bind (v : Value)
  | binds (vs : List Value)
  | clearBinds

namespace Rendered

def idents (columns : List Ident) : Rendered := list (columns.map ident)

/-- A keyword and its number, which are left out together. -/
def bound (keyword : String) : Option UInt64 → Rendered
  | none => empty
  | some n => text keyword ++ text (Nat.repr n.toNat)

theorem binds_idents (columns : List Ident) : (idents columns).binds = [] :=
  binds_list (by simp [ident, text])

theorem binds_bound (keyword : String) (n : Option UInt64) : (bound keyword n).binds = [] := by
  cases n <;> rfl

end Rendered

end SqlClient
