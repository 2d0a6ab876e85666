import SqlClient.Value

/-! # Structured documents

Documents with scalars, lists and objects. The members of an object are sorted by key, and a key
occurs once.
-/
namespace SqlClient

/-- A number is an integer of 64 bits, with or without a sign, or a finite float. -/
inductive DocumentNumber where
  | signed (i : Int64)
  | unsigned (u : UInt64)
  | float (x : Binary64)
  deriving DecidableEq

inductive Document where
  | null
  | bool (b : Bool)
  | number (n : DocumentNumber)
  | text (s : String)
  | array (items : List Document)
  | object (members : List (String × Document))

/-- The value of a number. A non-negative integer in the signed range is the same number in either
form, and it is signed. -/
def DocumentNumber.value : DocumentNumber → Value
  | signed i => .int i
  | unsigned u =>
    match Integer.toInt64? u.toNat with
    | some i => .int i
    | none => .uint u
  | float x => .float x

namespace Document

/-- Puts a member at its place by key, over an earlier one of that key. -/
def insertMember (key : String) (d : Document) :
    List (String × Document) → List (String × Document)
  | [] => [(key, d)]
  | m :: ms =>
    if key < m.1 then (key, d) :: m :: ms
    else if m.1 = key then (key, d) :: ms
    else m :: insertMember key d ms

/-- The object with the given members, of which a later one replaces an earlier one. -/
def ofMembers (members : List (String × Document)) : Document :=
  .object (members.foldl (fun ms m => insertMember m.1 m.2 ms) [])

inductive Shape where
  | array
  | object
  deriving DecidableEq

/-- The value of a scalar; of a list or an object its shape and length. -/
def value? : Document → Except (Shape × Nat) Value
  | null => .ok .null
  | bool b => .ok (.bool b)
  | number n => .ok n.value
  | text s => .ok (.text s)
  | array items => .error (.array, items.length)
  | object members => .error (.object, members.length)

end Document

end SqlClient
