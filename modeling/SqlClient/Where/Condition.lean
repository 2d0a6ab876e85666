import SqlClient.Operator
import SqlClient.Rendered

/-! # The WHERE tree

A tree of comparisons and parenthesised groups. Every element records how it joins the one before
it at the same level; the first of a level joins nothing.
-/
namespace SqlClient

inductive Separator where
  | none
  | and
  | or
  deriving DecidableEq

def Separator.sql : Separator → String
  | none => ""
  | and => " AND "
  | or => " OR "

/-- What can be asked for to join the next element. -/
inductive Connective where
  | and
  | or
  deriving DecidableEq

def Connective.separator : Connective → Separator
  | and => .and
  | or => .or

structure Comparison where
  column : Ident
  operator : Operator
  value : Value
  deriving DecidableEq

def Comparison.render (c : Comparison) : Rendered :=
  .ident c.column ++ .text " " ++ .text c.operator.sql ++ .text " " ++ .value c.value

inductive Condition where
  | comparison (separator : Separator) (c : Comparison)
  | group (separator : Separator) (items : List Condition)

namespace Condition

def separator : Condition → Separator
  | comparison s _ => s
  | group s _ => s

mutual

/-- A group without an element is written as nothing. -/
def render : Condition → Rendered
  | comparison s c => .text s.sql ++ c.render
  | group s items =>
    .text s.sql ++ if items.isEmpty then .empty else .text "(" ++ renderAll items ++ .text ")"

def renderAll : List Condition → Rendered
  | [] => .empty
  | c :: cs => render c ++ renderAll cs

end

end Condition

/-- What is appended to a level: an element that does not know yet how it will be joined. -/
inductive Term where
  | comparison (c : Comparison)
  | group (items : List Condition)

def Term.joinedBy (s : Separator) : Term → Condition
  | comparison c => .comparison s c
  | group items => .group s items

/-- One level of the tree, and what has been asked for to join the next element of it. -/
structure Conditions where
  items : List Condition := []
  next : Option Connective := none

namespace Conditions

def isEmpty (cs : Conditions) : Bool := cs.items.isEmpty

def size (cs : Conditions) : Nat := cs.items.length

def join (cs : Conditions) (c : Connective) : Conditions := { cs with next := some c }

/-- Appends an element joined as asked for, or by AND, and forgets what was asked for. -/
def append (cs : Conditions) (t : Term) : Conditions :=
  { items := cs.items ++
      [t.joinedBy (if cs.items.isEmpty then .none else (cs.next.getD .and).separator)]
    next := none }

def render (cs : Conditions) : Rendered := Condition.renderAll cs.items

/-- The WHERE clause, which is left out when there is no condition. -/
def clause (cs : Conditions) : Rendered :=
  if cs.isEmpty then .empty else .text " WHERE " ++ cs.render

end Conditions

end SqlClient
