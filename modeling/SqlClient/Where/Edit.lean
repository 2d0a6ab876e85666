import SqlClient.Where.Condition

/-! # Predicate calls as edits

Every call that builds a WHERE tree is a list of edits that does not depend on the tree it is
applied to. A statement is touched once for every element appended, and never by a connective.
-/
namespace SqlClient

inductive Edit where
  | join (c : Connective)
  | append (t : Term)

namespace Edit

def compare (column : Ident) (operator : Operator) (value : Value) : List Edit :=
  [.append (.comparison ⟨column, operator, value⟩)]

/-- A built group is appended unless it is empty; its own wish for a connective is forgotten. -/
def group (g : Conditions) : List Edit :=
  if g.isEmpty then [] else [.append (.group g.items)]

end Edit

def Conditions.edit (cs : Conditions) : Edit → Conditions
  | .join c => cs.join c
  | .append t => cs.append t

def Conditions.edits (cs : Conditions) (es : List Edit) : Conditions := es.foldl edit cs

namespace Edit

def equalities (pairs : List (Ident × Value)) : Conditions :=
  Conditions.edits {} (pairs.flatMap fun p => compare p.1 .equal p.2)

/-- The group of equalities, joined to the element before it by OR. Without a pair nothing is asked
for. -/
def matching (pairs : List (Ident × Value)) : List Edit :=
  if pairs.isEmpty then [] else .join .or :: group (equalities pairs)

/-- Columns and values as two lists; the longer one is cut. -/
def matchingColumns (columns : List Ident) (values : List Value) : List Edit :=
  matching (columns.zip values)

end Edit

end SqlClient
