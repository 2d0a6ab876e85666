import SqlClient.Document
import SqlClient.Error
import SqlClient.OrderedMap
import SqlClient.Where.Edit

/-! # Filters

A filter is a map from keys to values and to further filters. An entry means `column = value`, a
nested filter a group. A key that starts with a bar joins its entry by OR, one that starts with an
ampersand or with neither by AND; the sign does not belong to the column.
-/
namespace SqlClient

inductive Clause where
  | value (v : Value)
  | nested (entries : List (String × Clause))

abbrev Filter := OrderedMap String Clause

namespace Filter

def splitKey (key : String) : Connective × Ident :=
  match key.toList with
  | '|' :: cs => (.or, ⟨String.ofList cs⟩)
  | '&' :: cs => (.and, ⟨String.ofList cs⟩)
  | _ => (.and, ⟨key⟩)

def editsOf (terms : List (Connective × Term)) : List Edit :=
  terms.flatMap fun t => [.join t.1, .append t.2]

mutual

/-- What an entry appends. A nested filter without any value appends nothing. -/
def termOf? (column : Ident) : Clause → Option Term
  | .value v => some (.comparison ⟨column, .equal, v⟩)
  | .nested entries =>
    let g := Conditions.edits {} (editsOf (normalize entries))
    if g.isEmpty then none else some (.group g.items)

def normalize : List (String × Clause) → List (Connective × Term)
  | [] => []
  | (key, clause) :: rest =>
    let (c, column) := splitKey key
    match termOf? column clause with
    | some t => (c, t) :: normalize rest
    | none => normalize rest

end

/-- The elements of a filter in its order, each with the connective of its key. -/
def edits (f : Filter) : List Edit := editsOf (normalize f.entries)

mutual

/-- A scalar is a value and an object a nested filter; a list is refused. -/
def clauseOf (key : String) : Document → Except FilterFault Clause
  | .object members =>
    match entriesOf members with
    | .ok entries => .ok (.nested entries)
    | .error e => .error e
  | .array _ => .error (.unsupported key)
  | .null => .ok (.value .null)
  | .bool b => .ok (.value (.bool b))
  | .number n => .ok (.value n.value)
  | .text s => .ok (.value (.text s))

def entriesOf : List (String × Document) → Except FilterFault (List (String × Clause))
  | [] => .ok []
  | (key, d) :: rest =>
    match clauseOf key d with
    | .error e => .error e
    | .ok c =>
      match entriesOf rest with
      | .error e => .error e
      | .ok cs => .ok ((key, c) :: cs)

end

/-- The filter that an object stands for. The first list in depth-first order is the one named in
the error. -/
def ofDocument : Document → Except FilterFault Filter
  | .object members =>
    match entriesOf members with
    | .ok entries => .ok ⟨entries⟩
    | .error e => .error e
  | _ => .error .notObject

end Filter

end SqlClient
