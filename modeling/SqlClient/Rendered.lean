import SqlClient.Ident
import SqlClient.Value

/-! # Rendered statements

A text with placeholders and the values for them, in the order of the placeholders. Pieces are put
together by `++`, which keeps text and values in step.
-/
namespace SqlClient

@[ext] structure Rendered where
  sql : String
  binds : List Value
  deriving DecidableEq

namespace Rendered

def empty : Rendered := ⟨"", []⟩

instance : Append Rendered := ⟨fun a b => ⟨a.sql ++ b.sql, a.binds ++ b.binds⟩⟩

@[simp] theorem sql_append (a b : Rendered) : (a ++ b).sql = a.sql ++ b.sql := rfl

@[simp] theorem binds_append (a b : Rendered) : (a ++ b).binds = a.binds ++ b.binds := rfl

@[simp] theorem empty_append (a : Rendered) : empty ++ a = a :=
  Rendered.ext (by simp [empty]) (by simp [empty])

@[simp] theorem append_empty (a : Rendered) : a ++ empty = a :=
  Rendered.ext (by simp [empty]) (by simp [empty])

theorem append_assoc (a b c : Rendered) : a ++ b ++ c = a ++ (b ++ c) :=
  Rendered.ext (by simp [String.append_assoc]) (by simp [List.append_assoc])

theorem toList_empty : empty.sql.toList = [] := rfl

def text (s : String) : Rendered := ⟨s, []⟩

def ident (i : Ident) : Rendered := text i.quoted

/-- Null is written out, every other value becomes a placeholder. -/
def value (v : Value) : Rendered :=
  if v.isNull then text "null" else ⟨"?", [v]⟩

def list : List Rendered → Rendered
  | [] => empty
  | [r] => r
  | r :: rs => r ++ text ", " ++ list rs

theorem binds_list {rs : List Rendered} (h : ∀ r ∈ rs, r.binds = []) : (list rs).binds = [] := by
  induction rs with
  | nil => rfl
  | cons r rs ih =>
    obtain ⟨hr, hrs⟩ := List.forall_mem_cons.mp h
    cases rs with
    | nil => exact hr
    | cons r' rs => simp [list, text, hr, ih hrs]

/-- How many question marks the text holds. -/
def placeholders (r : Rendered) : Nat := r.sql.toList.count '?'

end Rendered

end SqlClient
