import SqlClient.Proofs.Formed
import SqlClient.Proofs.Reading.Name

/-! # Reading a WHERE tree

An element is a group if it begins with a parenthesis, and a level goes on for as long as a
connective follows. A well-formed tree is read from its text just as it is nested.
-/
namespace SqlClient

def Operator.all : List Operator :=
  [.equal, .notEqual, .like, .notLike, .greater, .greaterEqual, .lesser, .lesserEqual, .regexp]

def Condition.term : Condition → Term
  | comparison _ c => .comparison c
  | group _ items => .group items

def Term.render : Term → Rendered
  | comparison c => c.render
  | group items => .text "(" ++ (Condition.renderAll items ++ .text ")")

theorem Condition.term_joinedBy (c : Condition) : c.term.joinedBy c.separator = c := by
  cases c <;> rfl

theorem Condition.Formed.render {c : Condition} (h : c.Formed) :
    c.render = .text c.separator.sql ++ c.term.render := by
  cases c with
  | comparison s c =>
    unfold Condition.render
    rfl
  | group s items =>
    unfold Condition.render
    rw [if_neg (by simpa using h.1), Rendered.append_assoc]
    rfl

namespace Reading

open Condition (FormedLevel FormedRest renderAll)

def bound : Reader Value := fun i =>
  match i.binds with
  | [] => none
  | v :: vs => some (v, { i with binds := vs })

def value : Reader Value := do
  if ← taken "null" then return .null
  else
    skip "?"
    bound

def operator : Reader Operator := oneOf (fun o => o.sql ++ " ") Operator.all

def comparison : Reader Comparison := do
  let column ← name
  skip " "
  let operator ← operator
  let value ← value
  return { column, operator, value }

def separator : Reader Separator := do
  if ← taken " AND " then return .and
  else if ← taken " OR " then return .or
  else return .none

mutual

/-- A comparison or a group. Of the characters to be read at least one is taken before the next
call. -/
def term : Nat → Reader Term
  | 0 => failure
  | n + 1 => do
    if ← taken "(" then
      let items ← level n
      skip ")"
      return .group items
    else
      let c ← comparison
      return .comparison c

def level : Nat → Reader (List Condition)
  | 0 => failure
  | n + 1 => do
    let t ← term n
    let cs ← further n
    return t.joinedBy .none :: cs

def further : Nat → Reader (List Condition)
  | 0 => failure
  | n + 1 => do
    let s ← separator
    if s = .none then return []
    else
      let t ← term n
      let cs ← further n
      return t.joinedBy s :: cs

end

def tree : Reader (List Condition) := fun i => level (i.text.length + 1) i

def endsLevel (t : List Char) : Prop := Unlike " AND " t ∧ Unlike " OR " t

theorem reads_value (v : Value) : Reads value (.value v) v fun _ => True := by
  unfold value
  by_cases hv : v.isNull = true
  · have hnull : v = .null := by
      cases v <;> simp_all [Value.isNull]
    rw [hnull, ← (Rendered.value .null).append_empty]
    exact Reads.taken_then (.pure _)
  · have hbound : Reads bound ⟨"", [v]⟩ v fun _ => True := fun _ _ => rfl
    have hsplit : Rendered.value v = .text "?" ++ ⟨"", [v]⟩ := if_neg hv
    rw [hsplit]
    exact Reads.taken_else ((Reads.skip "?").bind_any hbound) fun t _ =>
      unlike_append (by decide) _ t

theorem reads_operator (o : Operator) :
    Reads operator (.text (o.sql ++ " ")) o fun _ => True := by
  refine Reads.oneOf (by cases o <;> decide) ?_
  intro p _ hp
  cases p <;> cases o <;> first | exact absurd rfl hp | decide

theorem reads_comparison (c : Comparison) : Reads comparison c.render c fun _ => True := by
  have hrender : c.render = .ident c.column ++ (.text " " ++
      (.text (c.operator.sql ++ " ") ++ .value c.value)) := by
    simp only [Comparison.render, text_append, Rendered.append_assoc]
  rw [hrender]
  unfold comparison
  refine (reads_name c.column).bind ?_ fun t _ => begins_append (by decide) _ t
  refine (Reads.skip " ").bind_any ?_
  refine (reads_operator c.operator).bind_any ?_
  exact (reads_value c.value).map fun value => (⟨c.column, c.operator, value⟩ : Comparison)

theorem reads_separator {s : Separator} (hs : s ≠ .none) :
    Reads separator (.text s.sql) s fun _ => True := by
  unfold separator
  rw [← (Rendered.text s.sql).append_empty]
  cases s with
  | none => exact absurd rfl hs
  | and => exact Reads.taken_then (.pure _)
  | or =>
    refine Reads.taken_else (Reads.taken_then (.pure _)) ?_
    intro t _
    rw [Rendered.append_empty]
    exact unlike_text (by decide) t

theorem reads_no_separator : Reads separator .empty .none endsLevel := by
  unfold separator
  refine Reads.taken_else (Reads.taken_else (.pure _) ?_) ?_
  · intro t ht
    rw [Rendered.toList_empty]
    exact ht.2
  · intro t ht
    rw [Rendered.toList_empty]
    exact ht.1

theorem width_term_pos (t : Term) : 0 < width t.render := by
  cases t with
  | comparison c =>
    have hspace : " ".toList.length = 1 := by decide
    simp only [Term.render, Comparison.render, width_append, width_text]
    omega
  | group items =>
    have hopen : "(".toList.length = 1 := by decide
    simp only [Term.render, width_append, width_text]
    omega

theorem width_render {c : Condition} (h : c.Formed) (cs : List Condition) :
    width (renderAll (c :: cs)) =
      c.separator.sql.toList.length + width c.term.render + width (renderAll cs) := by
  rw [renderAll, h.render, width_append, width_append, width_text]

-- The recursion is on the tree; the bound on the text only has to be carried along.
mutual

theorem reads_term (c : Condition) (h : c.Formed) {n : Nat} (hn : width c.term.render ≤ n) :
    Reads (term n) c.term.render c.term fun _ => True := by
  cases c with
  | comparison s c =>
    have hpos := width_term_pos (.comparison c)
    have hwidth : width (Term.comparison c).render ≤ n := hn
    obtain ⟨m, rfl⟩ : ∃ m, n = m + 1 := ⟨n - 1, by omega⟩
    unfold term Condition.term Term.render
    refine Reads.taken_else ((reads_comparison c).map Term.comparison) ?_
    intro t _
    simp only [Comparison.render, Rendered.append_assoc]
    exact unlike_ident (by decide) c.column _ t
  | group s items =>
    have hopen : "(".toList.length = 1 := by decide
    have hclose : ")".toList.length = 1 := by decide
    simp only [Condition.term, Term.render, width_append, width_text] at hn ⊢
    obtain ⟨m, rfl⟩ : ∃ m, n = m + 1 := ⟨n - 1, by omega⟩
    have hitems := reads_level items h.2 h.1 (n := m) (by omega)
    unfold term
    refine Reads.taken_then (hitems.bind ((Reads.skip ")").map fun _ => Term.group items) ?_)
    intro t _
    exact ⟨unlike_text (by decide) t, unlike_text (by decide) t⟩

theorem reads_level (cs : List Condition) (h : FormedLevel cs) (hne : cs ≠ []) {n : Nat}
    (hn : width (renderAll cs) < n) : Reads (level n) (renderAll cs) cs endsLevel := by
  cases cs with
  | nil => exact absurd rfl hne
  | cons c cs =>
    obtain ⟨hs, hc, hcs⟩ := h
    have hpos := width_term_pos c.term
    rw [width_render hc] at hn
    obtain ⟨m, rfl⟩ : ∃ m, n = m + 1 := ⟨n - 1, by omega⟩
    have hterm := reads_term c hc (n := m) (by omega)
    have hfurther := reads_further cs hcs (n := m) (by omega)
    have hjoined : c :: cs = c.term.joinedBy .none :: cs := by
      rw [← hs, c.term_joinedBy]
    rw [renderAll, hc.render, hs, Separator.sql, text_empty, Rendered.empty_append, hjoined]
    unfold level
    exact hterm.bind_any (hfurther.map (c.term.joinedBy .none :: ·))

theorem reads_further (cs : List Condition) (h : FormedRest cs) {n : Nat}
    (hn : width (renderAll cs) < n) : Reads (further n) (renderAll cs) cs endsLevel := by
  obtain ⟨m, rfl⟩ : ∃ m, n = m + 1 := ⟨n - 1, by omega⟩
  unfold further
  cases cs with
  | nil =>
    rw [renderAll, ← Rendered.empty.append_empty]
    refine reads_no_separator.bind (.pure []) ?_
    intro t ht
    rwa [Rendered.toList_empty]
  | cons c cs =>
    obtain ⟨hs, hc, hcs⟩ := h
    have hpos := width_term_pos c.term
    rw [width_render hc] at hn
    have hterm := reads_term c hc (n := m) (by omega)
    have hfurther := reads_further cs hcs (n := m) (by omega)
    have hjoined : c :: cs = c.term.joinedBy c.separator :: cs := by
      rw [c.term_joinedBy]
    rw [renderAll, hc.render, Rendered.append_assoc, hjoined]
    refine (reads_separator hs).bind_any ?_
    rw [if_neg hs]
    exact hterm.bind_any (hfurther.map (c.term.joinedBy c.separator :: ·))

end

/-- A tree is read from its text, of which every character is enough for one step. -/
theorem reads_tree {cs : List Condition} (h : FormedLevel cs) (hne : cs ≠ []) :
    Reads tree (renderAll cs) cs endsLevel := by
  intro i hi
  have hwidth := i.width_le_behind (renderAll cs)
  exact reads_level cs h hne (by omega) i hi

end Reading

end SqlClient
