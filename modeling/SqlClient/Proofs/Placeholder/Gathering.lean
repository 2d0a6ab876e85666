import SqlClient.Command
import SqlClient.Number.Integer

/-! # What is gathered from a rendering

A rendering is put together from fixed text, numbers, names, comparisons and assignments. Where two
renderings one behind the other hold what the first and then the second holds, it is enough to say
what is gathered from each of these parts.
-/
namespace SqlClient

namespace Placeholder

/-- Text in which there is neither a mark nor a question mark. -/
def Plain (t : String) : Prop := t.toList.all (fun c => c ≠ Ident.mark ∧ c ≠ '?') = true

instance (t : String) : Decidable (Plain t) := inferInstanceAs (Decidable (_ = _))

theorem Plain.ne {t : String} (h : Plain t) : ∀ c ∈ t.toList, c ≠ Ident.mark ∧ c ≠ '?' :=
  fun c hc => of_decide_eq_true (List.all_eq_true.mp h c hc)

theorem plain_number (n : Nat) : Plain (Nat.repr n) := by
  refine List.all_eq_true.mpr fun c hc => decide_eq_true ?_
  have hd := Integer.isDigit_of_mem_repr hc
  constructor
  · rintro rfl
    exact absurd hd (by decide)
  · rintro rfl
    exact absurd hd (by decide)

/-- A relation between a rendering and what it holds, in order. Plain text holds nothing. -/
structure Gathering (α : Type) where
  Gathers : Rendered → List α → Prop
  name : Ident → List α
  comparison : Comparison → List α
  assignment : Ident × Value → List α
  tree : Condition → List α
  level : List Condition → List α
  gathers_append : ∀ {a b as bs}, Gathers a as → Gathers b bs → Gathers (a ++ b) (as ++ bs)
  text : ∀ t, Plain t → Gathers (.text t) []
  gathers_name : ∀ i, Gathers (.ident i) (name i)
  gathers_comparison : ∀ c, Gathers c.render (comparison c)
  gathers_assignment : ∀ e, Gathers (Update.assignment e) (assignment e)
  tree_comparison : ∀ s c, tree (.comparison s c) = comparison c
  tree_group : ∀ s items, tree (.group s items) = level items
  level_nil : level [] = []
  level_cons : ∀ c cs, level (c :: cs) = tree c ++ level cs

namespace Gathering

variable {α : Type} (g : Gathering α)

theorem Gathers.append {g : Gathering α} {a b : Rendered} {as bs : List α} (ha : g.Gathers a as)
    (hb : g.Gathers b bs) : g.Gathers (a ++ b) (as ++ bs) :=
  g.gathers_append ha hb

theorem empty : g.Gathers .empty [] := g.text "" rfl

theorem list {β : Type} {f : β → Rendered} {part : β → List α}
    (h : ∀ x, g.Gathers (f x) (part x)) (xs : List β) :
    g.Gathers (.list (xs.map f)) (xs.flatMap part) := by
  induction xs with
  | nil => exact g.empty
  | cons x xs ih =>
    cases xs with
    | nil => simpa [Rendered.list] using h x
    | cons y ys =>
      have hall := ((h x).append (g.text ", " (by decide))).append ih
      rwa [List.append_nil] at hall

theorem names (columns : List Ident) : g.Gathers (.idents columns) (columns.flatMap g.name) :=
  g.list g.gathers_name columns

theorem bound (keyword : String) (h : Plain keyword) (n : Option UInt64) :
    g.Gathers (.bound keyword n) [] := by
  cases n with
  | none => exact g.empty
  | some n => exact (g.text keyword h).append (g.text _ (plain_number n.toNat))

theorem optional {β : Type} {xs : List β} {r : Rendered} {part : β → List α}
    (h : g.Gathers r (xs.flatMap part)) :
    g.Gathers (if xs.isEmpty then .empty else r) (xs.flatMap part) := by
  split
  · rename_i hempty
    rw [List.isEmpty_iff.mp hempty]
    exact g.empty
  · exact h

/-! ## The WHERE tree -/

theorem separator (s : Separator) : g.Gathers (.text s.sql) [] :=
  g.text _ (by cases s <;> decide)

mutual

theorem gathers_tree (c : Condition) : g.Gathers c.render (g.tree c) := by
  cases c with
  | comparison s c =>
    rw [Condition.render, g.tree_comparison]
    exact (g.separator s).append (g.gathers_comparison c)
  | group s items =>
    rw [Condition.render, g.tree_group]
    cases items with
    | nil =>
      rw [g.level_nil]
      exact (g.separator s).append g.empty
    | cons c cs =>
      have hgroup := ((g.text "(" (by decide)).append (gathers_level (c :: cs))).append
        (g.text ")" (by decide))
      simpa using (g.separator s).append hgroup

theorem gathers_level (cs : List Condition) :
    g.Gathers (Condition.renderAll cs) (g.level cs) := by
  cases cs with
  | nil =>
    rw [Condition.renderAll, g.level_nil]
    exact g.empty
  | cons c cs =>
    rw [Condition.renderAll, g.level_cons]
    exact (gathers_tree c).append (gathers_level cs)

end

theorem clause (cs : Conditions) : g.Gathers cs.clause (g.level cs.items) := by
  unfold Conditions.clause
  split
  · rename_i hempty
    rw [List.isEmpty_iff.mp hempty, g.level_nil]
    exact g.empty
  · exact (g.text " WHERE " (by decide)).append (g.gathers_level cs.items)

/-! ## Statements -/

theorem projection (q : Select) : g.Gathers q.projection (q.fields.flatMap g.name) := by
  unfold Select.projection
  split
  · rename_i hempty
    rw [List.isEmpty_iff.mp hempty]
    exact g.text "*" (by decide)
  · exact g.names q.fields

theorem source (q : Select) :
    g.Gathers q.source (g.name q.table ++ g.level q.conditions.items) :=
  ((g.text " FROM " (by decide)).append (g.gathers_name q.table)).append (g.clause q.conditions)

theorem grouping (q : Select) : g.Gathers q.grouping (q.groupBy.flatMap g.name) :=
  g.optional ((g.text " GROUP BY " (by decide)).append (g.names q.groupBy))

theorem order (q : Select) : g.Gathers q.order (q.orderBy.flatMap g.name) := by
  have hdirection : Plain q.direction.sql := by
    cases q.direction <;> decide
  have hall := (((g.text " ORDER BY " (by decide)).append (g.names q.orderBy)).append
    (g.text " " (by decide))).append (g.text _ hdirection)
  simp only [List.append_nil, List.nil_append] at hall
  exact g.optional hall

theorem select (q : Select) : g.Gathers q.render
    (q.fields.flatMap g.name ++ (g.name q.table ++ g.level q.conditions.items) ++
      q.groupBy.flatMap g.name ++ q.orderBy.flatMap g.name) := by
  have hrows := (((g.text "SELECT " (by decide)).append (g.projection q)).append
    (g.source q)).append (g.grouping q)
  have hall := ((hrows.append (g.order q)).append (g.bound " LIMIT " (by decide) q.limit)).append
    (g.bound " OFFSET " (by decide) q.offset)
  simp only [List.append_nil, List.nil_append] at hall
  exact hall

theorem columns (q : Insert) : g.Gathers
    (.text "INSERT INTO " ++ .ident q.target.name ++ .text " (" ++ .idents q.values.keys ++
      .text ") VALUES (")
    (g.name q.target.name ++ q.values.keys.flatMap g.name) := by
  have htarget := (g.text "INSERT INTO " (by decide)).append (g.gathers_name q.target.name)
  have hall := ((htarget.append (g.text " (" (by decide))).append (g.names q.values.keys)).append
    (g.text ") VALUES (" (by decide))
  simp only [List.append_nil, List.nil_append] at hall
  exact hall

theorem assignments (q : Update) :
    g.Gathers q.assignments (q.values.entries.flatMap g.assignment) :=
  g.optional ((g.text " SET " (by decide)).append (g.list g.gathers_assignment _))

theorem update (q : Update) : g.Gathers q.render
    (g.name q.target.name ++ q.values.entries.flatMap g.assignment ++
      g.level q.conditions.items) := by
  have htarget := (g.text "UPDATE " (by decide)).append (g.gathers_name q.target.name)
  have hall := ((htarget.append (g.assignments q)).append (g.clause q.conditions)).append
    (g.bound " LIMIT " (by decide) q.limit)
  simp only [List.append_nil, List.nil_append] at hall
  exact hall

theorem delete (q : Delete) : g.Gathers q.render
    (g.name q.table ++ g.level q.conditions.items) := by
  have htarget := (g.text "DELETE FROM " (by decide)).append (g.gathers_name q.table)
  have hall := ((htarget.append (g.clause q.conditions)).append
    (g.bound " LIMIT " (by decide) q.limit)).append (g.bound " OFFSET " (by decide) q.offset)
  simp only [List.append_nil, List.nil_append] at hall
  exact hall

end Gathering

end Placeholder

end SqlClient
