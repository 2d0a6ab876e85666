import SqlClient.Proofs.Placeholder

/-! # Question marks in names

The number of placeholders is counted in the finished text. A name keeps its question marks when it
is quoted, so the count exceeds the number of values by those that stand in names.
-/
namespace SqlClient

/-! ## Question marks in quoted names -/

namespace Ident

def questionMarks (i : Ident) : Nat := i.name.toList.count '?'

theorem count_parts (cs : List Char) : (parts cs).flatten.count '?' = cs.count '?' := by
  induction cs with
  | nil => rfl
  | cons c cs ih =>
    obtain ⟨p, ps, hp⟩ := List.exists_cons_of_ne_nil (parts_ne_nil cs)
    rw [hp] at ih
    unfold parts
    rw [hp]
    by_cases hc : c = '.'
    · rw [if_pos hc, hc, List.count_cons_of_ne (by decide), ← ih]
      rfl
    · rw [if_neg hc, List.count_cons, ← ih]
      exact List.count_cons

theorem count_doubleMarks (cs : List Char) : (doubleMarks cs).count '?' = cs.count '?' := by
  induction cs with
  | nil => rfl
  | cons c cs ih =>
    rw [doubleMarks] at ih ⊢
    rw [List.flatMap_cons, List.count_append, ih, List.count_cons]
    by_cases hc : c = mark
    · rw [if_pos hc, hc, List.count_eq_zero.mpr (by decide)]
      simp [mark]
    · rw [if_neg hc, List.count_singleton]
      omega

theorem count_quotePart (part : List Char) : (quotePart part).count '?' = part.count '?' := by
  have hmark : mark ≠ '?' := by decide
  unfold quotePart
  split
  · rfl
  · rw [List.cons_append, List.count_cons_of_ne hmark, List.count_append, count_doubleMarks,
      List.count_singleton, if_neg (by decide), Nat.add_zero]

theorem count_dotted (ps : List (List Char)) :
    (List.intercalate ['.'] (ps.map quotePart)).count '?' = ps.flatten.count '?' := by
  induction ps with
  | nil => rfl
  | cons p ps ih =>
    cases ps with
    | nil => simpa using count_quotePart p
    | cons q qs =>
      rw [List.map_cons, List.map_cons, List.intercalate_cons_cons, List.count_append,
        List.count_append, ← List.map_cons, ih, count_quotePart, List.count_singleton,
        if_neg (by decide), Nat.add_zero, ← List.count_append]
      rfl

/-- Quoting neither adds nor takes away a question mark. -/
theorem count_quoted (i : Ident) : i.quoted.toList.count '?' = i.questionMarks := by
  rw [quoted, String.toList_ofList, quoteChars, count_dotted, count_parts, questionMarks]

end Ident

namespace Placeholder

/-! ## The names of a command -/

mutual

/-- The columns that a tree compares, depth first and from left to right. -/
def treeNames : Condition → List Ident
  | .comparison _ c => [c.column]
  | .group _ items => levelNames items

def levelNames : List Condition → List Ident
  | [] => []
  | c :: cs => treeNames c ++ levelNames cs

end

/-- Every name in a command that is not written by hand, as often as it is written. -/
def names? : Command → Option (List Ident)
  | .select q =>
    some (q.fields ++ q.table :: levelNames q.conditions.items ++ q.groupBy ++ q.orderBy)
  | .insert q => some (q.target.name :: q.values.keys)
  | .update q => some (q.target.name :: q.values.keys ++ levelNames q.conditions.items)
  | .delete q => some (q.table :: levelNames q.conditions.items)
  | .raw _ => none

def questionMarks (names : List Ident) : Nat := (names.flatMap fun i => i.name.toList).count '?'

theorem questionMarks_append (names more : List Ident) :
    questionMarks (names ++ more) = questionMarks names + questionMarks more := by
  rw [questionMarks, List.flatMap_append, List.count_append]
  rfl

theorem questionMarks_singleton (i : Ident) : questionMarks [i] = i.questionMarks := by
  rw [questionMarks, List.flatMap_singleton]
  rfl

theorem questionMarks_eq_zero_iff {names : List Ident} :
    questionMarks names = 0 ↔ ∀ i ∈ names, '?' ∉ i.name.toList := by
  rw [questionMarks, List.count_eq_zero]
  simp

/-! ## What a rendering counts -/

/-- The text has a question mark for each value, and those of these names. -/
def Counts (r : Rendered) (names : List Ident) : Prop :=
  r.placeholders = r.binds.length + questionMarks names

namespace Counts

variable {a b : Rendered} {names more : List Ident}

theorem append (ha : Counts a names) (hb : Counts b more) : Counts (a ++ b) (names ++ more) := by
  unfold Counts Rendered.placeholders at *
  rw [Rendered.sql_append, String.toList_append, List.count_append, ha, hb, Rendered.binds_append,
    List.length_append, questionMarks_append]
  omega

theorem text (t : String) (h : t.toList.count '?' = 0) : Counts (.text t) [] := h

theorem ident (i : Ident) : Counts (.ident i) [i] := by
  unfold Counts
  rw [questionMarks_singleton]
  exact i.count_quoted.trans (Nat.zero_add _).symm

theorem value (v : Value) : Counts (.value v) [] := by
  unfold Rendered.value
  split
  · exact text "null" (by decide)
  · exact (by decide : "?".toList.count '?' = 1)

theorem assignment (e : Ident × Value) : Counts (Update.assignment e) [e.1] :=
  ((ident e.1).append (text " = " (by decide))).append (value e.2)

theorem comparison (c : Comparison) : Counts c.render [c.column] := by
  have hoperator : c.operator.sql.toList.count '?' = 0 := by
    cases c.operator <;> decide
  exact ((((ident c.column).append (text " " (by decide))).append (text _ hoperator)).append
    (text " " (by decide))).append (value c.value)

def gathering : Gathering Ident where
  Gathers := Counts
  name i := [i]
  comparison c := [c.column]
  assignment e := [e.1]
  tree := treeNames
  level := levelNames
  gathers_append := append
  text t h := text t (List.count_eq_zero.mpr fun hmem => (h.ne _ hmem).2 rfl)
  gathers_name := ident
  gathers_comparison := comparison
  gathers_assignment := assignment
  tree_comparison _ _ := by rw [treeNames]
  tree_group _ _ := by rw [treeNames]
  level_nil := by rw [levelNames]
  level_cons _ _ := by rw [levelNames]

theorem gathering_names (columns : List Ident) : columns.flatMap gathering.name = columns :=
  List.flatMap_singleton' columns

theorem select (q : Select) : Counts q.render
    (q.fields ++ q.table :: levelNames q.conditions.items ++ q.groupBy ++ q.orderBy) := by
  have h := gathering.select q
  simp only [gathering_names] at h
  exact h

theorem insert (q : Insert) : Counts q.render (q.target.name :: q.values.keys) := by
  have hcolumns := gathering.columns q
  rw [gathering_names] at hcolumns
  have hvalues : Counts (.list (q.values.values.map .value)) (q.values.values.flatMap fun _ => []) :=
    gathering.list value q.values.values
  rw [List.flatMap_eq_nil_iff.mpr fun _ _ => rfl] at hvalues
  have hall := (hcolumns.append hvalues).append (text ")" (by decide))
  simp only [List.append_nil] at hall
  exact hall

theorem update (q : Update) : Counts q.render
    (q.target.name :: q.values.keys ++ levelNames q.conditions.items) := by
  have h := gathering.update q
  rw [OrderedMap.keys, List.map_eq_flatMap]
  exact h

theorem delete (q : Delete) : Counts q.render (q.table :: levelNames q.conditions.items) :=
  gathering.delete q

end Counts

theorem counts_render {c : Command} {names : List Ident} (h : names? c = some names) :
    Counts c.render names := by
  cases c with
  | select q => cases h; exact .select q
  | insert q => cases h; exact .insert q
  | update q => cases h; exact .update q
  | delete q => cases h; exact .delete q
  | raw q => cases h

/-- As many placeholders are counted as there are values to bind and question marks in the names,
also in what is run for a statement that has been made by calls. The two numbers agree exactly if no
name has a question mark. -/
theorem placeholders_counted {c : Command} {names : List Ident} (h : names? c = some names) :
    c.render.placeholders = c.render.binds.length + questionMarks names ∧
      (c.render.placeholders = c.render.binds.length ↔ ∀ i ∈ names, '?' ∉ i.name.toList) ∧
      ∀ {calls : List StatementCall} {s : Statement}, Statement.Reached calls s → s.command = c →
        s.rendered.placeholders = s.rendered.binds.length + questionMarks names := by
  have hcount := counts_render h
  refine ⟨hcount, ?_, ?_⟩
  · rw [hcount, ← questionMarks_eq_zero_iff]
    omega
  · intro calls s hs hcommand
    rw [(Statement.reached_current hs).rendered, hcommand]
    exact hcount

/-- Two question marks in a column that is compared with null, where there is nothing to bind. -/
theorem marked_column_counted :
    let c := Command.delete
      { table := ⟨"a.b"⟩
        conditions := ⟨[.comparison .none ⟨⟨"?\x60?"⟩, .equal, .null⟩], none⟩ }
    let names : List Ident := [⟨"a.b"⟩, ⟨"?\x60?"⟩]
    names? c = some names ∧ c.render.placeholders = 0 + questionMarks names := by
  intro c names
  have hnames : names? c = some names := by rfl
  exact ⟨hnames, (placeholders_counted hnames).1⟩

/-- A table whose name has a question mark: one placeholder is counted, and there is no value. -/
theorem marked_table_counted_as_placeholder :
    ∃ s, Statement.Reached [] s ∧ s.command = .select { table := ⟨"a?"⟩ } ∧
      s.rendered.sql = "SELECT * FROM \x60a?\x60" ∧ s.rendered.placeholders = 1 ∧
      s.rendered.binds = [] :=
  ⟨Table.select ⟨⟨"a?"⟩, {}⟩, .select _, rfl, rfl, rfl, rfl⟩

end Placeholder

end SqlClient
