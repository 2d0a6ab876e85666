import SqlClient.Proofs.Counting.Calls
import SqlClient.Proofs.Reading.Command

/-! # Counting the rows of a select

The statement that counts has the table and the conditions of the select as they are written there,
and so the same values. It is given here by what stands in the text of the select, which is read
section by section.
-/
namespace SqlClient

namespace Reading

def span {α : Type} (p : Reader α) : Reader String := fun i =>
  (p.run i).map fun read =>
    (String.ofList (i.text.take (i.text.length - read.2.text.length)), read.2)

theorem Reads.span {α : Type} {p : Reader α} {r : Rendered} {a : α} {follow : List Char → Prop}
    (h : Reads p r a follow) : Reads (span p) r r.sql follow := by
  intro i hi
  have hrun : (Reading.span p).run (i.behind r) = (p.run (i.behind r)).map fun read =>
      (String.ofList ((i.behind r).text.take ((i.behind r).text.length - read.2.text.length)),
        read.2) := rfl
  rw [hrun, h i hi]
  simp [Input.behind]

def source : Reader (List Condition) := do
  skip " FROM "
  let _ ← name
  after " WHERE " tree []

def groups : Reader (Option String) := do
  let columns ← span names
  return some columns

def behindSource (source : String) : Reader (String × Option String) := do
  let groups ← after " GROUP BY " groups none
  let _ ← after " ORDER BY " ordering none
  let _ ← after " LIMIT " bounding none
  let _ ← after " OFFSET " bounding none
  return (source, groups)

/-- The source of a select and the columns that it groups by, both as they are written. -/
def sections : Reader (String × Option String) := do
  skip "SELECT "
  let _ ← names
  let source ← span source
  behindSource source

def sections? (r : Rendered) : Option (String × Option String) :=
  match sections.run ⟨r.sql.toList, r.binds⟩ with
  | some (parts, ⟨[], []⟩) => some parts
  | _ => none

end Reading

namespace Select

def groups? (q : Select) : Option String :=
  if q.groupBy.isEmpty then none else some (Rendered.idents q.groupBy).sql

end Select

namespace Reading

theorem reads_groups {q : Select} (hne : q.groupBy ≠ []) :
    Reads groups (.idents q.groupBy) q.groups? fun t => Begins endsName t ∧ Unlike ", " t := by
  have hgroups : q.groups? = some (Rendered.idents q.groupBy).sql :=
    if_neg fun hnil => hne (List.isEmpty_iff.mp hnil)
  rw [hgroups]
  exact (reads_names hne).span.map some

def sourceEnds : List String := [" GROUP BY ", " ORDER BY ", " LIMIT ", " OFFSET "]

theorem tail_behindSource (q : Select) (source : String) :
    Tail (behindSource source) (q.grouping ++ (q.order ++ (.bound " LIMIT " q.limit ++
      (.bound " OFFSET " q.offset ++ .empty)))) (source, q.groups?) sourceEnds := by
  have hrest : Tail (do
      let _ ← after " ORDER BY " ordering none
      let _ ← after " LIMIT " bounding none
      let _ ← after " OFFSET " bounding none
      return (source, q.groups?)) (q.order ++ (.bound " LIMIT " q.limit ++
        (.bound " OFFSET " q.offset ++ .empty))) (source, q.groups?)
        [" ORDER BY ", " LIMIT ", " OFFSET "] := by
    refine Tail.order (Tail.bound (Tail.bound (.pure _) ?_ ?_) ?_ ?_) ?_ <;> decide
  unfold behindSource sourceEnds Select.grouping
  split
  · rename_i hempty
    have hnone : q.groups? = none := if_pos hempty
    rw [hnone] at hrest ⊢
    exact Tail.absent (by decide) (by decide) hrest
  · rename_i hne
    have hgroups := reads_groups fun hnil => hne (List.isEmpty_iff.mpr hnil)
    refine Tail.present (hgroups.weaken fun t ht => ⟨?_, ?_⟩) hrest
    · exact ht.begins (by decide)
    · exact ht.unlike (by decide) (by decide)

theorem reads_source {q : Select} (h : Condition.FormedLevel q.conditions.items) :
    Reads source q.source q.conditions.items (Opens sourceEnds) := by
  have hsource : q.source = .text " FROM " ++ (.ident q.table ++ q.conditions.clause) :=
    Rendered.append_assoc _ _ _
  have hclause : Reads (after " WHERE " tree []) q.conditions.clause q.conditions.items
      (Opens sourceEnds) := reads_clause h (by decide)
  rw [hsource]
  unfold source
  refine (Reads.skip " FROM ").bind_any ((reads_name q.table).bind hclause fun t ht => ?_)
  exact (opens_clause q.conditions ht).begins (by decide)

theorem reads_sections {q : Select} (h : Condition.FormedLevel q.conditions.items) :
    Reads sections q.render (q.source.sql, q.groups?) (Opens []) := by
  have hrender : q.render = .text "SELECT " ++ (.idents q.shown ++ (q.source ++ (q.grouping ++
      (q.order ++ (.bound " LIMIT " q.limit ++ (.bound " OFFSET " q.offset ++ .empty)))))) := by
    simp only [Select.render, q.projection_eq, Rendered.append_assoc, Rendered.append_empty]
  have hrest := tail_behindSource q q.source.sql
  rw [hrender]
  unfold sections
  refine (Reads.skip "SELECT ").bind_any ?_
  refine (reads_names q.shown_ne_nil).bind ?_ fun t _ => ?_
  · exact (reads_source h).span.bind hrest.reads hrest.opens
  · have hsource : q.source ++ (q.grouping ++ (q.order ++ (.bound " LIMIT " q.limit ++
        (.bound " OFFSET " q.offset ++ .empty)))) = .text " FROM " ++ (.ident q.table ++
          (q.conditions.clause ++ (q.grouping ++ (q.order ++ (.bound " LIMIT " q.limit ++
            (.bound " OFFSET " q.offset ++ .empty)))))) := by
      simp only [Select.source, Rendered.append_assoc]
    rw [hsource]
    exact ⟨begins_append (by decide) _ t, unlike_append (by decide) _ t⟩

theorem sections?_render {q : Select} (h : Condition.FormedLevel q.conditions.items) :
    sections? q.render = some (q.source.sql, q.groups?) := by
  have hread := reads_sections h ⟨[], []⟩ (Or.inl rfl)
  simp only [Input.behind, List.append_nil] at hread
  rw [sections?, hread]

end Reading

namespace Select

/-- What is counted are the rows of the source, or its groups. -/
def countText (source : String) : Option String → String
  | none => "SELECT COUNT(*)" ++ source
  | some columns => "SELECT COUNT(*) FROM (SELECT " ++ columns ++ source ++ " GROUP BY " ++
      columns ++ ") AS `counted`"

theorem count_sql (q : Select) : q.count.sql = countText q.source.sql q.groups? := by
  unfold count groups? grouping
  by_cases hempty : q.groupBy.isEmpty = true
  · simp only [hempty, if_true]
    rfl
  · have hend : ") AS `counted`" = ") AS " ++ (Rendered.ident ⟨"counted"⟩).sql := by decide
    unfold countText
    rw [if_neg hempty, if_neg hempty, if_neg hempty]
    dsimp only
    rw [hend]
    simp only [Rendered.sql_append, Rendered.text, String.append_assoc]

/-- The text that counts the rows goes on with a word where every select has a name. -/
theorem count_sql_ne (q : Select) : q.count.sql ≠ q.render.sql := by
  intro hsame
  have hcount : "SELECT ".toList ++ "COUNT".toList <+: q.count.sql.toList := by
    have hbegins : ∀ {opening : String} (rest : String),
        "SELECT ".toList ++ "COUNT".toList <+: opening.toList →
          "SELECT ".toList ++ "COUNT".toList <+: (opening ++ rest).toList := by
      intro opening rest h
      rw [String.toList_append]
      exact h.trans (List.prefix_append _ _)
    rw [q.count_sql]
    cases q.groups? with
    | none => exact hbegins _ (by simp)
    | some columns =>
      unfold countText
      exact hbegins _ (hbegins _ (hbegins _ (hbegins _ (hbegins _ (by simp)))))
  have hrender : ∃ rest, q.render = .text "SELECT " ++ (.idents q.shown ++ rest) := by
    refine ⟨q.source ++ (q.grouping ++ (q.order ++ (.bound " LIMIT " q.limit ++
      .bound " OFFSET " q.offset))), ?_⟩
    simp only [render, q.projection_eq, Rendered.append_assoc]
  obtain ⟨rest, hrender⟩ := hrender
  have hname := Reading.unlike_idents (s := "COUNT") q.shown_ne_nil (by decide) rest []
  rw [hsame, hrender, Rendered.sql_append, String.toList_append] at hcount
  apply hname
  rw [List.append_nil]
  exact (List.prefix_append_right_inj _).mp hcount

theorem count_binds (q : Select) : q.count.binds = q.source.binds := by
  unfold count grouping
  by_cases hempty : q.groupBy.isEmpty = true
  · simp only [hempty, if_true]
    rfl
  · have hbinds := Rendered.binds_idents q.groupBy
    simp [hempty, hbinds, Rendered.text, Rendered.ident]

end Select

namespace Statement

variable {calls : List StatementCall} {s : Statement} {q : Select}

/-- The rows of a select, whatever has been called on it before, are counted by the source and the
groups that stand in its own text, with its own values in their order. A select with the same
table, conditions and groups is counted by the same statement. -/
theorem select_counted_by_its_source (h : Reached calls s) (hq : s.command = .select q) :
    ∃ source, Reading.sections? s.rendered = some (source, q.groups?) ∧
      s.CountsBy ⟨Select.countText source q.groups?, s.rendered.binds⟩ ∧
      ∀ {t : Statement} {q' : Select}, t.command = .select q' → q'.table = q.table →
        q'.conditions.items = q.conditions.items → q'.groupBy = q.groupBy →
        t.CountsBy ⟨Select.countText source q.groups?, s.rendered.binds⟩ := by
  have hrendered : s.rendered = q.render := by
    rw [(reached_current h).rendered, hq]
    rfl
  have hformed := (reached_made h).formed_tree
  rw [hq] at hformed
  have hcount : q.count = ⟨Select.countText q.source.sql q.groups?, q.render.binds⟩ :=
    Rendered.ext q.count_sql (q.count_binds.trans q.binds_render.symm)
  rw [hrendered]
  refine ⟨q.source.sql, Reading.sections?_render hformed, ?_⟩
  rw [← hcount]
  constructor
  · apply countsBy_of_counting
    rw [hq, Command.counting?]
  · intro t q' hq' htable hitems hgroups
    have hsame : q'.count = q.count := by
      simp only [Select.count, Select.source, Select.grouping, Conditions.clause_eq hitems, htable,
        hgroups]
    apply countsBy_of_counting
    rw [hq', Command.counting?, hsame]

/-- A grouped select of which a row has been read counts its groups, and so does one that asks for
another column and has no bound. -/
theorem groups_counted_while_read :
    let compare : StatementCall := .tree (.compare ⟨"a"⟩ .equal (.int 1))
    let group : StatementCall := .change (.groupBy [⟨"g"⟩])
    let r : Rendered :=
      ⟨"SELECT COUNT(*) FROM (SELECT `g` FROM `t` WHERE `a` = ? GROUP BY `g`) AS `counted`", [.int 1]⟩
    ∃ s t : Statement,
      Reached [.access .row, .change (.limit 2), group, compare] s ∧
        Reached [.change (.fields [⟨"b"⟩]), group, compare] t ∧
        s.execution.cursor.isSome ∧ s.CountsBy r ∧ t.CountsBy r := by
  intro compare group r
  let rows : RowSet := { columns := ["g"], rows := [[.int 3], [.int 4]] }
  let w : World Scripted := { driver := { responses := [{ reply := .outcome (.rows ⟨rows, []⟩) }] } }
  have hcompared := (Reached.select ⟨⟨"t"⟩, {}⟩).called (w := w) (c := compare) rfl
  have hgrouped := hcompared.changed (c := .groupBy [⟨"g"⟩]) rfl w
  have hlimited := hgrouped.changed (c := .limit 2) rfl w
  have hs := hlimited.called (w := w) (c := .access .row) rfl
  have ht := hgrouped.changed (c := .fields [⟨"b"⟩]) rfl w
  obtain ⟨source, hread, hcounts, hsame⟩ := select_counted_by_its_source hs rfl
  have hsource : source = " FROM `t` WHERE `a` = ?" := by
    have hformed := (reached_made hs).formed_tree
    rw [(reached_current hs).rendered] at hread
    have hparts := (Reading.sections?_render hformed).symm.trans hread
    cases hparts
    decide
  have hr : (⟨Select.countText source (some (Rendered.idents [⟨"g"⟩]).sql), [.int 1]⟩ : Rendered) =
      r := by
    rw [hsource]
    decide
  refine ⟨_, _, hs, ht, rfl, ?_, ?_⟩
  · rw [← hr]
    exact hcounts
  · rw [← hr]
    exact hsame rfl rfl rfl rfl

end Statement

end SqlClient
