import SqlClient.Proofs.Work

/-! # The table that values are written to

A statement keeps the table that it writes to, whatever is called on it. The texts that it runs are
never those by which columns are added, so the calls of a migration can be told from its own.
-/
namespace SqlClient

theorem AddColumn.head?_render (d : Dialect) (a : AddColumn) :
    (a.render d).sql.toList.head? = some (if a.create then 'C' else 'A') := by
  unfold AddColumn.render
  by_cases hc : a.create = true
  · simp [hc, Rendered.text]
  · simp [hc, Rendered.text]

namespace Command

variable {c : Command} {t u : Table}

theorem head?_render (hc : c.target? = some t) :
    c.render.sql.toList.head? = some 'I' ∨ c.render.sql.toList.head? = some 'U' := by
  cases c with
  | insert q => exact Or.inl (by simp [render, Insert.render, Rendered.text])
  | update q => exact Or.inr (by simp [render, Update.render, Rendered.text])
  | select | delete | raw => cases hc

theorem render_ne_addColumn (hc : c.target? = some t) (d : Dialect) (a : AddColumn) :
    c.render.sql ≠ (a.render d).sql := by
  intro heq
  have hd := a.head?_render d
  rw [← heq] at hd
  rcases head?_render hc with hr | hr
  · rw [hr] at hd
    split at hd <;> cases hd
  · rw [hr] at hd
    split at hd <;> cases hd

/-- An error that holds a statement back is not the one of a run that fails. -/
theorem not_holdsBack_ofDriver (hc : c.target? = some t) (d : DriverError) :
    ¬ u.HoldsBack (.ofDriver d c.render) := by
  have hrun : (QueryError.ofDriver d c.render).run? = some c.render :=
    Execution.run?_ofDriver d c.render
  generalize hq : QueryError.ofDriver d c.render = e at hrun
  intro he
  cases he with
  | checked f r =>
    unfold QueryError.ofDriver at hq
    split at hq <;> cases hq
  | migrating hr =>
    cases hr with
    | unread what d' =>
      have hname : c.render.sql = what.name := by
        rw [Table.readError, Execution.run?_ofDriver] at hrun
        exact (congrArg Rendered.sql (Option.some.inj hrun)).symm
      have hhead := head?_render hc
      rw [hname] at hhead
      cases what <;> revert hhead <;> decide
    | conflict column => cases hrun
    | refused create p d' =>
      rw [Execution.run?_ofDriver] at hrun
      exact render_ne_addColumn hc _ _ (congrArg Rendered.sql (Option.some.inj hrun)).symm

end Command

namespace Statement

variable {s : Statement} {calls : List StatementCall}

/-- The handle that a statement holds is for a text that it has had. -/
theorem reached_held_text (h : Reached calls s) : ∀ k, s.execution.held = some k →
    ∃ c : Command, c.target? = s.command.target? ∧ k.text = c.render.sql := by
  induction h with
  | select | update | delete | query | clone =>
    intro k hk
    cases hk
  | @insert _ _ t w s h =>
    intro k hk
    obtain ⟨required, rfl⟩ := Table.eq_of_insert_ok h
    cases hk
  | @call _ _ _ s groups w c a _ h hc ih =>
    have hacts : Execution.Acts
        (fun r => ∃ c : Command, c.target? = s.command.target? ∧ r = c.render) (fun _ => True)
        (fun _ => True) s.execution w a.next.execution a.world :=
      call?_acts hc (reached_current h).toFaithful
        (fun d hd => ⟨d, Command.kept_target?.of_mem_versions hd, rfl⟩) .of_everything
        fun _ _ => trivial
    intro k hk
    rw [call?_command hc, Command.kept_target?.after]
    rcases hacts.works.held_text k hk with hh | ⟨_, ⟨d, ht, rfl⟩, htext⟩
    · exact ih k hh
    · exact ⟨d, ht, htext⟩

end Statement

end SqlClient
