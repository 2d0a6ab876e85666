import SqlClient.Statement

/-! # What comes before a run

A statement that writes values to a table is checked first, and then its columns are added if that
is asked for. Only after that it is run.
-/
namespace SqlClient

namespace Command

def target? : Command → Option Table
  | insert q => some q.target
  | update q => some q.target
  | _ => none

/-- The values that an insert or update writes, by column. -/
def assigned? : Command → Option (OrderedMap Ident Value)
  | insert q => some q.values
  | update q => some q.values
  | _ => none

def migrates : Command → Bool
  | insert q => q.autoMigrate
  | update q => q.autoMigrate
  | _ => false

def fault? : Command → Option PreflightFault
  | insert q =>
    if !q.missing.isEmpty then some (.missingColumns q.missing)
    else if q.values.isEmpty then some .nothingToInsert
    else none
  | update q => if q.values.isEmpty then some .nothingToSet else none
  | _ => none

variable {c : Command}

theorem target?_edit (c : Command) (e : Edit) : (c.edit e).target? = c.target? := by
  cases c <;> rfl

theorem target?_change? {d : Command} {ch : Change} (h : c.change? ch = some d) :
    d.target? = c.target? := by
  cases c with
  | select q | delete q | raw q =>
    obtain ⟨q', -, rfl⟩ := Option.map_eq_some_iff.mp h
    rfl
  | insert q =>
    obtain ⟨q', hq, rfl⟩ := Option.map_eq_some_iff.mp h
    cases ch <;> cases hq <;> rfl
  | update q =>
    obtain ⟨q', hq, rfl⟩ := Option.map_eq_some_iff.mp h
    cases ch <;> cases hq <;> rfl

end Command

namespace Statement

variable {σ : Type} [Connection σ]

theorem migrate_eq (t : Table) (values : OrderedMap Ident Value) (m : Migration) (w : World σ) :
    (migrate t values m w).1 = (t.ensureColumns values.entries w).1.map (fun _ => ()) ∧
      ((migrate t values m w).2 = (t.ensureColumns values.entries w).2 ∨
        (migrate t values m w).2 =
          (t.ensureColumns values.entries w).2.note (.migrated m t.name)) := by
  unfold migrate
  dsimp only
  cases h : (t.ensureColumns values.entries w).1 with
  | error e => exact ⟨rfl, Or.inl rfl⟩
  | ok added =>
    cases added with
    | nil => exact ⟨rfl, Or.inl rfl⟩
    | cons column rest => exact ⟨rfl, Or.inr rfl⟩

/-- A statement does not pass a check, or it migrates, or there is nothing to do. -/
theorem preflight_cases (s : Statement) (w : World σ) :
    (∃ t f, s.command.target? = some t ∧ s.command.fault? = some f ∧
        s.preflight w = (.error (.preflight t.name f s.rendered), w)) ∨
      s.command.fault? = none ∧
        ((∃ t values m, s.command.target? = some t ∧ s.command.assigned? = some values ∧
            s.command.migrates = true ∧ s.preflight w = migrate t values m w) ∨
          s.command.migrates = false ∧ s.preflight w = (.ok (), w)) := by
  unfold preflight
  cases s.command with
  | select q | delete q | raw q => exact Or.inr ⟨rfl, Or.inr ⟨rfl, rfl⟩⟩
  | insert q =>
    dsimp only [Command.fault?, Command.migrates]
    by_cases hmissing : (!q.missing.isEmpty) = true
    · rw [if_pos hmissing, if_pos hmissing]
      exact Or.inl ⟨q.target, _, rfl, rfl, rfl⟩
    · rw [if_neg hmissing, if_neg hmissing]
      by_cases hempty : q.values.isEmpty = true
      · rw [if_pos hempty, if_pos hempty]
        exact Or.inl ⟨q.target, _, rfl, rfl, rfl⟩
      · rw [if_neg hempty, if_neg hempty]
        cases q.autoMigrate with
        | true => exact Or.inr ⟨rfl, Or.inl ⟨q.target, q.values, .insert, rfl, rfl, rfl, rfl⟩⟩
        | false => exact Or.inr ⟨rfl, Or.inr ⟨rfl, rfl⟩⟩
  | update q =>
    dsimp only [Command.fault?, Command.migrates]
    by_cases hempty : q.values.isEmpty = true
    · rw [if_pos hempty, if_pos hempty]
      exact Or.inl ⟨q.target, _, rfl, rfl, rfl⟩
    · rw [if_neg hempty, if_neg hempty]
      cases q.autoMigrate with
      | true => exact Or.inr ⟨rfl, Or.inl ⟨q.target, q.values, .update, rfl, rfl, rfl, rfl⟩⟩
      | false => exact Or.inr ⟨rfl, Or.inr ⟨rfl, rfl⟩⟩

end Statement

end SqlClient
