import SqlClient.Proofs.Freshness
import SqlClient.Proofs.Separator.Level
import SqlClient.Scripted

/-! # The phrases of a statement

A statement is written phrase by phrase in a fixed order. Every call that builds a statement alters
one phrase of it and leaves the others as they are, so each phrase is what the calls about it make of
it, and it does not matter how the calls about different phrases, the runs and the readings of
results are interleaved.
-/
namespace SqlClient

/-- The phrases of all statements, in the order in which they are written. The values of a statement
written by hand are those that are bound to it. -/
inductive Phrase where
  | fields
  | target
  | values
  | conditions
  | groups
  | order
  | limit
  | offset
  deriving DecidableEq

def Phrase.all : List Phrase :=
  [fields, target, values, conditions, groups, order, limit, offset]

inductive Alteration where
  | change (c : Change)
  | edit (e : Edit)

def Change.phrase : Change → Phrase
  | fields _ | addField _ | resetFields => .fields
  | groupBy _ => .groups
  | orderBy _ _ | direction _ => .order
  | limit _ => .limit
  | offset _ => .offset
  | value _ _ | values _ | clearValues | bind _ | binds _ | clearBinds => .values

def Alteration.phrase : Alteration → Phrase
  | change c => c.phrase
  | edit _ => .conditions

/-- What a call alters. The first row is asked for by limiting the rows to one. -/
def StatementCall.alterations (groups : String → Option Conditions) :
    StatementCall → List Alteration
  | change c => [.change c]
  | tree c => (c.reply groups {}).edits.map .edit
  | first => [.change (.limit 1)]
  | _ => []

def Rendered.concat : List Rendered → Rendered
  | [] => empty
  | r :: rs => r ++ concat rs

theorem Phrase.binds_concat {f : Phrase → Rendered}
    (hf : ∀ p, p ≠ .values → p ≠ .conditions → (f p).binds = []) :
    (Rendered.concat (all.map f)).binds = (f .values).binds ++ (f .conditions).binds := by
  simp [all, Rendered.concat, hf, Rendered.empty]

namespace Command

def alter (c : Command) : Alteration → Command
  | .change d => (c.change? d).getD c
  | .edit e => c.edit e

/-- The command with none of its phrases but one. -/
def only (p : Phrase) : Command → Command
  | select q => select
      { table := q.table
        fields := if p = .fields then q.fields else []
        conditions := if p = .conditions then q.conditions else {}
        groupBy := if p = .groups then q.groupBy else []
        orderBy := if p = .order then q.orderBy else []
        direction := if p = .order then q.direction else .ascending
        limit := if p = .limit then q.limit else none
        offset := if p = .offset then q.offset else none }
  | insert q => insert
      { target := q.target, required := q.required
        values := if p = .values then q.values else {} }
  | update q => update
      { target := q.target
        values := if p = .values then q.values else {}
        conditions := if p = .conditions then q.conditions else {}
        limit := if p = .limit then q.limit else none }
  | delete q => delete
      { table := q.table
        conditions := if p = .conditions then q.conditions else {}
        limit := if p = .limit then q.limit else none
        offset := if p = .offset then q.offset else none }
  | raw q => raw ⟨⟨q.run.sql, if p = .values then q.run.binds else []⟩⟩

/-- How a phrase of the command is written; a phrase that it does not have is empty. -/
def written : Command → Phrase → Rendered
  | select q, .fields => .text "SELECT " ++ q.projection
  | select q, .target => .text " FROM " ++ .ident q.table
  | select q, .conditions => q.conditions.clause
  | select q, .groups => q.grouping
  | select q, .order => q.order
  | select q, .limit => .bound " LIMIT " q.limit
  | select q, .offset => .bound " OFFSET " q.offset
  | insert q, .target => .text "INSERT INTO " ++ .ident q.target.name
  | insert q, .values =>
    .text " (" ++ .idents q.values.keys ++ .text ") VALUES (" ++
      .list (q.values.values.map .value) ++ .text ")"
  | update q, .target => .text "UPDATE " ++ .ident q.target.name
  | update q, .values => q.assignments
  | update q, .conditions => q.conditions.clause
  | update q, .limit => .bound " LIMIT " q.limit
  | delete q, .target => .text "DELETE FROM " ++ .ident q.table
  | delete q, .conditions => q.conditions.clause
  | delete q, .limit => .bound " LIMIT " q.limit
  | delete q, .offset => .bound " OFFSET " q.offset
  | raw q, .target => .text q.run.sql
  | raw q, .values => ⟨"", q.run.binds⟩
  | _, _ => .empty

theorem written_only (c : Command) (p : Phrase) : (c.only p).written p = c.written p := by
  cases c <;> cases p <;> rfl

theorem only_alter_of_ne {p : Phrase} {a : Alteration} (h : p ≠ a.phrase) (c : Command) :
    (c.alter a).only p = c.only p := by
  cases a with
  | change d =>
    cases d <;> dsimp only [Alteration.phrase, Change.phrase] at h <;> cases c <;>
      simp [alter, change?, Select.change?, Insert.change?, Update.change?, Delete.change?,
        Raw.change?, only, h]
  | edit e =>
    dsimp only [Alteration.phrase] at h
    cases c <;> simp [alter, edit, only, h]

/-- What an alteration makes of its phrase depends on nothing else. -/
theorem only_alter_phrase (c : Command) (a : Alteration) :
    ((c.only a.phrase).alter a).only a.phrase = (c.alter a).only a.phrase := by
  cases a with
  | change d => cases d <;> cases c <;> rfl
  | edit e => cases c <;> rfl

theorem only_alter_congr {c d : Command} {a : Alteration} (h : c.only a.phrase = d.only a.phrase) :
    (c.alter a).only a.phrase = (d.alter a).only a.phrase := by
  rw [← only_alter_phrase c a, h, only_alter_phrase d a]

theorem only_alters {p : Phrase} {c d : Command} (h : c.only p = d.only p)
    (as : List Alteration) :
    (as.foldl alter c).only p = ((as.filter fun a => a.phrase = p).foldl alter d).only p := by
  induction as generalizing c d with
  | nil => exact h
  | cons a as ih =>
    by_cases ha : a.phrase = p
    · subst ha
      rw [List.filter_cons_of_pos (by simp)]
      exact ih (only_alter_congr h)
    · rw [List.filter_cons_of_neg (by simpa using ha)]
      exact ih ((only_alter_of_ne (Ne.symm ha) c).trans h)

/-- A command is written phrase by phrase. -/
theorem render_eq_concat (c : Command) : c.render = .concat (Phrase.all.map c.written) := by
  cases c with
  | select q =>
    simp [render, Select.render, Select.source, Phrase.all, written, Rendered.concat,
      Rendered.append_assoc]
  | insert q =>
    simp [render, Insert.render, Phrase.all, written, Rendered.concat, Rendered.append_assoc]
  | update q =>
    simp [render, Update.render, Phrase.all, written, Rendered.concat, Rendered.append_assoc]
  | delete q =>
    simp [render, Delete.render, Phrase.all, written, Rendered.concat, Rendered.append_assoc]
  | raw q =>
    apply Rendered.ext <;>
      simp [render, Phrase.all, written, Rendered.concat, Rendered.text, Rendered.empty]

theorem binds_written {c : Command} {p : Phrase} (hv : p ≠ .values) (hc : p ≠ .conditions) :
    (c.written p).binds = [] := by
  cases p with
  | values => exact absurd rfl hv
  | conditions => exact absurd rfl hc
  | _ =>
    cases c <;>
      simp [written, Select.binds_projection, Select.binds_grouping, Select.binds_order,
        Rendered.binds_bound, Rendered.text, Rendered.ident, Rendered.empty]

end Command

namespace Statement

/-- Calls in order, each with the groups that could be named in it. -/
abbrev Calls := List ((String → Option Conditions) × StatementCall)

/-- A statement after calls on another one. A copy counts as what it is a copy of. The driver and the
world may be others at every call. -/
inductive Follows (s : Statement) : Calls → Statement → Prop where
  | begun : Follows s [] s
  | clone {calls t} (h : Follows s calls t) : Follows s calls t.clone
  | call {σ : Type} [Connection σ] {calls t} {groups : String → Option Conditions} {w : World σ}
      {c : StatementCall} {a : After σ Statement Answer} (h : Follows s calls t)
      (hc : t.call? groups w c = some a) : Follows s (calls ++ [(groups, c)]) a.next

def alterations (p : Phrase) (calls : Calls) : List Alteration :=
  (calls.flatMap fun c => c.2.alterations c.1).filter fun a => a.phrase = p

/-- How a phrase is written when nothing but the calls about it has been made. -/
def phraseAfter (s : Statement) (calls : Calls) (p : Phrase) : Rendered :=
  ((alterations p calls).foldl Command.alter s.command).written p

variable {σ : Type} [Connection σ] {s t : Statement} {groups : String → Option Conditions}
  {w : World σ} {c : StatementCall} {a : After σ Statement Answer} {calls : Calls}

/-- Apart from the choice to migrate, a call makes of the command what its alterations make of it. -/
theorem only_call? (ha : s.call? groups w c = some a) (p : Phrase) :
    a.next.command.only p = ((c.alterations groups).foldl Command.alter s.command).only p := by
  rw [call?_command ha]
  cases c with
  | change d => rfl
  | tree call =>
    unfold Command.after StatementCall.alterations
    dsimp only
    rw [List.foldl_map]
    cases hc : s.command.conditions? with
    | none =>
      unfold call? tree? at ha
      simp [hc] at ha
    | some here =>
      dsimp only
      rw [LevelCall.reply_edits_level call here {}]
      rfl
  | first =>
    obtain ⟨b, hb, -⟩ := Option.map_eq_some_iff.mp ha
    unfold first? at hb
    split at hb
    · next q hq =>
      rw [hq]
      rfl
    · cases hb
  | autoMigrate b =>
    unfold Command.after StatementCall.alterations
    cases s.command <;> rfl
  | _ => rfl

theorem Follows.only (h : Follows s calls t) (p : Phrase) :
    t.command.only p = ((alterations p calls).foldl Command.alter s.command).only p := by
  induction h with
  | begun => rfl
  | clone _ ih => exact ih
  | call _ hc ih =>
    unfold alterations at ih ⊢
    rw [only_call? hc, List.flatMap_append, List.flatMap_singleton, List.filter_append,
      List.foldl_append]
    exact Command.only_alters ih _

theorem Follows.current (h : Follows s calls t) (hs : s.Current False) : t.Current False := by
  induction h with
  | begun => exact hs
  | clone _ ih =>
    exact Current.withExecution ih.toFaithful
      (Execution.tells_of_state (by simp [Execution.clone]) (by simp [Execution.clone]))
  | call _ hc ih => exact (ih.call? hc).mono False.elim

theorem Follows.rendered {made : List StatementCall} (hs : Reached made s) (h : Follows s calls t) :
    t.rendered = .concat (Phrase.all.map (s.phraseAfter calls)) := by
  have hphrase : t.command.written = s.phraseAfter calls := by
    funext p
    rw [phraseAfter, ← Command.written_only, h.only p, Command.written_only]
  have hcurrent := h.current ((reached_current hs).mono False.elim)
  rw [hcurrent.rendered, Command.render_eq_concat, hphrase]

/-- After any calls with any answers of the driver a statement is written phrase by phrase in the
fixed order, each phrase as the calls about it alone make it, and the values that are written are
bound before those of the conditions. So two sequences of calls that say the same about each phrase,
in the same order for each, give the same text and the same values, however the calls about different
phrases are interleaved and whatever is run and read in between. -/
theorem rendered_phrase_by_phrase {made made' : List StatementCall} {s' t' : Statement}
    {calls' : Calls} (hs : Reached made s) (hs' : Reached made' s') (hc : s'.command = s.command)
    (h : Follows s calls t) (h' : Follows s' calls' t') :
    t.rendered = .concat (Phrase.all.map (s.phraseAfter calls)) ∧
      t.rendered.binds =
        (s.phraseAfter calls .values).binds ++ (s.phraseAfter calls .conditions).binds ∧
      ((∀ p, alterations p calls' = alterations p calls) → t'.rendered = t.rendered) := by
  have hrendered := h.rendered hs
  refine ⟨hrendered, ?_, fun hsame => ?_⟩
  · rw [hrendered]
    exact Phrase.binds_concat fun p hv hc => Command.binds_written hv hc
  · have hphrase : s'.phraseAfter calls' = s.phraseAfter calls := by
      funext p
      rw [phraseAfter, phraseAfter, hsame p, hc]
    rw [hrendered, h'.rendered hs', hphrase]

/-- The same about each phrase of an update, said in two orders: once it is run before there is a
value to write, and once it is closed in between and run by the last call. -/
theorem update_made_in_two_orders :
    let unnamed : String → Option Conditions := fun _ => none
    let where_ (column : String) (n : Int64) : StatementCall :=
      .tree (.compare ⟨column⟩ .equal (.int n))
    let value : StatementCall := .change (.value ⟨"a"⟩ (.int 1))
    let limit : StatementCall := .change (.limit 3)
    let or : StatementCall := .tree (.join .or)
    let calls := [where_ "b" 2, limit, or, .execute, value, where_ "c" 4].map
      fun c => (unnamed, c)
    let calls' := [value, where_ "b" 2, or, .close, where_ "c" 4, .autoExecute true, limit].map
      fun c => (unnamed, c)
    let s := Table.update ⟨⟨"t"⟩, {}⟩
    ∃ t t', Reached [] s ∧ Follows s calls t ∧ Follows s calls' t' ∧
      (∀ p, alterations p calls' = alterations p calls) ∧ t'.rendered = t.rendered ∧
      t.rendered = ⟨"UPDATE `t` SET `a` = ? WHERE `b` = ? OR `c` = ? LIMIT 3",
        [.int 1, .int 2, .int 4]⟩ := by
  intro unnamed where_ value limit or calls calls' s
  let w : World Scripted := { driver := {} }
  have hs : Reached [] s := .update _
  have hsame : ∀ p, alterations p calls' = alterations p calls := by
    intro p
    cases p <;> rfl
  have called : ∀ {calls : Calls} {t : Statement} {c : StatementCall}
      {a : After Scripted Statement Answer}, Follows s calls t → t.call? unnamed w c = some a →
      Follows s (calls ++ [(unnamed, c)]) a.next := fun h ha => .call h ha
  obtain ⟨t, h⟩ : ∃ t, Follows s calls t := by
    have hlimited := called (c := limit) (called (c := where_ "b" 2) .begun rfl) rfl
    have hrefused := called (c := .execute) (called (c := or) hlimited rfl) rfl
    exact ⟨_, called (called (c := value) hrefused rfl) rfl⟩
  obtain ⟨t', h'⟩ : ∃ t, Follows s calls' t := by
    have hwhere := called (c := where_ "b" 2) (called (c := value) .begun rfl) rfl
    have hclosed := called (c := .close) (called (c := or) hwhere rfl) rfl
    have hfinal := called (c := .autoExecute true) (called (c := where_ "c" 4) hclosed rfl) rfl
    exact ⟨_, called (c := limit) hfinal rfl⟩
  obtain ⟨hrendered, -, hcalls⟩ := rendered_phrase_by_phrase hs hs rfl h h'
  refine ⟨t, t', hs, h, h', hsame, hcalls hsame, hrendered.trans ?_⟩
  decide

end Statement

end SqlClient
