import SqlClient.Proofs.Freshness
import SqlClient.Proofs.Migration.Stages

/-! # The work of a statement

A call takes a command through one or more versions, of which each may be run. Nothing else is run
for the statement itself, and errands only count its rows or add columns that it is about to write.
-/
namespace SqlClient

/-- The errors by which a statement that writes to a table is held back before it is run. -/
inductive Table.HoldsBack (t : Table) : QueryError → Prop where
  | checked (f : PreflightFault) (r : Rendered) : HoldsBack t (.preflight t.name f r)
  | migrating {e} : t.Refuses e → HoldsBack t e

namespace Command

/-- The versions that edits of the tree lead to. A connective makes no version of its own. -/
def stages (c : Command) : List Edit → List Command
  | [] => []
  | .join k :: es => (c.edit (.join k)).stages es
  | .append t :: es => c.edit (.append t) :: (c.edit (.append t)).stages es

/-- The versions that a call may run: every stage of a tree that it edits, and else only what it
makes of the command. -/
def versions (groups : String → Option Conditions) (c : Command) : StatementCall → List Command
  | .tree call =>
    match c.conditions? with
    | some here => c.stages (call.reply groups here).edits
    | none => []
  | call => [c.after groups call]

/-- What is read off a command is the same whatever is called on its statement: no edit, no change
and no setting touches it. -/
structure Kept {α : Type} (f : Command → α) : Prop where
  edit : ∀ c e, f (c.edit e) = f c
  change : ∀ {c d ch}, c.change? ch = some d → f d = f c
  limited : ∀ q n, f (select { q with limit := n }) = f (select q)
  inserting : ∀ q b, f (insert { q with autoMigrate := b }) = f (insert q)
  updating : ∀ q b, f (update { q with autoMigrate := b }) = f (update q)

namespace Kept

variable {α : Type} {f : Command → α} {c d : Command} {groups : String → Option Conditions}
  {call : StatementCall}

theorem edits (h : Kept f) (c : Command) (es : List Edit) :
    f (es.foldl (fun c e => c.edit e) c) = f c := by
  induction es generalizing c with
  | nil => rfl
  | cons e es ih => exact (ih (c.edit e)).trans (h.edit c e)

theorem after (h : Kept f) (groups : String → Option Conditions) (c : Command)
    (call : StatementCall) : f (c.after groups call) = f c := by
  cases call with
  | change ch =>
    unfold Command.after
    dsimp only
    cases hd : c.change? ch with
    | none => rfl
    | some d => exact h.change hd
  | tree t =>
    unfold Command.after
    dsimp only
    cases c.conditions? with
    | none => rfl
    | some here => exact h.edits c _
  | first =>
    cases c with
    | select q => exact h.limited q _
    | _ => rfl
  | autoMigrate b =>
    cases c with
    | insert q => exact h.inserting q b
    | update q => exact h.updating q b
    | _ => rfl
  | _ => rfl

theorem of_mem_stages (h : Kept f) {es : List Edit} (hd : d ∈ c.stages es) : f d = f c := by
  induction es generalizing c with
  | nil => cases hd
  | cons e es ih =>
    cases e with
    | join k => exact (ih hd).trans (h.edit c _)
    | append t =>
      rcases List.mem_cons.mp hd with rfl | hd
      · exact h.edit c _
      · exact (ih hd).trans (h.edit c _)

theorem of_mem_versions (h : Kept f) (hd : d ∈ c.versions groups call) : f d = f c := by
  cases call with
  | tree t =>
    unfold versions at hd
    dsimp only at hd
    cases hc : c.conditions? with
    | none => simp [hc] at hd
    | some here =>
      rw [hc] at hd
      exact h.of_mem_stages hd
  | _ =>
    rw [List.mem_singleton.mp hd]
    exact h.after groups c _

end Kept

theorem kept_target? : Kept target? :=
  ⟨target?_edit, target?_change?, fun _ _ => rfl, fun _ _ => rfl, fun _ _ => rfl⟩

/-- The statement of their own that rows are counted by, if they are. -/
def counting? : Command → Option Rendered
  | select q => some q.count
  | raw q => if q.isSelect then some q.count else none
  | _ => none

/-- What is allowed suffices for a command: for the errands of its migration, if it has one, and for
the errors that may hold it back. -/
structure Licensed (errand : Rendered → Prop) (early : QueryError → Prop) (c : Command) : Prop where
  define : c.migrates = true → ∀ t, c.target? = some t →
    ∀ a : AddColumn, errand (a.render t.settings.dialect)
  refuse : ∀ t, c.target? = some t → ∀ e, t.HoldsBack e → early e

namespace Licensed

variable {errand : Rendered → Prop} {early : QueryError → Prop} {c d : Command}

theorem of_same (h : c.Licensed errand early) (hm : d.migrates = c.migrates)
    (ht : d.target? = c.target?) : d.Licensed errand early := by
  constructor
  · rw [hm, ht]
    exact h.define
  · rw [ht]
    exact h.refuse

theorem of_no_target (ht : c.target? = none) : c.Licensed errand early := by
  constructor
  · intro _ t hc
    rw [ht] at hc
    cases hc
  · intro t hc
    rw [ht] at hc
    cases hc

theorem of_everything : c.Licensed (fun _ => True) fun _ => True :=
  ⟨fun _ _ _ _ => trivial, fun _ _ _ _ => trivial⟩

theorem edit (h : c.Licensed errand early) (e : Edit) : (c.edit e).Licensed errand early :=
  h.of_same (c.migrates_edit e) (c.target?_edit e)

theorem change? (h : c.Licensed errand early) {ch : Change} (hd : c.change? ch = some d) :
    d.Licensed errand early :=
  h.of_same (migrates_change? hd) (target?_change? hd)

end Licensed

end Command

namespace Statement

variable {σ : Type} [Connection σ] {own errand : Rendered → Prop} {early : QueryError → Prop}
  {s : Statement} {calm : Prop}

open World (Errands HandsOff)
open Execution (Acts Works)

def counts? (s : Statement) : StatementCall → Option Rendered
  | .rowCount => s.command.counting?
  | _ => none

/-! ## What comes before a run -/

theorem migrate_errands (t : Table) (hall : ∀ a : AddColumn, errand (a.render t.settings.dialect))
    (values : OrderedMap Ident Value) (m : Migration) (w : World σ) :
    Errands errand w (migrate t values m w).2 := by
  have hadd := t.ensureColumns_errands hall values.entries w
  rcases (migrate_eq t values m w).2 with hw | hw
  · rw [hw]
    exact hadd
  · rw [hw]
    exact hadd.handsOff ((HandsOff.refl _).note _)

theorem preflight_errands (hl : s.command.Licensed errand early) (w : World σ) :
    Errands errand w (s.preflight w).2 := by
  rcases s.preflight_cases w with ⟨t, f, -, -, hp⟩ | ⟨-, ⟨t, values, m, ht, -, hm, hp⟩ | ⟨-, hp⟩⟩
  · rw [hp]
    exact .idle w
  · rw [hp]
    exact migrate_errands t (hl.define hm t ht) values m w
  · rw [hp]
    exact .idle w

/-- What a statement is held back with comes of its table. -/
theorem preflight_holdsBack {e : QueryError} {w : World σ} (he : (s.preflight w).1 = .error e) :
    ∃ t, s.command.target? = some t ∧ t.HoldsBack e := by
  rcases s.preflight_cases w with ⟨t, f, ht, -, hp⟩ | ⟨-, ⟨t, values, m, ht, -, -, hp⟩ | ⟨-, hp⟩⟩
  · rw [hp] at he
    cases he
    exact ⟨t, ht, .checked f _⟩
  · obtain ⟨lacking, done, result, calls, -, hmigrating, hensured⟩ :=
      t.ensureColumns_migrating values.entries w
    rw [hp, (migrate_eq t values m w).1, hensured] at he
    cases result with
    | ok u => cases he
    | error e' =>
      cases he
      exact ⟨t, ht, .migrating hmigrating.refuses⟩
  · rw [hp] at he
    cases he

/-! ## Running and reading -/

theorem execute_acts (hown : own s.rendered) (hl : s.command.Licensed errand early) (w : World σ) :
    Acts own errand early s.execution w (s.execute w).next.execution (s.execute w).world := by
  have hready : Acts own errand early s.execution w s.execution (s.keepRendered.preflight w).2 :=
    .beside (.rest s.execution w) (preflight_errands (s := s.keepRendered) hl w)
  unfold Statement.execute
  dsimp only
  cases hp : (s.keepRendered.preflight w).1 with
  | error e =>
    obtain ⟨t, ht, he⟩ := preflight_holdsBack hp
    exact .heldBack hready (hl.refuse t ht e he)
  | ok u => exact .ran s.rendered hready hown

theorem close_acts (s : Statement) (w : World σ) :
    Acts own errand early s.execution w (s.close w).1.execution (s.close w).2 :=
  .closed (.rest s.execution w)

theorem settle_acts (hown : own s.rendered) (hl : s.command.Licensed errand early) (w : World σ) :
    Acts own errand early s.execution w (s.settle w).1.execution (s.settle w).2 := by
  unfold settle
  split
  · split
    · exact execute_acts hown hl w
    · exact s.close_acts w
  · exact .forgotten (.rest s.execution w)

theorem update_acts {c : Command} (hown : own c.render) (hl : c.Licensed errand early)
    (s : Statement) (w : World σ) :
    Acts own errand early s.execution w (s.update c w).1.execution (s.update c w).2 :=
  settle_acts (s := { s with command := c, cache := none }) hown hl w

theorem edits_acts {es : List Edit} (hown : ∀ c ∈ s.command.stages es, own c.render)
    (hl : s.command.Licensed errand early) (w : World σ) :
    Acts own errand early s.execution w (s.edits es w).1.execution (s.edits es w).2 := by
  unfold edits
  induction es generalizing s w with
  | nil => exact .rest s.execution w
  | cons e es ih =>
    rw [List.foldl_cons]
    have hrest : (s.edit w e).1.command.Licensed errand early := by
      rw [s.edit_command]
      exact hl.edit e
    cases e with
    | join k => exact ih (s := { s with command := s.command.edit (.join k) }) hown hrest w
    | append t =>
      have hfirst : own (s.command.edit (.append t)).render := hown _ List.mem_cons_self
      have hlater : ∀ c ∈ (s.edit w (.append t)).1.command.stages es, own c.render := by
        rw [s.edit_command]
        exact fun c hc => hown c (List.mem_cons_of_mem _ hc)
      exact (update_acts hfirst (hl.edit (.append t)) s w).trans (ih hlater hrest _)

theorem ensureExecuted_acts (hown : own s.rendered) (hl : s.command.Licensed errand early)
    (w : World σ) :
    Acts own errand early s.execution w (s.ensureExecuted w).next.execution
      (s.ensureExecuted w).world := by
  unfold ensureExecuted
  split
  · exact .rest s.execution w
  · split
    · exact .rest s.execution w
    · exact execute_acts hown hl w
  · exact execute_acts hown hl w
  · exact execute_acts hown hl w

def Fetches {α : Type} (reading : Execution → Except QueryError α × Execution) : Prop :=
  ∀ x : Execution, x.Fetched (reading x).2

theorem read_acts {α : Type} {reading : Execution → Except QueryError α × Execution}
    (hf : Fetches reading) (hown : own s.rendered) (hl : s.command.Licensed errand early)
    (w : World σ) :
    Acts own errand early s.execution w (s.read reading w).next.execution
      (s.read reading w).world := by
  have he := ensureExecuted_acts hown hl w
  unfold read
  dsimp only
  split
  · exact he
  · exact he.fetched (hf _)

theorem fetch_acts (hown : own s.rendered) (hl : s.command.Licensed errand early) (f : Fetch)
    (w : World σ) :
    Acts own errand early s.execution w (s.fetch f w).next.execution (s.fetch f w).world :=
  read_acts (fun x => .one x f) hown hl w

theorem set_acts (hown : own s.rendered) (hl : s.command.Licensed errand early) (w : World σ) :
    Acts own errand early s.execution w (s.set w).next.execution (s.set w).world := by
  unfold Statement.set
  refine read_acts (fun x => ?_) hown hl w
  exact Execution.fetched_all x

theorem affectedRows_acts (hown : own s.rendered) (hl : s.command.Licensed errand early)
    (w : World σ) :
    Acts own errand early s.execution w (s.affectedRows w).next.execution
      (s.affectedRows w).world := by
  unfold affectedRows
  refine read_acts (fun x => ?_) hown hl w
  exact .refl

theorem access_acts (hown : own s.rendered) (hl : s.command.Licensed errand early) (w : World σ)
    (acc : Accessor) :
    Acts own errand early s.execution w (s.access w acc).next.execution (s.access w acc).world := by
  cases acc with
  | row => exact fetch_acts hown hl _ w
  | rowFirst => exact fetch_acts hown hl _ w
  | rowLast => exact fetch_acts hown hl _ w
  | rowAt n => exact fetch_acts hown hl _ w
  | map => exact fetch_acts hown hl _ w
  | set => exact set_acts hown hl w
  | rowStrings => exact fetch_acts hown hl _ w
  | mapStrings => exact fetch_acts hown hl _ w
  | setStrings => exact set_acts hown hl w
  | affectedRows => exact affectedRows_acts hown hl w

theorem rowCount_of_counting {r : Rendered} (h : s.command.counting? = some r) (w : World σ) :
    s.rowCount w = ⟨(s.execution.count r w).1, s, (s.execution.count r w).2⟩ := by
  unfold rowCount
  unfold Command.counting? at h
  split
  · next q hq =>
    rw [hq] at h
    cases h
    rfl
  · next q hq =>
    rw [hq] at h
    by_cases hs : q.isSelect = true
    · simp only [hs, if_true, Option.some.injEq] at h ⊢
      rw [h]
    · simp [hs] at h
  · next hselect hraw =>
    split at h
    · next q hq => exact absurd hq (hselect q)
    · next q hq => exact absurd hq (hraw q)
    · cases h

theorem rowCount_acts (hown : own s.rendered) (hl : s.command.Licensed errand early)
    (hcount : ∀ r, s.command.counting? = some r → errand r) (w : World σ) :
    Acts own errand early s.execution w (s.rowCount w).next.execution (s.rowCount w).world := by
  unfold rowCount
  cases hc : s.command with
  | select q =>
    have hr : s.command.counting? = some q.count := by
      rw [hc]
      rfl
    exact .beside (.rest _ w) (s.execution.count_errands (hcount _ hr) w)
  | raw q =>
    dsimp only
    by_cases hs : q.isSelect = true
    · rw [if_pos hs]
      have hr : s.command.counting? = some q.count := by
        rw [hc]
        exact if_pos hs
      exact .beside (.rest _ w) (s.execution.count_errands (hcount _ hr) w)
    · rw [if_neg hs]
      exact affectedRows_acts hown hl w
  | insert q | update q | delete q => exact affectedRows_acts hown hl w

/-! ## Calls -/

theorem change?_acts {ch : Change} {w : World σ} {p : Statement × World σ}
    (hp : s.change? ch w = some p) {groups : String → Option Conditions}
    (hown : own (s.command.after groups (.change ch)).render)
    (hl : s.command.Licensed errand early) :
    Acts own errand early s.execution w p.1.execution p.2 := by
  obtain ⟨d, hd, rfl⟩ := Option.map_eq_some_iff.mp hp
  have hafter : s.command.after groups (.change ch) = d := by simp [Command.after, hd]
  rw [hafter] at hown
  exact update_acts hown (hl.change? hd) s w

theorem tree?_acts {groups : String → Option Conditions} {c : TreeCall} {w : World σ}
    {a : After σ Statement Answer} (ha : s.tree? groups c w = some a)
    (hown : ∀ d ∈ s.command.versions groups (.tree c), own d.render)
    (hl : s.command.Licensed errand early) :
    Acts own errand early s.execution w a.next.execution a.world := by
  unfold tree? at ha
  unfold Command.versions at hown
  split at ha
  · cases ha
  · next here hhere =>
    cases ha
    rw [hhere] at hown
    have hnotes : Acts own errand early s.execution w s.execution
        ((c.reply groups here).events.foldl World.note w) :=
      .beside (.rest _ w) (HandsOff.notes _ w).errands
    exact hnotes.trans (edits_acts hown hl _)

theorem first?_acts {groups : String → Option Conditions} {w : World σ}
    {a : After σ Statement (Except QueryError (Option Row))} (ha : s.first? w = some a)
    (h : s.Faithful calm) (hown : own (s.command.after groups .first).render) :
    Acts own errand early s.execution w a.next.execution a.world := by
  unfold first? at ha
  split at ha
  · next q hq =>
    have hlimited : s.command.after groups .first = .select { q with limit := some 1 } := by
      rw [hq]
      rfl
    rw [hlimited] at hown
    simp only [Option.some.injEq] at ha
    subst ha
    split
    · next hlimit =>
      have hsame : s.rendered = (Command.select { q with limit := some 1 }).render := by
        rw [h.rendered, hq, ← hlimit]
      exact fetch_acts (hsame ▸ hown) (.of_no_target (by rw [hq]; rfl)) _ w
    · have hu : (s.update (.select { q with limit := some 1 }) w).1.Current False :=
        update_current (fun hc => hc.elim) w
      have hc := s.update_command (.select { q with limit := some 1 }) w
      have hown' := hu.rendered
      rw [hc] at hown'
      refine (update_acts hown (.of_no_target rfl) s w).trans
        (fetch_acts (hown' ▸ hown) (.of_no_target ?_) _ _)
      rw [hc]
      rfl
  · cases ha

/-- A call runs nothing of the statement but its versions. It goes on errands only to count, or for
a migration, and is held back only by the table that it writes to. -/
theorem call?_acts {groups : String → Option Conditions} {w : World σ} {c : StatementCall}
    {a : After σ Statement Answer} (ha : s.call? groups w c = some a) (h : s.Faithful calm)
    (hown : ∀ d ∈ s.command.versions groups c, own d.render)
    (hl : s.command.Licensed errand early) (hcount : ∀ r, s.counts? c = some r → errand r) :
    Acts own errand early s.execution w a.next.execution a.world := by
  have hsame : s.command ∈ s.command.versions groups c → own s.rendered := by
    intro hmem
    rw [h.rendered]
    exact hown _ hmem
  cases c with
  | change ch =>
    obtain ⟨p, hp, rfl⟩ := Option.map_eq_some_iff.mp ha
    exact change?_acts hp (hown _ (List.mem_singleton.mpr rfl)) hl
  | tree c => exact tree?_acts ha hown hl
  | access acc =>
    cases ha
    exact access_acts (hsame (List.mem_singleton.mpr rfl)) hl w acc
  | rowCount =>
    cases ha
    exact rowCount_acts (hsame (List.mem_singleton.mpr rfl)) hl hcount w
  | first =>
    obtain ⟨b, hb, rfl⟩ := Option.map_eq_some_iff.mp ha
    exact first?_acts hb h (hown _ (List.mem_singleton.mpr rfl))
  | execute =>
    cases ha
    exact execute_acts (hsame (List.mem_singleton.mpr rfl)) hl w
  | close =>
    cases ha
    exact s.close_acts w
  | render =>
    cases ha
    exact .rest _ w
  | autoExecute b =>
    cases ha
    exact .configured _ (.rest _ w)
  | isAutoExecute =>
    cases ha
    exact .rest _ w
  | isReady =>
    cases ha
    exact .rest _ w
  | autoMigrate b =>
    obtain ⟨t, ht, rfl⟩ := Option.map_eq_some_iff.mp ha
    unfold autoMigrate? at ht
    split at ht
    · cases ht
      exact .rest _ w
    · cases ht
      exact .rest _ w
    · cases ht
  | requiredColumns =>
    unfold call? at ha
    dsimp only at ha
    split at ha
    · cases ha
      exact .rest _ w
    · cases ha
  | missingColumns =>
    unfold call? at ha
    dsimp only at ha
    split at ha
    · cases ha
      exact .rest _ w
    · cases ha

theorem call?_works {groups : String → Option Conditions} {w : World σ} {c : StatementCall}
    {a : After σ Statement Answer} (ha : s.call? groups w c = some a) (h : s.Faithful calm)
    (hown : ∀ d ∈ s.command.versions groups c, own d.render)
    (hall : s.command.migrates = true ∨ c = .rowCount → ∀ r, errand r) :
    Works own errand s.execution w a.next.execution a.world := by
  have hl : s.command.Licensed errand fun _ => True :=
    ⟨fun hm _ _ _ => hall (Or.inl hm) _, fun _ _ _ _ => trivial⟩
  refine (call?_acts ha h hown hl fun r hr => ?_).works
  cases c with
  | rowCount => exact hall (Or.inr rfl) r
  | _ => cases hr

end Statement

end SqlClient
