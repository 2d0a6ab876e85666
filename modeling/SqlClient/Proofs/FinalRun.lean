import SqlClient.Proofs.Execution.Handles
import SqlClient.Proofs.Work
import SqlClient.Scripted

/-! # Which version a call runs

A call that appends at most one element to a tree has one version of the command to run, and that is
the one it leaves. A filter with several elements is run once for each of them, so its driver sees
the statement while it is still less restricted than asked for.
-/
namespace SqlClient

/-! ## Calls with one version -/

def Edit.isAppend : Edit → Bool
  | join _ => false
  | append _ => true

/-- The call appends at most one element. Of a filter only the entries with a value count. -/
def TreeCall.Whole : TreeCall → Prop
  | filter f => (Filter.normalize f.entries).length ≤ 1
  | filterDocument d =>
    ∀ f : Filter, Filter.ofDocument d = .ok f → (Filter.normalize f.entries).length ≤ 1
  | _ => True

def StatementCall.Whole : StatementCall → Prop
  | tree c => c.Whole
  | _ => True

theorem Filter.countP_edits (terms : List (Connective × Term)) :
    (editsOf terms).countP Edit.isAppend = terms.length := by
  induction terms with
  | nil => rfl
  | cons t terms ih =>
    unfold editsOf at ih ⊢
    rw [List.flatMap_cons, List.countP_append, ih, List.length_cons, Nat.add_comm]
    rfl

theorem Edit.countP_group (g : Conditions) : (group g).countP isAppend ≤ 1 := by
  unfold group
  split
  · exact Nat.zero_le 1
  · exact Nat.le_refl 1

theorem Edit.countP_matching (pairs : List (Ident × Value)) :
    (matching pairs).countP isAppend ≤ 1 := by
  unfold matching
  split
  · exact Nat.zero_le 1
  · exact countP_group (equalities pairs)

theorem TreeCall.Whole.countP_edits {c : TreeCall} (h : c.Whole)
    (groups : String → Option Conditions) (here : Conditions) :
    (c.reply groups here).edits.countP Edit.isAppend ≤ 1 := by
  cases c with
  | group body => exact Edit.countP_group _
  | groupOf slot =>
    unfold reply
    split
    · exact Edit.countP_group _
    · exact Nat.zero_le 1
  | matching pairs => exact Edit.countP_matching pairs
  | matchingColumns columns values => exact Edit.countP_matching (columns.zip values)
  | filter f => exact Nat.le_trans (Nat.le_of_eq (Filter.countP_edits _)) h
  | filterDocument d =>
    unfold reply
    cases hd : Filter.ofDocument d with
    | error e => exact Nat.zero_le 1
    | ok f => exact Nat.le_trans (Nat.le_of_eq (Filter.countP_edits _)) (h f hd)
  | compare column operator v => exact Nat.le_refl 1
  | join k => exact Nat.zero_le 1
  | dropped => exact Nat.zero_le 1
  | hasConditions => exact Nat.zero_le 1
  | view => exact Nat.zero_le 1

namespace Command

theorem stages_of_joins {es : List Edit} (h : es.countP Edit.isAppend = 0) (c : Command) :
    c.stages es = [] ∧ (es.foldl (fun c e => c.edit e) c).render = c.render := by
  induction es generalizing c with
  | nil => exact ⟨rfl, rfl⟩
  | cons e es ih =>
    cases e with
    | join k =>
      obtain ⟨hs, hr⟩ := ih (by simpa [Edit.isAppend] using h) (c.edit (.join k))
      exact ⟨hs, hr.trans (c.render_edit_join k)⟩
    | append t => simp [Edit.isAppend] at h

/-- With at most one element appended, the only stage says what the command says in the end. -/
theorem render_of_mem_stages {es : List Edit} (h : es.countP Edit.isAppend ≤ 1) {c d : Command}
    (hd : d ∈ c.stages es) : d.render = (es.foldl (fun c e => c.edit e) c).render := by
  induction es generalizing c with
  | nil => cases hd
  | cons e es ih =>
    cases e with
    | join k => exact ih (by simpa [Edit.isAppend] using h) hd
    | append t =>
      have hzero : es.countP Edit.isAppend = 0 := by
        rw [List.countP_cons_of_pos rfl] at h
        omega
      obtain ⟨hs, hr⟩ := stages_of_joins hzero (c.edit (.append t))
      unfold stages at hd
      rw [hs] at hd
      cases List.mem_singleton.mp hd
      exact hr.symm

theorem render_of_mem_versions {groups : String → Option Conditions} {call : StatementCall}
    (h : call.Whole) {c d : Command} (hd : d ∈ c.versions groups call) :
    d.render = (c.after groups call).render := by
  cases call with
  | tree call =>
    cases hc : c.conditions? with
    | none => simp [versions, hc] at hd
    | some here =>
      have hversions : c.versions groups (.tree call) = c.stages (call.reply groups here).edits := by
        simp [versions, hc]
      have hafter : c.after groups (.tree call) =
          (call.reply groups here).edits.foldl (fun c e => c.edit e) c := by
        simp [after, hc]
      rw [hversions] at hd
      rw [hafter]
      exact render_of_mem_stages (TreeCall.Whole.countP_edits h groups here) hd
  | _ => rw [List.mem_singleton.mp hd]

end Command

/-! ## What the driver executes -/

variable {σ : Type} [Connection σ]

theorem Execution.Works.executes {own : Rendered → Prop} {x y : Execution} {u v : World σ}
    (h : Works own (fun _ => False) x u y v) : ∃ calls, u.Said calls v ∧ Executes own calls := by
  obtain ⟨calls, hs, ht⟩ := h.told
  refine ⟨calls, hs, ht.executes.mono ?_⟩
  rintro r (hr | hr)
  · exact hr
  · exact hr.elim

namespace Statement

open Execution (Executes Works)

/-- A call other than a count executes only versions of its command, each with the values of that
version, and if it appends no more than one element, only the version that it leaves. -/
theorem call_executes_versions {s : Statement} {calls : List StatementCall} (h : Reached calls s)
    (hm : s.command.migrates = false) {groups : String → Option Conditions} {w : World σ}
    {c : StatementCall} (hc : c ≠ .rowCount) {a : After σ Statement Answer}
    (ha : s.call? groups w c = some a) :
    ∃ said, w.Said said a.world ∧
      Executes (fun r => ∃ d ∈ s.command.versions groups c, r = d.render) said ∧
      (c.Whole → Executes (· = a.next.rendered) said) := by
  have hs := reached_current h
  have hquiet : s.command.migrates = true ∨ c = .rowCount → ∀ _ : Rendered, False := by
    rintro (hyes | hcount) -
    · rw [hm] at hyes
      cases hyes
    · exact hc hcount
  have hworks : Works (fun r => ∃ d ∈ s.command.versions groups c, r = d.render) (fun _ => False)
      s.execution w a.next.execution a.world :=
    call?_works ha hs.toFaithful (fun d hd => ⟨d, hd, rfl⟩) hquiet
  obtain ⟨said, hsaid, he⟩ := hworks.executes
  refine ⟨said, hsaid, he, fun hwhole => he.mono ?_⟩
  rintro r ⟨d, hd, rfl⟩
  rw [(hs.call? ha).rendered, call?_command ha]
  exact Command.render_of_mem_versions hwhole hd

/-- A delete that loses its connection while it gets its only condition is never executed without
that condition. -/
theorem lost_delete_executes_final_version :
    let w : World Scripted :=
      { driver := { responses := [{ reply := .fail ⟨.connectionLost, "gone away"⟩ }] } }
    let s := Table.delete ⟨⟨"t"⟩, { autoExecute := true }⟩
    let c : StatementCall := .tree (.filter ⟨[("a", .value (.int 1))]⟩)
    Reached [] s ∧ s.command.migrates = false ∧ c ≠ .rowCount ∧ c.Whole ∧
      ∃ a said, s.call? (fun _ => none) w c = some a ∧ w.Said said a.world ∧
        Executes (· = a.next.rendered) said := by
  intro w s c
  have hs : Reached [] s := .delete _
  have hc : c ≠ .rowCount := by simp [c]
  have hwhole : c.Whole := Nat.le_refl 1
  obtain ⟨a, ha⟩ : ∃ a, s.call? (fun _ => none) w c = some a := ⟨_, rfl⟩
  obtain ⟨said, hsaid, -, he⟩ := call_executes_versions hs rfl hc ha
  exact ⟨hs, rfl, hc, hwhole, a, said, ha, hsaid, he hwhole⟩

/-- A filter of two comparisons executes a delete that has only the first of them. -/
theorem filtered_delete_executes_partial_version :
    ∃ (s : Statement) (w : World Scripted) (c : StatementCall) (a : After Scripted Statement Answer)
      (h : Handle) (answer : Except DriverError Outcome),
      Reached [] s ∧ s.command.migrates = false ∧ s.call? (fun _ => none) w c = some a ∧
        Exchange.execute h answer ∈ a.world.history ∧
        h.text = "DELETE FROM `t` WHERE `a` = ?" ∧
        a.next.rendered.sql = "DELETE FROM `t` WHERE `a` = ? AND `b` = ?" := by
  have hcall : ((Table.delete ⟨⟨"t"⟩, { autoExecute := true }⟩).call? (fun _ => none)
        ({ driver := {} } : World Scripted)
        (.tree (.filter ⟨[("a", .value (.int 1)), ("b", .value (.int 2))]⟩))).map
          (fun a => (a.world.history[5]?, a.next.rendered.sql))
      = some (some (.execute ⟨1, "DELETE FROM `t` WHERE `a` = ?"⟩ (.ok (.affected 0))),
        "DELETE FROM `t` WHERE `a` = ? AND `b` = ?") := by rfl
  obtain ⟨a, ha, hsaid⟩ := Option.map_eq_some_iff.mp hcall
  obtain ⟨hexecuted, hfinal⟩ := Prod.mk.inj hsaid
  exact ⟨_, _, _, a, _, _, .delete _, rfl, ha, List.mem_of_getElem? hexecuted, rfl, hfinal⟩

end Statement

end SqlClient
