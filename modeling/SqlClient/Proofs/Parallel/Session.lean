import SqlClient.Proofs.Parallel.Debug
import SqlClient.Proofs.Parallel.Scripted
import SqlClient.Session

/-! # Sessions side by side

The same requests made in two sessions, whose drivers may close handles and believe to be alive in
ways of their own, and whose settings may differ in how statements are logged. What the sessions
give back, what their slots hold and the calls that they make are the same.
-/
namespace SqlClient

variable {σ τ : Type} [Connection σ] [Connection τ] {R : σ → τ → Prop} {w : World σ} {v : World τ}
  (b : Bool)

omit [Connection σ] [Connection τ] in
theorem Agrees.answered {α : Type} {W : World σ → World τ → Prop} {answer : α → Answer}
    {p : Except QueryError α × World σ} {q : Except QueryError α × World τ}
    (ha : ∀ a, (answer a).withDebug b = answer a) (h : Agrees W Eq p q) :
    Answer.of answer q.1 = (Answer.of answer p.1).withDebug b := by
  rw [h.same, Answer.of_withDebug ha]

theorem Table.call_alike (hR : Counterparts R) (h : w.Alike R v) (t : Table) (c : TableCall) :
    (c ≠ .isAlive → ((t.withDebug b).call v c).1 = (t.call w c).1.withDebug b) ∧
      (t.call w c).2.Alike R ((t.withDebug b).call v c).2 := by
  have L := hR.likeness
  cases c with
  | isListed =>
    have hl := isListed_alike (fun _ => b) L h t
    exact ⟨fun _ => hl.answered b fun _ => rfl, hl.world⟩
  | primaryKey =>
    have hp := primaryKey_alike (fun _ => b) L h t
    exact ⟨fun _ => hp.answered b fun _ => rfl, hp.world⟩
  | addColumn type column default =>
    have ha := addColumn_alike (fun _ => b) L h t type column default
    exact ⟨fun _ => ha.answered b fun _ => rfl, ha.world⟩
  | dropColumn column =>
    have hd := dropColumn_alike (fun _ => b) L h t column
    exact ⟨fun _ => hd.answered b fun _ => rfl, hd.world⟩
  | ensureColumns pairs =>
    have he := ensureColumns_alike (fun _ => b) L h t pairs
    exact ⟨fun _ => he.answered b fun _ => rfl, he.world⟩
  | settings => exact ⟨fun _ => rfl, h⟩
  | isAlive => exact ⟨fun hc => absurd rfl hc, L.isAlive h⟩

theorem Columns.call_alike (hR : Counterparts R) (h : w.Alike R v) (cs : Columns)
    (c : ColumnsCall) :
    After.Agrees (World.Alike R) (fun a d => d = a.withDebug b) (fun a d => d = a.withDebug b)
      (cs.call w c) ((cs.withDebug b).call v c) := by
  cases c with
  | refresh =>
    have hr := refresh_alike (fun _ => b) hR.likeness h cs
    have hnext : ((cs.withDebug b).refresh v).next = (cs.refresh w).next.withDebug b := hr.next
    have hresult : ((cs.withDebug b).refresh v).result = (cs.refresh w).result := hr.same
    refine ⟨?_, hnext, hr.world⟩
    unfold call
    dsimp only
    rw [hresult, hnext]
    cases (cs.refresh w).result <;> rfl
  | view => exact ⟨rfl, rfl, h⟩
  | get column => exact ⟨rfl, rfl, h⟩

namespace Slot

def withDebug (b : Bool) : Slot → Slot
  | statement s => statement (s.withDebug b)
  | table t => table (t.withDebug b)
  | columns c => columns (c.withDebug b)
  | group g => group g

structure Agree (R : σ → τ → Prop) (b : Bool) (r : Request) (a : After σ Slot Answer)
    (c : After τ Slot Answer) : Prop where
  result : r ≠ .table .isAlive → c.result = a.result.withDebug b
  next : c.next = a.next.withDebug b
  world : a.world.Alike R c.world

omit [Connection σ] [Connection τ] in
theorem Agree.of_statement {r : Request} {p : Option (After σ Statement Answer)}
    {q : Option (After τ Statement Answer)}
    (hp : ∀ a, p = some a → a.result.withDebug b = a.result)
    (h : Option.Rel (After.Agrees (World.Alike R) (Statement.Alike (fun _ => b) Eq) Eq) p q) :
    Option.Rel (Agree R b r) (p.map fun a => ⟨a.result, statement a.next, a.world⟩)
      (q.map fun a => ⟨a.result, statement a.next, a.world⟩) := by
  cases h with
  | none => exact .none
  | @some a c h =>
    have hnext := Statement.alike_withDebug_iff.mp h.next
    refine .some ⟨fun _ => ?_, congrArg statement hnext, h.world⟩
    exact h.same.trans (hp a rfl).symm

theorem tableName?_withDebug (slot : Slot) : (slot.withDebug b).tableName? = slot.tableName? := by
  cases slot with
  | statement s => exact s.command.withDebug_table?
  | table | columns | group => rfl

theorem clone_withDebug (slot : Slot) : (slot.withDebug b).clone = slot.clone.withDebug b := by
  cases slot <;> rfl

theorem call?_alike (hR : Counterparts R) (h : w.Alike R v) (groups : String → Option Conditions)
    (slot : Slot) (r : Request) :
    Option.Rel (Agree R b r) (slot.call? groups w r) ((slot.withDebug b).call? groups v r) := by
  have hname : Option.Rel (Agree R b .tableName) (slot.call? groups w .tableName)
      ((slot.withDebug b).call? groups v .tableName) := by
    unfold call?
    dsimp only
    rw [tableName?_withDebug]
    cases slot.tableName? with
    | none => exact .none
    | some name => exact .some ⟨fun _ => rfl, rfl, h⟩
  cases slot with
  | statement s =>
    have hs : s.Alike (fun _ => b) Eq (s.withDebug b) := Statement.alike_withDebug_iff.mpr rfl
    cases r with
    | statement c =>
      exact Agree.of_statement b (fun _ => Statement.call?_withDebug)
        (Statement.call?_alike hR.likeness h hs groups c)
    | tree c =>
      exact Agree.of_statement b (fun _ => Statement.tree?_withDebug)
        (Statement.tree?_alike hR.likeness h hs groups c)
    | tableName => exact hname
    | table | columns | isEmpty | clone => exact .none
  | table t =>
    cases r with
    | table c =>
      have ht := t.call_alike b hR h c
      exact .some ⟨fun hr => ht.1 fun hc => hr (congrArg _ hc), rfl, ht.2⟩
    | tableName => exact hname
    | statement | tree | columns | isEmpty | clone => exact .none
  | columns cs =>
    cases r with
    | columns c =>
      have hc := cs.call_alike b hR h c
      exact .some ⟨fun _ => hc.result, congrArg columns hc.next, hc.world⟩
    | tableName => exact hname
    | statement | tree | table | isEmpty | clone => exact .none
  | group g =>
    cases r with
    | tree c =>
      exact .some ⟨fun _ => (c.reply_withDebug groups g).symm, rfl, hR.likeness.notes h _⟩
    | isEmpty => exact .some ⟨fun _ => rfl, rfl, h⟩
    | tableName => exact hname
    | statement | table | columns | clone => exact .none

end Slot

namespace Session

structure Beside (R : σ → τ → Prop) (b : Bool) (s : Session σ) (t : Session τ) : Prop where
  settings : t.settings = s.settings.withDebug b
  slots : t.slots = s.slots.map (Slot.withDebug b)
  world : s.world.Alike R t.world

variable {b} {s : Session σ} {t : Session τ}

namespace Beside

omit [Connection σ] [Connection τ] in
theorem start {d : σ} {e : τ} (h : R d e) (settings : Settings) :
    Beside R b (Session.start settings d) (Session.start (settings.withDebug b) e) :=
  ⟨rfl, rfl, ⟨h, rfl, rfl⟩⟩

omit [Connection σ] [Connection τ] in
theorem put (h : Beside R b s t) (name : String) {slot : Slot} :
    Beside R b (s.put name slot) (t.put name (slot.withDebug b)) := by
  refine ⟨h.settings, ?_, h.world⟩
  unfold Session.put
  dsimp only
  rw [h.slots, OrderedMap.insert_map]

omit [Connection σ] [Connection τ] in
theorem inWorld (h : Beside R b s t) {w : World σ} {v : World τ} (hw : w.Alike R v) :
    Beside R b { s with world := w } { t with world := v } :=
  ⟨h.settings, h.slots, hw⟩

omit [Connection σ] [Connection τ] in
theorem get? (h : Beside R b s t) (name : String) :
    t.slots.get? name = (s.slots.get? name).map (Slot.withDebug b) := by
  rw [h.slots, OrderedMap.get?_map]

omit [Connection σ] [Connection τ] in
theorem groupsBeside (h : Beside R b s t) (name : String) :
    t.groupsBeside name = s.groupsBeside name := by
  funext other
  unfold Session.groupsBeside
  rw [h.get?]
  split
  · rfl
  · rcases s.slots.get? other with _ | _ | _ | _ | _ <;> rfl

theorem opened (h : Beside R b s t) (hR : Counterparts R) (o : Opening) :
    Agrees (World.Alike R) (fun a c => c = a.map (Slot.withDebug b)) (s.opened o)
      (t.opened o) := by
  unfold Session.opened
  rw [h.settings]
  cases o with
  | insert name =>
    obtain ⟨hanswer, hworld⟩ :=
      Table.insert_alike (fun _ => b) hR.likeness h.world ⟨name, s.settings⟩
    refine ⟨?_, hworld⟩
    dsimp only [Table.mapDebug, Settings.mapDebug, Settings.withDebug] at hanswer ⊢
    generalize (Table.insert ⟨name, s.settings⟩ s.world).1 = p,
      (Table.insert ⟨name, { s.settings with debug := b }⟩ t.world).1 = q at hanswer
    cases hanswer with
    | error e => rfl
    | ok hs =>
      rw [Statement.alike_withDebug_iff.mp hs]
      rfl
  | columns name =>
    have hl := Columns.load_alike (fun _ => b) hR.likeness h.world ⟨name, s.settings⟩
    refine ⟨?_, hl.world⟩
    dsimp only [Table.mapDebug, Settings.mapDebug, Settings.withDebug] at hl ⊢
    rw [hl.answer]
    cases (Columns.load ⟨name, s.settings⟩ s.world).1 <;> rfl
  | table | select | update | delete | query | group => exact ⟨rfl, h.world⟩

/-- A request keeps sessions beside each other, and is answered in the same way unless it asks the
driver whether it is alive. -/
theorem use (h : Beside R b s t) (hR : Counterparts R) (name : String) (r : Request) :
    (r ≠ .table .isAlive → (t.use name r).1 = (s.use name r).1.withDebug b) ∧
      Beside R b (s.use name r).2 (t.use name r).2 := by
  unfold Session.use
  rw [h.get?, h.groupsBeside]
  cases s.slots.get? name with
  | none => exact ⟨fun _ => rfl, h⟩
  | some slot =>
    have hc := slot.call?_alike b hR h.world (s.groupsBeside name) r
    cases r with
    | clone target =>
      refine ⟨fun _ => rfl, ?_⟩
      dsimp only [Option.map]
      rw [Slot.clone_withDebug]
      exact h.put target
    | _ =>
      dsimp only [Option.map]
      generalize slot.call? _ s.world _ = p, (slot.withDebug b).call? _ t.world _ = q at hc
      cases hc with
      | none => exact ⟨fun _ => rfl, h⟩
      | some hc =>
        refine ⟨hc.result, ?_⟩
        dsimp only
        rw [hc.next]
        exact (h.put name).inWorld hc.world

theorem step (h : Beside R b s t) (hR : Counterparts R) (op : Op) :
    ((∀ name, op ≠ .use name (.table .isAlive)) →
        (t.step op).1 = (s.step op).1.withDebug b) ∧
      Beside R b (s.step op).2 (t.step op).2 := by
  cases op with
  | make name o =>
    have ho := h.opened hR o
    unfold Session.step
    dsimp only
    rw [show t.opened o = ((t.opened o).1, (t.opened o).2) from rfl, ho.answer]
    rcases hs : s.opened o with ⟨e | slot, w⟩
    · rw [hs] at ho
      exact ⟨fun _ => rfl, h.inWorld ho.world⟩
    · rw [hs] at ho
      exact ⟨fun _ => rfl, (h.put name).inWorld ho.world⟩
  | use name r =>
    obtain ⟨hanswer, hnext⟩ := h.use hR name r
    exact ⟨fun hop => hanswer fun hr => hop name (congrArg _ hr), hnext⟩

omit [Connection σ] [Connection τ] in
theorem statement? (h : Beside R b s t) (name : String) :
    t.statement? name = (s.statement? name).map (Statement.withDebug b) := by
  unfold Session.statement?
  rw [h.get?]
  rcases s.slots.get? name with _ | _ | _ | _ | _ <;> rfl

end Beside

/-- Two sessions after the same requests. They begin with settings that differ in `debug` at most.
Between two requests both drivers may have changed, as long as they stay related. -/
inductive Abreast (R : σ → τ → Prop) (b : Bool) : Session σ → Session τ → Prop where
  | start {d e} (settings : Settings) : R d e →
      Abreast R b (start settings d) (start (settings.withDebug b) e)
  | step {s : Session σ} {t : Session τ} (op : Op) : Abreast R b s t →
      Abreast R b (s.step op).2 (t.step op).2
  | driver {s : Session σ} {t : Session τ} {d e} : Abreast R b s t → R d e →
      Abreast R b { s with world.driver := d } { t with world.driver := e }

theorem Abreast.beside (hR : Counterparts R) (h : Abreast R b s t) : Beside R b s t := by
  induction h with
  | start settings hd => exact .start hd settings
  | step op _ ih => exact (ih.step hR op).2
  | driver _ hd ih => exact ih.inWorld ⟨hd, ih.world.prepared, ih.world.history⟩

/-- Failures of cleaning up, liveness and `debug` reach the log only: whatever has been requested,
the next request is answered in the same way in both sessions, unless it asks the driver whether it
is alive. Statements render the same, are in the same state and have the same counts and errors, and
the same calls have been made. -/
theorem abreast_apart_from_log (hR : Counterparts R) (h : Abreast R b s t) :
    (∀ op, (∀ name, op ≠ .use name (.table .isAlive)) →
        (t.step op).1 = (s.step op).1.withDebug b) ∧
      t.slots = s.slots.map (Slot.withDebug b) ∧
      (∀ name x, s.statement? name = some x →
        ∃ y, t.statement? name = some y ∧ y.rendered = x.rendered ∧
          y.execution.state = x.execution.state ∧ y.execution.affected = x.execution.affected ∧
          y.execution.lastError = x.execution.lastError) ∧
      t.world.history.map Exchange.call = s.world.history.map Exchange.call := by
  have hb := h.beside hR
  refine ⟨fun op => (hb.step hR op).1, hb.slots, ?_, hb.world.history⟩
  intro name x hx
  refine ⟨x.withDebug b, ?_, x.withDebug_rendered b, rfl, rfl, rfl⟩
  rw [hb.statement?, hx]
  rfl

/-- A delete loses its connection. One of the drivers believes to be alive all the same and cannot
close the handle, and what it says of that is logged. -/
theorem failed_close_only_logged :
    ∃ s t : Session Scripted, Abreast Scripted.Resembles true s t ∧
      (t.step (.use "a" (.statement .rowCount))).1 =
        (s.step (.use "a" (.statement .rowCount))).1.withDebug true ∧
      t.world.history.map Exchange.call = s.world.history.map Exchange.call ∧
      ((t.statement? "a").map fun x => (x.execution.state, x.execution.affected)) =
        some (.executed, some 0) ∧
      s.world.log =
        [.connectionLost "DELETE FROM `t`" ⟨.connectionLost, "gone away"⟩ false,
          .executing false "DELETE FROM `t`", .created {}] ∧
      t.world.log =
        [.closeFailed "DELETE FROM `t`" ⟨.other, "busy"⟩,
          .connectionLost "DELETE FROM `t`" ⟨.connectionLost, "gone away"⟩ true,
          .executing true "DELETE FROM `t`", .created { debug := true }] := by
  let d : Scripted := { responses := [{ reply := .fail ⟨.connectionLost, "gone away"⟩ }] }
  let e : Scripted := { d with closeFaults := [some ⟨.other, "busy"⟩], staysAlive := true }
  have hd : d.Resembles e := ⟨rfl, rfl, rfl, rfl, rfl, rfl⟩
  have hstart : Abreast Scripted.Resembles true (start {} d) (start { debug := true } e) :=
    .start {} hd
  have h := (hstart.step (.make "a" (.delete ⟨"t"⟩))).step (.use "a" (.statement .execute))
  obtain ⟨hanswer, -, -, hcalls⟩ := abreast_apart_from_log Scripted.counterparts_resembles h
  refine ⟨_, _, h, hanswer _ ?_, hcalls, by decide, by decide, by decide⟩
  intro name hop
  cases hop

end Session

end SqlClient
