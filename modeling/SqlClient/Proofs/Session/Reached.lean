import SqlClient.Proofs.Execution.Work
import SqlClient.Proofs.Reached
import SqlClient.Session

/-! # What sessions can make

The sessions that requests lead to. Their statements have come about by calls, as statements that
stand alone have.
-/
namespace SqlClient

variable {σ : Type} [Connection σ]

open World (Errands HandsOff)

theorem Table.call_errands (t : Table) (w : World σ) (c : TableCall) :
    Errands (fun _ => True) w (t.call w c).2 := by
  cases c with
  | isListed => exact (t.isListed_handsOff w).errands
  | primaryKey => exact (Columns.load_handsOff t w).errands
  | addColumn type column default => exact t.addColumn_errands (fun _ => trivial) type column default w
  | dropColumn column => exact t.dropColumn_errands (fun _ => trivial) column w
  | ensureColumns pairs => exact t.ensureColumns_errands (fun _ => trivial) pairs w
  | settings => exact .idle w
  | isAlive => exact (HandsOff.isAlive w).errands

theorem Columns.call_handsOff (c : Columns) (w : World σ) (call : ColumnsCall) :
    w.HandsOff (c.call w call).world := by
  cases call with
  | refresh => exact c.refresh_handsOff w
  | view => exact .refl w
  | get column => exact .refl w

theorem Except.map_eq_ok {ε α β : Type} {f : α → β} {x : Except ε α} {b : β}
    (h : x.map f = .ok b) : ∃ a, x = .ok a ∧ f a = b := by
  cases x with
  | error e => cases h
  | ok a => exact ⟨a, rfl, Except.ok.inj h⟩

namespace Slot

def statement? : Slot → Option Statement
  | statement s => some s
  | _ => none

/-- The content of a slot has come about by calls. -/
def Made : Slot → Prop
  | statement s => ∃ calls, s.Reached calls
  | group g => g.Built
  | _ => True

/-- No call has been made on it yet. -/
def New : Slot → Prop
  | statement s => s.Reached [] ∧ s.execution.held = none
  | group g => g = {}
  | _ => True

variable {groups : String → Option Conditions} {w : World σ} {slot : Slot} {r : Request}
  {a : After σ Slot Answer}

omit [Connection σ] in
theorem eq_of_statement? {st : Statement} (h : slot.statement? = some st) :
    slot = statement st := by
  cases slot with
  | statement s => rw [Option.some.inj h]
  | table => cases h
  | columns => cases h
  | group => cases h

theorem New.made (h : slot.New) : slot.Made := by
  cases slot with
  | statement s => exact ⟨[], h.1⟩
  | table => trivial
  | columns => trivial
  | group g =>
    cases h
    exact .empty

/-- A call on a slot is a call on its statement, or it leaves the statement, if there is one, as it
is and goes on errands at most. -/
theorem call?_cases (ha : slot.call? groups w r = some a) :
    (∃ s c b, slot = statement s ∧ s.call? groups w c = some b ∧ a.next = statement b.next ∧
        a.world = b.world) ∨
      (a.next.statement? = slot.statement? ∧ w.Errands (fun _ => True) a.world ∧
        ((∀ name g, groups name = some g → g.Built) → slot.Made → a.next.Made)) := by
  unfold call? at ha
  split at ha
  · obtain ⟨name, -, rfl⟩ := Option.map_eq_some_iff.mp ha
    exact Or.inr ⟨rfl, .idle w, fun _ hm => hm⟩
  · next s c =>
    obtain ⟨b, hb, rfl⟩ := Option.map_eq_some_iff.mp ha
    exact Or.inl ⟨s, c, b, rfl, hb, rfl, rfl⟩
  · next s c =>
    obtain ⟨b, hb, rfl⟩ := Option.map_eq_some_iff.mp ha
    exact Or.inl ⟨s, .tree c, b, rfl, hb, rfl, rfl⟩
  · next g c =>
    cases ha
    exact Or.inr ⟨rfl, (HandsOff.notes _ w).errands, fun hg hm => .call groups c hg hm⟩
  · cases ha
    exact Or.inr ⟨rfl, .idle w, fun _ hm => hm⟩
  · next t c =>
    cases ha
    exact Or.inr ⟨rfl, t.call_errands w c, fun _ hm => hm⟩
  · next cs c =>
    cases ha
    exact Or.inr ⟨rfl, (cs.call_handsOff w c).errands, fun _ _ => trivial⟩
  · cases ha

theorem call?_made (hg : ∀ name g, groups name = some g → g.Built) (hm : slot.Made)
    (ha : slot.call? groups w r = some a) : a.next.Made := by
  rcases call?_cases ha with ⟨s, c, b, rfl, hb, hn, -⟩ | ⟨-, -, hmade⟩
  · obtain ⟨calls, hs⟩ := hm
    rw [hn]
    exact ⟨c :: calls, .call hg hs hb⟩
  · exact hmade hg hm

theorem clone_made (hm : slot.Made) : slot.clone.Made := by
  cases slot with
  | statement s =>
    obtain ⟨calls, hs⟩ := hm
    exact ⟨calls, .clone hs⟩
  | table t => trivial
  | columns c => trivial
  | group g => exact hm

end Slot

def Op.opens? : Op → Option String
  | make name _ => some name
  | use _ (.clone target) => some target
  | use _ _ => none

namespace Session

variable {s : Session σ} {name : String}

/-- A session after any requests. Between two of them the driver may have changed. -/
inductive Reached : Session σ → Prop where
  | start (settings : Settings) (driver : σ) : Reached (start settings driver)
  | step {s : Session σ} (op : Op) : Reached s → Reached (s.step op).2
  | driver {s : Session σ} (driver : σ) : Reached s → Reached { s with world.driver := driver }

omit [Connection σ] in
theorem statement?_eq (s : Session σ) (name : String) :
    s.statement? name = (s.slots.get? name).bind Slot.statement? := by
  unfold statement?
  cases s.slots.get? name with
  | none => rfl
  | some slot => cases slot <;> rfl

omit [Connection σ] in
theorem get?_put_self (s : Session σ) (name : String) (slot : Slot) :
    (s.put name slot).slots.get? name = some slot :=
  s.slots.get?_insert_self name slot

omit [Connection σ] in
theorem get?_put_of_ne (s : Session σ) {other : String} (h : other ≠ name) (slot : Slot) :
    (s.put name slot).slots.get? other = s.slots.get? other :=
  s.slots.get?_insert_of_ne h slot

theorem opened_handsOff (s : Session σ) (o : Opening) : s.world.HandsOff (s.opened o).2 := by
  cases o with
  | insert name => exact Table.columnsIfListed_handsOff ⟨name, s.settings⟩ s.world
  | columns name => exact Columns.load_handsOff ⟨name, s.settings⟩ s.world
  | table name => exact .refl s.world
  | select name => exact .refl s.world
  | update name => exact .refl s.world
  | delete name => exact .refl s.world
  | query sql => exact .refl s.world
  | group => exact .refl s.world

theorem opened_new {o : Opening} {slot : Slot} (ho : (s.opened o).1 = .ok slot) : slot.New := by
  cases o with
  | table name =>
    cases ho
    trivial
  | select name =>
    cases ho
    exact ⟨.select _, rfl⟩
  | update name =>
    cases ho
    exact ⟨.update _, rfl⟩
  | delete name =>
    cases ho
    exact ⟨.delete _, rfl⟩
  | query sql =>
    cases ho
    exact ⟨.query _ _, rfl⟩
  | group =>
    cases ho
    rfl
  | insert name =>
    obtain ⟨st, hst, rfl⟩ := Except.map_eq_ok ho
    refine ⟨.insert hst, ?_⟩
    obtain ⟨columns, -, rfl⟩ := Except.map_eq_ok hst
    rfl
  | columns name =>
    obtain ⟨c, -, rfl⟩ := Except.map_eq_ok ho
    trivial

/-- Every slot has come about by calls. -/
def Made (s : Session σ) : Prop := ∀ name slot, s.slots.get? name = some slot → slot.Made

omit [Connection σ] in
theorem Made.put (h : s.Made) {slot : Slot} (hslot : slot.Made) (name : String) :
    (s.put name slot).Made := by
  intro other t ht
  by_cases ho : other = name
  · rw [ho, get?_put_self] at ht
    cases ht
    exact hslot
  · rw [get?_put_of_ne s ho] at ht
    exact h other t ht

omit [Connection σ] in
theorem Made.groups (h : s.Made) (name : String) :
    ∀ other g, s.groupsBeside name other = some g → g.Built := by
  intro other g hg
  unfold groupsBeside at hg
  split at hg
  · cases hg
  · split at hg
    · next g' hslot =>
      cases hg
      exact h other _ hslot
    · cases hg

/-- A step leaves the slots alone, or puts something new into one, or makes a call on one. -/
theorem step_cases (s : Session σ) (op : Op) :
    (∃ w, s.world.HandsOff w ∧ (s.step op).2 = { s with world := w }) ∨
      (∃ name slot w, op.opens? = some name ∧ s.world.HandsOff w ∧ (s.Made → slot.Made) ∧
        (∀ st, slot.statement? = some st → st.execution.held = none) ∧
        (s.step op).2 = { s.put name slot with world := w }) ∨
      ∃ name r slot a, op = .use name r ∧ s.slots.get? name = some slot ∧
        slot.call? (s.groupsBeside name) s.world r = some a ∧
        (s.step op).2 = { s.put name a.next with world := a.world } := by
  cases op with
  | make name o =>
    have hw := s.opened_handsOff o
    rcases hp : s.opened o with ⟨e | slot, w⟩
    · rw [hp] at hw
      refine Or.inl ⟨w, hw, ?_⟩
      unfold Session.step
      dsimp only
      rw [hp]
    · have hnew : slot.New := opened_new (by rw [hp])
      rw [hp] at hw
      refine Or.inr (Or.inl ⟨name, slot, w, rfl, hw, fun _ => hnew.made, ?_, ?_⟩)
      · intro st hst
        cases Slot.eq_of_statement? hst
        exact hnew.2
      · unfold Session.step
        dsimp only
        rw [hp]
  | use name r =>
    have hidle : s.world.HandsOff s.world := .refl s.world
    unfold Session.step use
    dsimp only
    cases hslot : s.slots.get? name with
    | none => exact Or.inl ⟨s.world, hidle, rfl⟩
    | some slot =>
      dsimp only
      split
      · next target =>
        refine Or.inr (Or.inl ⟨target, slot.clone, s.world, rfl, hidle, ?_, ?_, rfl⟩)
        · exact fun hm => Slot.clone_made (hm name slot hslot)
        · intro st hst
          cases slot with
          | statement st' =>
            cases hst
            rfl
          | _ => cases hst
      · split
        · exact Or.inl ⟨s.world, hidle, rfl⟩
        · next a ha => exact Or.inr (Or.inr ⟨name, r, slot, a, rfl, hslot, ha, rfl⟩)

theorem Made.step (h : s.Made) (op : Op) : (s.step op).2.Made := by
  rcases s.step_cases op with ⟨w, -, he⟩ | ⟨name, slot, w, -, -, hslot, -, he⟩ |
    ⟨name, r, slot, a, -, hslot, ha, he⟩
  · rw [he]
    exact h
  · rw [he]
    exact h.put (hslot h) name
  · rw [he]
    exact h.put (Slot.call?_made (h.groups name) (h name slot hslot) ha) name

theorem Reached.made (h : s.Reached) : s.Made := by
  induction h with
  | start =>
    intro name slot hs
    cases hs
  | step op _ ih => exact ih.step op
  | driver _ _ ih => exact ih

/-- Whatever holds of every statement that calls lead to holds of the statements of a session. -/
theorem Reached.statement (h : s.Reached) {st : Statement} (hs : s.statement? name = some st) :
    ∃ calls, st.Reached calls := by
  rw [statement?_eq] at hs
  obtain ⟨slot, hslot, hst⟩ := Option.bind_eq_some_iff.mp hs
  have hm := h.made name slot hslot
  rw [Slot.eq_of_statement? hst] at hm
  exact hm

end Session

end SqlClient
