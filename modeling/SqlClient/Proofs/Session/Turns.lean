import SqlClient.Proofs.Pool
import SqlClient.Proofs.Session.Reached
import SqlClient.Proofs.Work
import SqlClient.Scripted

/-! # Who makes the calls of a session

The statements of a session are members of a pool, each in a place of its own, and a request is a few
turns of the pool: of the statement that it is made on, and of members that join for it. So every
handle of a session belongs to one execution, that of a statement or one made for an errand.
-/
namespace SqlClient

namespace Command

theorem kept_isBuilt : Kept isBuilt where
  edit c e := by cases c <;> rfl
  change {c d ch} h := by cases c <;> obtain ⟨q, -, rfl⟩ := Option.map_eq_some_iff.mp h <;> rfl
  limited _ _ := rfl
  inserting _ _ := rfl
  updating _ _ := rfl

end Command

namespace Session

variable {σ : Type} {s t : Session σ} {p q : Pool σ} {place place' : String → Option Nat}
  {name other : String}

/-- The member of a statement: whether it is built, and its execution. -/
def memberOf (st : Statement) : Member := ⟨st.command.isBuilt, st.execution⟩

structure Placed (s : Session σ) (p : Pool σ) (place : String → Option Nat) : Prop where
  world : p.world = s.world
  member : ∀ name st, s.statement? name = some st →
    ∃ i, place name = some i ∧ p.members[i]? = some (memberOf st)
  apart : ∀ name other st st' i, s.statement? name = some st → s.statement? other = some st' →
    place name = some i → place other = some i → name = other

/-- The member that a request lets act: that of the statement on which it is made. -/
def Acts (s : Session σ) (place : String → Option Nat) (op : Op) (i : Nat) : Prop :=
  ∃ name r st, op = .use name r ∧ s.statement? name = some st ∧ place name = some i

/-- Only a slot that the request opens gets another member, and that is a new one. -/
def Moved (p : Pool σ) (place place' : String → Option Nat) (op : Op) : Prop :=
  ∀ name, place' name = place name ∨
    op.opens? = some name ∧ ∀ i, place' name = some i → p.members.length ≤ i

variable [Connection σ]

/-- A session with the pool that its requests have made, and with the places of its statements. -/
inductive Traced : Session σ → Pool σ → (String → Option Nat) → Prop where
  | start (settings : Settings) (driver : σ) :
      Traced (start settings driver) { world := (start settings driver).world } (fun _ => none)
  | driver {s : Session σ} {p : Pool σ} {place : String → Option Nat} (driver : σ) :
      Traced s p place →
      Traced { s with world.driver := driver } { p with world.driver := driver } place
  | step {s : Session σ} {p q : Pool σ} {place place' : String → Option Nat} (op : Op) :
      Traced s p place → p.Leads (s.Acts place op) q →
      Moved p place place' op → Placed (s.step op).2 q place' → Traced (s.step op).2 q place'

/-! ## Slots -/

omit [Connection σ] in
theorem statement?_put_self (s : Session σ) (name : String) (slot : Slot) (w : World σ) :
    statement? { s.put name slot with world := w } name = slot.statement? := by
  have hget : (s.put name slot).slots.get? name = some slot := s.get?_put_self name slot
  rw [statement?_eq]
  dsimp only
  rw [hget]
  rfl

omit [Connection σ] in
theorem statement?_put_of_ne (s : Session σ) (h : other ≠ name) (slot : Slot) (w : World σ) :
    statement? { s.put name slot with world := w } other = s.statement? other := by
  rw [statement?_eq, statement?_eq]
  dsimp only
  rw [get?_put_of_ne s h slot]

omit [Connection σ] in
theorem Placed.kept (hp : Placed s p place) (hw : q.world = t.world)
    (hs : ∀ name st, t.statement? name = some st → s.statement? name = some st)
    (hm : ∀ (i : Nat) m, p.members[i]? = some m → q.members[i]? = some m) : Placed t q place := by
  constructor
  · exact hw
  · intro name st hst
    obtain ⟨i, hi, hmem⟩ := hp.member name st (hs name st hst)
    exact ⟨i, hi, hm i _ hmem⟩
  · intro name other st st' i hst hst'
    exact hp.apart name other st st' i (hs name st hst) (hs other st' hst')

omit [Connection σ] in
theorem Placed.joined (hp : Placed s p place) {st : Statement} {w : World σ} (hw : q.world = w)
    (hm : q.members = p.members ++ [memberOf st]) :
    Placed { s.put name (.statement st) with world := w } q
      (Function.update place name (some p.members.length)) := by
  have hold : ∀ {other st'}, other ≠ name →
      statement? { s.put name (.statement st) with world := w } other = some st' →
      s.statement? other = some st' := by
    intro other st' hne hst
    rwa [statement?_put_of_ne s hne] at hst
  have hlast : ∀ {other st'}, other ≠ name → s.statement? other = some st' →
      place other ≠ some p.members.length := by
    intro other st' hne hst hi
    obtain ⟨i, hplace, hmem⟩ := hp.member other st' hst
    cases hi.symm.trans hplace
    exact absurd (Pool.place_lt hmem) (Nat.lt_irrefl _)
  constructor
  · exact hw
  · intro other st' hst
    by_cases hne : other = name
    · rw [hne, statement?_put_self] at hst
      cases hst
      rw [hne, Function.update_self, hm]
      exact ⟨_, rfl, List.getElem?_concat_length⟩
    · obtain ⟨i, hi, hmem⟩ := hp.member other st' (hold hne hst)
      rw [Function.update_of_ne hne, hm]
      exact ⟨i, hi, by rw [List.getElem?_append_left (Pool.place_lt hmem)]; exact hmem⟩
  · intro a b st' st'' i ha hb hpa hpb
    by_cases hane : a = name
    · by_cases hbne : b = name
      · rw [hane, hbne]
      · rw [hane, Function.update_self] at hpa
        rw [Function.update_of_ne hbne, ← hpa] at hpb
        exact absurd hpb (hlast hbne (hold hbne hb))
    · rw [Function.update_of_ne hane] at hpa
      by_cases hbne : b = name
      · rw [hbne, Function.update_self] at hpb
        rw [← hpb] at hpa
        exact absurd hpa (hlast hane (hold hane ha))
      · rw [Function.update_of_ne hbne] at hpb
        exact hp.apart a b st' st'' i (hold hane ha) (hold hbne hb) hpa hpb

omit [Connection σ] in
theorem Placed.worked (hp : Placed s p place) {st st' : Statement} {i : Nat}
    (hst : s.statement? name = some st) (hi : place name = some i) {w : World σ}
    (hw : q.world = w) (hm : q.members[i]? = some (memberOf st'))
    (hother : ∀ (j : Nat) m, j ≠ i → p.members[j]? = some m → q.members[j]? = some m) :
    Placed { s.put name (.statement st') with world := w } q place := by
  have hthere : ∀ {other u},
      statement? { s.put name (.statement st') with world := w } other = some u →
      ∃ u', s.statement? other = some u' := by
    intro other u hu
    by_cases hne : other = name
    · exact ⟨st, hne ▸ hst⟩
    · exact ⟨u, by rwa [statement?_put_of_ne s hne] at hu⟩
  constructor
  · exact hw
  · intro other u hu
    by_cases hne : other = name
    · rw [hne, statement?_put_self] at hu
      cases hu
      exact ⟨i, hne ▸ hi, hm⟩
    · rw [statement?_put_of_ne s hne] at hu
      obtain ⟨j, hj, hmem⟩ := hp.member other u hu
      refine ⟨j, hj, hother j _ ?_ hmem⟩
      rintro rfl
      exact hne (hp.apart other name u st j hu hst hj hi)
  · intro a b u u' j ha hb
    obtain ⟨v, hv⟩ := hthere ha
    obtain ⟨v', hv'⟩ := hthere hb
    exact hp.apart a b v v' j hv hv'

/-! ## Steps -/

theorem Placed.called (hp : Placed s p place) {st : Statement} (hm : ∃ calls, st.Reached calls)
    (hst : s.statement? name = some st) {groups : String → Option Conditions} {c : StatementCall}
    {b : After σ Statement Answer} (hb : st.call? groups s.world c = some b) :
    ∃ i q, place name = some i ∧ p.Leads (· = i) q ∧
      Placed { s.put name (.statement b.next) with world := b.world } q place := by
  obtain ⟨calls, hreached⟩ := hm
  obtain ⟨i, hi, hmem⟩ := hp.member name st hst
  have hown : ∀ d ∈ st.command.versions groups c, st.command.isBuilt = true → d.render.IsBuilt := by
    intro d hd hbuilt
    exact ⟨d, (Command.kept_isBuilt.of_mem_versions hd).trans hbuilt, rfl⟩
  have hworks : Execution.Works (fun r => st.command.isBuilt = true → r.IsBuilt) (fun _ => True)
      st.execution s.world b.next.execution b.world :=
    Statement.call?_works hb (Statement.reached_current hreached).toFaithful hown
      (fun _ _ => trivial)
  obtain ⟨q, hq, hworld, hmem'⟩ := Pool.works_lead hworks hp.world hmem (fun r hr => hr)
  have hbuilt : b.next.command.isBuilt = st.command.isBuilt := by
    rw [Statement.call?_command hb]
    exact Command.kept_isBuilt.after groups st.command c
  refine ⟨i, q, hi, hq, hp.worked hst hi hworld ?_ fun j m hj hm => hq.member_of_not hm hj⟩
  rw [hmem']
  unfold memberOf
  rw [hbuilt]

theorem Placed.step (hp : Placed s p place) (hm : s.Made) (op : Op) :
    ∃ q place', p.Leads (s.Acts place op) q ∧ Moved p place place' op ∧
      Placed (s.step op).2 q place' := by
  have hstay : Moved p place place op := fun name => Or.inl rfl
  rcases s.step_cases op with ⟨w, hw, he⟩ | ⟨name, slot, w, hopens, hw, -, hheld, he⟩ |
    ⟨name, r, slot, a, rfl, hslot, ha, he⟩
  · rw [← hp.world] at hw
    obtain ⟨q, hq, hworld, hmem⟩ := Pool.Leads.refl.outside hw
    refine ⟨q, place, hq, hstay, ?_⟩
    rw [he]
    refine hp.kept hworld (fun name st hst => hst) fun i m hi => ?_
    rw [hmem]
    exact hi
  · rw [← hp.world] at hw
    obtain ⟨q, hq, hworld, hmem⟩ := Pool.Leads.refl.outside hw
    rw [he]
    cases hst : slot.statement? with
    | none =>
      refine ⟨q, place, hq, hstay, hp.kept hworld ?_ fun i m hi => ?_⟩
      · intro other st hother
        by_cases hne : other = name
        · rw [hne, statement?_put_self, hst] at hother
          cases hother
        · rwa [statement?_put_of_ne s hne] at hother
      · rw [hmem]
        exact hi
    | some st =>
      obtain ⟨u, hu, hsame, hjoined⟩ := hq.join (memberOf st) (hheld st hst)
      rw [hmem] at hjoined
      rw [Slot.eq_of_statement? hst]
      refine ⟨u, _, hu, ?_, hp.joined (hsame.trans hworld) hjoined⟩
      intro other
      by_cases hne : other = name
      · refine Or.inr ⟨hne ▸ hopens, fun i hi => ?_⟩
        rw [hne, Function.update_self] at hi
        exact Nat.le_of_eq (Option.some.inj hi)
      · exact Or.inl (Function.update_of_ne hne _ _)
  · rw [he]
    have hgroups := hm.groups name
    rcases Slot.call?_cases ha with ⟨st, c, b, rfl, hb, hnext, hworld⟩ | ⟨hsame, herrands, -⟩
    · have hst : s.statement? name = some st := by
        rw [statement?_eq, hslot]
        rfl
      obtain ⟨i, q, hi, hq, hplaced⟩ := hp.called (hm name _ hslot) hst hb
      rw [hnext, hworld]
      refine ⟨q, place, hq.mono ?_, hstay, hplaced⟩
      rintro j rfl
      exact ⟨name, r, st, rfl, hst, hi⟩
    · obtain ⟨q, hq, hworld⟩ := Pool.errands_lead herrands hp.world
      refine ⟨q, place, hq.mono fun j hj => hj.elim, hstay, hp.kept hworld ?_ ?_⟩
      · intro other st hother
        by_cases hne : other = name
        · rw [hne, statement?_put_self, hsame] at hother
          rw [hne, statement?_eq, hslot]
          exact hother
        · rwa [statement?_put_of_ne s hne] at hother
      · exact fun i m hi => hq.member_of_not hi id

theorem Traced.placed (h : Traced s p place) : Placed s p place := by
  induction h with
  | start settings driver =>
    constructor
    · rfl
    · intro name st hst
      cases hst
    · intro name other st st' i hst
      cases hst
  | driver driver _ ih =>
    refine ih.kept ?_ (fun name st hst => hst) fun i m hm => hm
    dsimp only
    rw [ih.world]
  | step op _ _ _ hp _ => exact hp

/-- The pool of a session is sound. -/
theorem Traced.sound (h : Traced s p place) : p.Sound := by
  induction h with
  | start settings driver => exact ⟨Custody.empty, rfl⟩
  | driver driver _ ih => exact ⟨ih.custody, ih.told⟩
  | step op _ hl _ _ ih => exact hl.sound ih

theorem Reached.traced (h : s.Reached) : ∃ p place, Traced s p place := by
  induction h with
  | start settings driver => exact ⟨_, _, .start settings driver⟩
  | driver driver _ ih =>
    obtain ⟨p, place, ht⟩ := ih
    exact ⟨_, place, .driver driver ht⟩
  | step op hs ih =>
    obtain ⟨p, place, ht⟩ := ih
    obtain ⟨q, place', hq, hmoved, hplaced⟩ := ht.placed.step hs.made op
    exact ⟨q, place', .step op ht hq hmoved hplaced⟩

/-! ## Handles -/

/-- In every session each call has one execution that made it, a statement's or an errand's, such
that only its owner makes use of a handle and each call is proper. Between requests an execution
holds the handle that it has opened and not closed, and what has failed has been closed. -/
theorem reached_handles_live_once (h : s.Reached) :
    (∃ p place, Traced s p place) ∧
      ∀ p place, Traced s p place →
        Placed s p place ∧ s.world.history = (p.deeds.map Deed.call).reverse ∧
        Throughout Deed.Proper p.deeds ∧
        (∀ i k, p.held i = some k ↔
          Opened p.deeds k ∧ OnlyBy i p.deeds k ∧ ¬ Closed p.deeds k) ∧
        ∀ k, Broken p.deeds k → Closed p.deeds k := by
  refine ⟨h.traced, fun p place ht => ?_⟩
  obtain ⟨hcustody, htold⟩ := ht.sound
  have hworld : p.world = s.world := ht.placed.world
  rw [hworld] at htold
  refine ⟨ht.placed, htold, hcustody.proper, fun i k => ⟨?_, ?_⟩, fun k hb => ?_⟩
  · exact (hcustody.kept k).owner i
  · rintro ⟨ho, hi, hn⟩
    exact ((hcustody.kept k).holder i ho hi).resolve_right hn
  · rcases (hcustody.kept k).sound hb with hs | hc
    · cases hs
    · exact hc

/-- A delete loses its connection and is executed again on a second handle; its copy gets a third. -/
theorem copied_delete_has_own_handle :
    ∃ (s : Session Scripted) (p : Pool Scripted) (place : String → Option Nat),
      s.Reached ∧ Traced s p place ∧ Throughout Deed.Proper p.deeds ∧
        p.deeds.map Deed.call =
          [.prepare ⟨1, "DELETE FROM `t`"⟩ (.ok ()),
            .execute ⟨1, "DELETE FROM `t`"⟩ (.error ⟨.connectionLost, "gone away"⟩),
            .isAlive false, .close ⟨1, "DELETE FROM `t`"⟩ (.ok ()), .reconnect true,
            .prepare ⟨2, "DELETE FROM `t`"⟩ (.ok ()),
            .execute ⟨2, "DELETE FROM `t`"⟩ (.ok (.affected 0)),
            .prepare ⟨3, "DELETE FROM `t`"⟩ (.ok ()),
            .execute ⟨3, "DELETE FROM `t`"⟩ (.ok (.affected 0))] := by
  have hs := Reached.step (.use "b" (.statement .execute)) <|
    Reached.step (.use "a" (.statement .execute)) <| Reached.step (.use "a" (.clone "b")) <|
    Reached.step (.make "a" (.delete ⟨"t"⟩)) <|
    Reached.start {} ({ responses := [{ reply := .fail ⟨.connectionLost, "gone away"⟩ }] } : Scripted)
  obtain ⟨⟨p, place, ht⟩, hall⟩ := reached_handles_live_once hs
  obtain ⟨-, htold, hproper, -⟩ := hall p place ht
  refine ⟨_, p, place, hs, ht, hproper, ?_⟩
  have hcalls := congrArg List.reverse htold
  rw [List.reverse_reverse] at hcalls
  rw [← hcalls]
  rfl

end Session

end SqlClient
