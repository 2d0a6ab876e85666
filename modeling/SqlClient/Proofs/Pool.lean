import SqlClient.Command
import SqlClient.Proofs.Execution.Custody
import SqlClient.Proofs.Execution.Work

/-! # Executions that share a connection

Any number of executions take turns on one connection, and every call is written down with the
execution that made it. Whatever their turns are, every handle is kept by the execution that prepared
it, and nothing is executed but what has just been bound.
-/
namespace SqlClient

/-- A statement of any kind but those written by hand. -/
def Command.isBuilt : Command → Bool
  | raw _ => false
  | _ => true

structure Member where
  built : Bool
  execution : Execution

structure Pool (σ : Type) where
  /-- A member keeps its place. -/
  members : List Member := []
  world : World σ
  deeds : List Deed := []

def Rendered.IsBuilt (r : Rendered) : Prop := ∃ c : Command, c.isBuilt = true ∧ r = c.render

namespace Pool

variable {σ : Type}

def held (p : Pool σ) (i : Nat) : Option Handle := p.members[i]?.bind fun m => m.execution.held

def put (p : Pool σ) (i : Nat) (m : Member) : Pool σ := { p with members := p.members.set i m }

/-- The world after calls, with who made them and for which run. -/
def say (p : Pool σ) (doer : Option Nat) (run : Option Rendered) (calls : List Exchange)
    (v : World σ) : Pool σ :=
  { p with world := v, deeds := p.deeds ++ calls.map (Deed.mk doer run) }

variable [Connection σ]

/-- One turn, with the place of the member that acts, if one does. Between the turns the driver may
change as it likes. -/
inductive Step (p : Pool σ) : Option Nat → Pool σ → Prop where
  | joins (m : Member) : m.execution.held = none →
      Step p none { p with members := p.members ++ [m] }
  | outside {calls v} : p.world.Said calls v → (∀ c ∈ calls, c.handle? = none) →
      v.prepared = p.world.prepared → Step p none (p.say none none calls v)
  | rests {i m} (x : Execution) : p.members[i]? = some m → x.held = m.execution.held →
      Step p (some i) (p.put i ⟨m.built, x⟩)
  | runs {i m calls} (r : Rendered) : p.members[i]? = some m → (m.built = true → r.IsBuilt) →
      p.world.Said calls (m.execution.run r p.world).world →
      Step p (some i) ((p.put i ⟨m.built, (m.execution.run r p.world).next⟩).say (some i) (some r)
        calls (m.execution.run r p.world).world)
  | closes {i m calls} : p.members[i]? = some m →
      p.world.Said calls (m.execution.close p.world).2 →
      Step p (some i) ((p.put i ⟨m.built, (m.execution.close p.world).1⟩).say (some i) none
        calls (m.execution.close p.world).2)

/-- Turns in which, of those who were there at first, only the ones that `acts` admits take part. -/
inductive Leads (acts : Nat → Prop) (p : Pool σ) : Pool σ → Prop where
  | refl : Leads acts p p
  | tail {q u k} : Leads acts p q → q.Step k u →
      (∀ i, k = some i → acts i ∨ p.members.length ≤ i) → Leads acts p u

/-! ## Every handle is kept -/

/-- The handles are kept as the members hold them, and the deeds are what the world has heard. -/
structure Sound (p : Pool σ) : Prop where
  custody : Custody p.held p.world.prepared none p.deeds
  told : p.world.history = (p.deeds.map Deed.call).reverse

variable {p q u : Pool σ} {m : Member} {i j : Nat} {k : Option Nat} {acts : Nat → Prop}

omit [Connection σ] in
theorem held_put (hm : p.members[i]? = some m) (m' : Member) :
    (p.put i m').held = Function.update p.held i m'.execution.held := by
  funext j
  unfold held put
  by_cases hj : j = i
  · obtain ⟨hlt, -⟩ := List.getElem?_eq_some_iff.mp hm
    rw [hj, Function.update_self, List.getElem?_set_self hlt]
    rfl
  · rw [Function.update_of_ne hj, List.getElem?_set_ne (Ne.symm hj)]

omit [Connection σ] in
theorem held_of_member (hm : p.members[i]? = some m) : p.held i = m.execution.held := by
  unfold held
  rw [hm]
  rfl

omit [Connection σ] in
theorem held_joins (p : Pool σ) (hm : m.execution.held = none) :
    held { p with members := p.members ++ [m] } = p.held := by
  funext j
  unfold held
  rcases Nat.lt_trichotomy j p.members.length with hj | hj | hj
  · rw [List.getElem?_append_left hj]
  · rw [hj, List.getElem?_concat_length, List.getElem?_eq_none (Nat.le_refl _)]
    exact hm
  · have hlen : (p.members ++ [m]).length ≤ j := by
      rw [List.length_append]
      exact hj
    rw [List.getElem?_eq_none hlen, List.getElem?_eq_none (Nat.le_of_lt hj)]

omit [Connection σ] in
theorem told_say (hs : p.world.history = (p.deeds.map Deed.call).reverse) {calls : List Exchange}
    {v : World σ} (hv : p.world.Said calls v) (doer : Option Nat) (run : Option Rendered) :
    v.history = ((p.say doer run calls v).deeds.map Deed.call).reverse := by
  have hcalls : (calls.map (Deed.mk doer run)).map Deed.call = calls := by
    rw [List.map_map]
    exact List.map_id calls
  unfold World.Said at hv
  unfold say
  rw [hv, hs, List.map_append, hcalls, List.reverse_append]

theorem Step.sound (hp : p.Sound) (hs : p.Step k q) : q.Sound := by
  cases hs with
  | joins m hm =>
    constructor
    · rw [held_joins p hm]
      exact hp.custody
    · exact hp.told
  | outside hv hcalls hn =>
    constructor
    · have hc := hp.custody.outside_all none none hcalls
      rw [← hn] at hc
      exact hc
    · exact told_say hp.told hv none none
  | @rests i m x hm hx =>
    constructor
    · rw [held_put hm, hx, ← held_of_member hm, Function.update_eq_self]
      exact hp.custody
    · exact hp.told
  | @runs i m calls r hm _ hv =>
    obtain ⟨_, _, _, kept, said, hran, hsaid, hnext⟩ := Execution.run_cases m.execution r p.world
    cases hv.unique hsaid
    have hheld : (p.put i ⟨m.built, (m.execution.run r p.world).next⟩).held =
        Function.update p.held i kept := by
      rw [held_put hm]
      rcases hnext with ⟨o, -, -, hn⟩ | ⟨e, -, -, hn⟩
      · rw [hn]
        cases o <;> rfl
      · rw [hn]
        rfl
    rw [← held_of_member hm] at hran
    have hc := hp.custody.ran hran
    constructor
    · rw [← hheld] at hc
      exact hc
    · exact told_say (p := p.put i _) hp.told hv (some i) (some r)
  | @closes i m calls hm hv =>
    obtain ⟨said, hdiscarded, hsaid, hn⟩ :=
      Execution.discard_world { m.execution with cursor := none, fresh := false } p.world
    cases hv.unique hsaid
    have hheld : (p.put i ⟨m.built, (m.execution.close p.world).1⟩).held =
        Function.update p.held i none := by
      rw [held_put hm]
      dsimp only
      rw [m.execution.close_held]
    have hd : Execution.Discarded (p.held i) calls := by
      rw [held_of_member hm]
      exact hdiscarded
    have hc := hp.custody.discarded (r := none) (Or.inl rfl) hd
    constructor
    · rw [← hheld, ← hn] at hc
      exact hc
    · exact told_say (p := p.put i _) hp.told hv (some i) none

theorem Leads.sound (hp : p.Sound) (hl : Leads acts p q) : q.Sound := by
  induction hl with
  | refl => exact hp
  | tail _ hs _ ih => exact hs.sound ih

/-! ## Who takes part -/

theorem Step.length_le (hs : p.Step k q) : p.members.length ≤ q.members.length := by
  cases hs with
  | joins m hm =>
    rw [List.length_append]
    exact Nat.le_add_right _ _
  | outside => exact Nat.le_refl _
  | rests => exact Nat.le_of_eq List.length_set.symm
  | runs => exact Nat.le_of_eq List.length_set.symm
  | closes => exact Nat.le_of_eq List.length_set.symm

theorem Leads.length_le (hl : Leads acts p q) : p.members.length ≤ q.members.length := by
  induction hl with
  | refl => exact Nat.le_refl _
  | tail _ hs _ ih => exact Nat.le_trans ih hs.length_le

theorem Leads.mono {acts' : Nat → Prop} (hl : Leads acts p q) (ha : ∀ i, acts i → acts' i) :
    Leads acts' p q := by
  induction hl with
  | refl => exact .refl
  | tail _ hs hk ih => exact .tail ih hs fun i hi => (hk i hi).imp_left (ha i)

theorem Leads.trans (hl : Leads acts p q) (hm : Leads acts q u) : Leads acts p u := by
  induction hm with
  | refl => exact hl
  | tail _ hs ha ih =>
    refine .tail ih hs ?_
    intro i hi
    rcases ha i hi with ha | ha
    · exact Or.inl ha
    · exact Or.inr (Nat.le_trans hl.length_le ha)

/-- A turn leaves alone whoever does not act in it. -/
theorem Step.member_of_ne (hs : p.Step k q) (hm : p.members[j]? = some m) (hj : k ≠ some j) :
    q.members[j]? = some m := by
  have hset : ∀ {i m'}, k = some i → (p.members.set i m')[j]? = some m := by
    intro i m' hi
    rw [List.getElem?_set_ne, hm]
    rintro rfl
    exact hj hi
  cases hs with
  | joins m' hm' =>
    obtain ⟨hlt, -⟩ := List.getElem?_eq_some_iff.mp hm
    rw [List.getElem?_append_left hlt]
    exact hm
  | outside => exact hm
  | rests => exact hset rfl
  | runs => exact hset rfl
  | closes => exact hset rfl

theorem Leads.member_of_not (hl : Leads acts p q) (hm : p.members[j]? = some m) (hj : ¬ acts j) :
    q.members[j]? = some m := by
  induction hl with
  | refl => exact hm
  | tail _ hs ha ih =>
    refine hs.member_of_ne ih ?_
    intro hk
    obtain ⟨hlt, -⟩ := List.getElem?_eq_some_iff.mp hm
    rcases ha j hk with ha | ha
    · exact hj ha
    · exact absurd hlt (Nat.not_lt.mpr ha)

/-! ## The work of executions as turns -/

section Turns

variable {v w : World σ} {x y : Execution} {own errand : Rendered → Prop}

omit [Connection σ] in
theorem place_lt (hm : p.members[i]? = some m) : i < p.members.length :=
  (List.getElem?_eq_some_iff.mp hm).1

theorem Leads.turn (hl : Leads acts p q) (hs : q.Step (some i) u)
    (ha : acts i ∨ p.members.length ≤ i) : Leads acts p u := by
  refine .tail hl hs ?_
  rintro j ⟨⟩
  exact ha

theorem Leads.outside (hl : Leads acts p q) (h : q.world.HandsOff v) :
    ∃ u, Leads acts p u ∧ u.world = v ∧ u.members = q.members := by
  obtain ⟨calls, hsaid, hcalls, hn⟩ := h
  exact ⟨_, .tail hl (.outside hsaid hcalls hn) (by simp), rfl, rfl⟩

theorem Leads.join (hl : Leads acts p q) (m : Member) (hm : m.execution.held = none) :
    ∃ u, Leads acts p u ∧ u.world = q.world ∧ u.members = q.members ++ [m] :=
  ⟨_, .tail hl (.joins m hm) (by simp), rfl, rfl⟩

theorem Leads.rest (hl : Leads acts p q) (hm : q.members[i]? = some m)
    (ha : acts i ∨ p.members.length ≤ i) (x : Execution) (hx : x.held = m.execution.held) :
    ∃ u, Leads acts p u ∧ u.world = q.world ∧ u.members[i]? = some ⟨m.built, x⟩ :=
  ⟨_, hl.turn (.rests x hm hx) ha, rfl, List.getElem?_set_self (place_lt hm)⟩

theorem Leads.run {r : Rendered} (hl : Leads acts p q) (hm : q.members[i]? = some m)
    (ha : acts i ∨ p.members.length ≤ i) (hr : m.built = true → r.IsBuilt) :
    ∃ u, Leads acts p u ∧ u.world = (m.execution.run r q.world).world ∧
      u.members[i]? = some ⟨m.built, (m.execution.run r q.world).next⟩ := by
  obtain ⟨_, _, _, _, calls, -, hsaid, -⟩ := Execution.run_cases m.execution r q.world
  exact ⟨_, hl.turn (.runs r hm hr hsaid) ha, rfl, List.getElem?_set_self (place_lt hm)⟩

theorem Leads.close (hl : Leads acts p q) (hm : q.members[i]? = some m)
    (ha : acts i ∨ p.members.length ≤ i) :
    ∃ u, Leads acts p u ∧ u.world = (m.execution.close q.world).2 ∧
      u.members[i]? = some ⟨m.built, (m.execution.close q.world).1⟩ := by
  obtain ⟨calls, -, hsaid, -⟩ :=
    Execution.discard_world { m.execution with cursor := none, fresh := false } q.world
  exact ⟨_, hl.turn (.closes hm hsaid) ha, rfl, List.getElem?_set_self (place_lt hm)⟩

theorem Leads.errandRun (hl : Leads acts p q) (settings : Settings) (r : Rendered) :
    ∃ i u, Leads acts p u ∧ p.members.length ≤ i ∧
      u.world = (Execution.run { settings } r q.world).world ∧
      u.members[i]? = some ⟨false, (Execution.run { settings } r q.world).next⟩ := by
  obtain ⟨t, ht, hworld, hmembers⟩ := hl.join ⟨false, { settings }⟩ rfl
  have hplace : p.members.length ≤ q.members.length := hl.length_le
  have hm : t.members[q.members.length]? = some ⟨false, { settings }⟩ := by
    rw [hmembers, List.getElem?_concat_length]
  obtain ⟨u, hu, hw, hmem⟩ := ht.run (r := r) hm (Or.inr hplace) (by simp)
  rw [hworld] at hw hmem
  exact ⟨_, u, hu, hplace, hw, hmem⟩

theorem errands_lead (he : World.Errands errand v w) (hp : p.world = v) :
    ∃ q, Leads (fun _ => False) p q ∧ q.world = w := by
  induction he with
  | idle => exact ⟨p, .refl, hp⟩
  | handsOff _ hw ih =>
    obtain ⟨q, hq, rfl⟩ := ih
    obtain ⟨u, hu, hworld, -⟩ := hq.outside hw
    exact ⟨u, hu, hworld⟩
  | ran settings r _ _ ih =>
    obtain ⟨q, hq, rfl⟩ := ih
    obtain ⟨_, u, hu, -, hworld, -⟩ := hq.errandRun settings r
    exact ⟨u, hu, hworld⟩
  | closed settings r x _ _ hx ih =>
    obtain ⟨q, hq, rfl⟩ := ih
    obtain ⟨i, t, ht, hi, hworld, hm⟩ := hq.errandRun settings r
    obtain ⟨s, hs, hsame, hmem⟩ := ht.rest hm (Or.inr hi) x hx
    obtain ⟨u, hu, hend, -⟩ := hs.close hmem (Or.inr hi)
    rw [hsame, hworld] at hend
    exact ⟨u, hu, hend⟩

/-- The member at a place does its work, and members that join go on the errands. -/
theorem works_lead {b : Bool} (hw : Execution.Works own errand x v y w) (hp : p.world = v)
    (hm : p.members[i]? = some ⟨b, x⟩) (hown : ∀ r, own r → b = true → r.IsBuilt) :
    ∃ q, Leads (· = i) p q ∧ q.world = w ∧ q.members[i]? = some ⟨b, y⟩ := by
  induction hw with
  | rest => exact ⟨p, .refl, hp, hm⟩
  | quiet z _ hz ih =>
    obtain ⟨q, hq, rfl, hmem⟩ := ih hp
    exact hq.rest hmem (Or.inl rfl) z hz
  | beside _ he ih =>
    obtain ⟨q, hq, hworld, hmem⟩ := ih hp
    obtain ⟨u, hu, hend⟩ := errands_lead he hworld
    exact ⟨u, hq.trans (hu.mono fun j hj => hj.elim), hend, hu.member_of_not hmem id⟩
  | ran r _ hr ih =>
    obtain ⟨q, hq, rfl, hmem⟩ := ih hp
    exact hq.run hmem (Or.inl rfl) (hown r hr)
  | closed _ ih =>
    obtain ⟨q, hq, rfl, hmem⟩ := ih hp
    exact hq.close hmem (Or.inl rfl)

end Turns

end Pool

end SqlClient
