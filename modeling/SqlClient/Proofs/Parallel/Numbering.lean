import SqlClient.Proofs.Parallel.Scripted
import SqlClient.Proofs.Parallel.Statement

/-! # Handles of other numbers

Two drivers that answer alike although the handles have other numbers on the one connection than on
the other. Statements whose handles correspond are then answered alike too, whatever is called.
-/
namespace SqlClient

/-- Related drivers give equal answers to calls on corresponding handles and stay related. How they
close handles and whether they are alive does not matter. -/
structure Consonant {σ τ : Type} [Connection σ] [Connection τ] (K : Handle → Handle → Prop)
    (R : σ → τ → Prop) : Prop where
  text : ∀ {h k}, K h k → k.text = h.text
  prepare : ∀ {d e}, R d e → ∀ {h k}, K h k →
    Echoes R (Connection.prepare h d) (Connection.prepare k e)
  bind : ∀ {d e}, R d e → ∀ {h k}, K h k → ∀ n v,
    Echoes R (Connection.bind h n v d) (Connection.bind k n v e)
  execute : ∀ {d e}, R d e → ∀ {h k}, K h k →
    Echoes R (Connection.execute h d) (Connection.execute k e)
  close : ∀ {d e}, R d e → ∀ {h k}, K h k → R (Connection.close h d).2 (Connection.close k e).2
  isAlive : ∀ {d e}, R d e → R (Connection.isAlive d).2 (Connection.isAlive e).2
  reconnect : ∀ {d e}, R d e → Echoes R (Connection.reconnect d) (Connection.reconnect e)
  listTables : ∀ {d e}, R d e → Echoes R (Connection.listTables d) (Connection.listTables e)
  describeColumns : ∀ {d e}, R d e → ∀ t,
    Echoes R (Connection.describeColumns t d) (Connection.describeColumns t e)

structure World.InStep {σ τ : Type} (K : Handle → Handle → Prop) (R : σ → τ → Prop)
    (w : World σ) (v : World τ) : Prop where
  driver : R w.driver v.driver
  prepared : ∀ n sql, K ⟨w.prepared + n + 1, sql⟩ ⟨v.prepared + n + 1, sql⟩

namespace World.InStep

variable {σ τ : Type} {K : Handle → Handle → Prop} {R : σ → τ → Prop} {w : World σ} {v : World τ}

theorem record {α : Type} (h : w.InStep K R v) {exchange exchange' : α → Exchange} {p : α × σ}
    {q : α × τ} (hp : Echoes R p q) :
    Agrees (World.InStep K R) Eq (w.record exchange p) (v.record exchange' q) :=
  ⟨hp.1.symm, ⟨hp.2, h.prepared⟩⟩

theorem prepare [Connection σ] [Connection τ] (h : w.InStep K R v) (hR : Consonant K R)
    (sql : String) : Agrees (World.InStep K R) (Matches K) (w.prepare sql) (v.prepare sql) := by
  have hk : K ⟨w.prepared + 1, sql⟩ ⟨v.prepared + 1, sql⟩ := h.prepared 0 sql
  obtain ⟨hanswer, hdriver⟩ := hR.prepare h.driver hk
  unfold World.prepare World.record
  dsimp only
  rw [hanswer]
  refine ⟨?_, hdriver, ?_⟩
  · dsimp only
    rcases (Connection.prepare ⟨w.prepared + 1, sql⟩ w.driver).1 with e | _
    · exact .error e
    · exact .ok hk
  · intro n text
    have hlater := h.prepared (n + 1) text
    have hw : w.prepared + 1 + n + 1 = w.prepared + (n + 1) + 1 := by omega
    have hv : v.prepared + 1 + n + 1 = v.prepared + (n + 1) + 1 := by omega
    dsimp only
    rw [hw, hv]
    exact hlater

end World.InStep

theorem Consonant.likeness {σ τ : Type} [Connection σ] [Connection τ]
    {K : Handle → Handle → Prop} {R : σ → τ → Prop} (hR : Consonant K R) :
    Likeness K (World.InStep K R) where
  text := hR.text
  note_left h _ := ⟨h.driver, h.prepared⟩
  note_right h _ := ⟨h.driver, h.prepared⟩
  prepare h sql := h.prepare hR sql
  bind h _ _ hk n x := h.record (hR.bind h.driver hk n x)
  execute h _ _ hk := h.record (hR.execute h.driver hk)
  close h _ _ hk := ⟨hR.close h.driver hk, h.prepared⟩
  isAlive h := ⟨hR.isAlive h.driver, h.prepared⟩
  reconnect h := h.record (hR.reconnect h.driver)
  listTables h := h.record (hR.listTables h.driver)
  describeColumns h table := h.record (hR.describeColumns h.driver table)

namespace Scripted

theorem run_of_text {h k : Handle} (ht : k.text = h.text) (d : Scripted) : d.run k = d.run h := by
  unfold run outcomeOf
  rw [ht]

/-- A script looks at the texts of handles and never at their numbers. -/
theorem consonant_resembles {K : Handle → Handle → Prop} (hK : ∀ {h k}, K h k → k.text = h.text) :
    Consonant K Resembles where
  text := hK
  prepare hd h _ _ := counterparts_resembles.prepare hd h
  bind hd h _ _ n v := counterparts_resembles.bind hd h n v
  execute hd h _ hk := by
    dsimp only [Connection.execute]
    rw [run_of_text (hK hk)]
    exact hd.run h
  close hd h _ _ := counterparts_resembles.close hd h
  isAlive hd := counterparts_resembles.isAlive hd
  reconnect hd := counterparts_resembles.reconnect hd
  listTables hd := counterparts_resembles.listTables hd
  describeColumns hd t := counterparts_resembles.describeColumns hd t

end Scripted

/-! ## Calls one after the other -/

namespace Statement

variable {σ τ : Type} [Connection σ] [Connection τ] {K : Handle → Handle → Prop}
  {R : σ → τ → Prop}

theorem alike_of_held {s : Statement} {h k : Handle} (hh : s.execution.held = some h)
    (hk : K h k) : s.Alike id K { s with execution.held := some k } := by
  have hcommand : s.command.mapDebug id = s.command := by cases s.command <;> rfl
  have hheld : Option.Rel K s.execution.held (some k) := by
    rw [hh]
    exact .some hk
  have hs := Alike.recast (g := id) (s := s) (.recast hheld)
  rw [hcommand] at hs
  exact hs

/-- Two statements, each in its world, after the same calls on both. Between two calls the
connections may be used by others, as long as their drivers stay related. -/
inductive Apace (K : Handle → Handle → Prop) (R : σ → τ → Prop) (s t : Statement) :
    Statement → World σ → Statement → World τ → Prop where
  | start {w v} : w.InStep K R v → Apace K R s t s w t v
  | call {s' w t' v a b} (groups : String → Option Conditions) (c : StatementCall) :
      Apace K R s t s' w t' v → s'.call? groups w c = some a → t'.call? groups v c = some b →
      Apace K R s t a.next a.world b.next b.world
  | between {s' w t' v w' v'} : Apace K R s t s' w t' v → World.InStep K R w' v' →
      Apace K R s t s' w' t' v'

theorem Apace.alike {s t s' t' : Statement} {w : World σ} {v : World τ} (hR : Consonant K R)
    (hs : s.Alike id K t) (h : Apace K R s t s' w t' v) :
    s'.Alike id K t' ∧ w.InStep K R v := by
  induction h with
  | start h => exact ⟨hs, h⟩
  | call groups c _ ha hb ih =>
    obtain ⟨hs', hw⟩ := ih
    have hc := call?_alike hR.likeness hw hs' groups c
    rw [ha, hb] at hc
    cases hc with
    | some hc => exact ⟨hc.next, hc.world⟩
  | between _ h ih => exact ⟨ih.1, h⟩

end Statement

end SqlClient
