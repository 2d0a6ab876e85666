import SqlClient.Proofs.Parallel.Likeness

/-! # Worlds side by side

Two drivers that give the same answers, except to the closing of handles and to the question whether
they are alive. Worlds with such drivers are alike when the same calls have been made in them. What
has been logged in either of them is not compared.
-/
namespace SqlClient

/-- The call without its answer, if that is one which may differ. -/
def Exchange.call : Exchange → Exchange
  | close h _ => close h (.ok ())
  | isAlive _ => isAlive true
  | c => c

def Echoes {σ τ α : Type} (R : σ → τ → Prop) (p : α × σ) (q : α × τ) : Prop :=
  q.1 = p.1 ∧ R p.2 q.2

/-- Related drivers give equal answers, apart from how they close handles and whether they are
alive, and stay related whatever is called. -/
structure Counterparts {σ τ : Type} [Connection σ] [Connection τ] (R : σ → τ → Prop) : Prop where
  prepare : ∀ {d e}, R d e → ∀ h, Echoes R (Connection.prepare h d) (Connection.prepare h e)
  bind : ∀ {d e}, R d e → ∀ h n v, Echoes R (Connection.bind h n v d) (Connection.bind h n v e)
  execute : ∀ {d e}, R d e → ∀ h, Echoes R (Connection.execute h d) (Connection.execute h e)
  close : ∀ {d e}, R d e → ∀ h, R (Connection.close h d).2 (Connection.close h e).2
  isAlive : ∀ {d e}, R d e → R (Connection.isAlive d).2 (Connection.isAlive e).2
  reconnect : ∀ {d e}, R d e → Echoes R (Connection.reconnect d) (Connection.reconnect e)
  listTables : ∀ {d e}, R d e → Echoes R (Connection.listTables d) (Connection.listTables e)
  describeColumns : ∀ {d e}, R d e → ∀ t,
    Echoes R (Connection.describeColumns t d) (Connection.describeColumns t e)

structure World.Alike {σ τ : Type} (R : σ → τ → Prop) (w : World σ) (v : World τ) : Prop where
  driver : R w.driver v.driver
  prepared : v.prepared = w.prepared
  history : v.history.map Exchange.call = w.history.map Exchange.call

namespace World.Alike

variable {σ τ : Type} {R : σ → τ → Prop} {w : World σ} {v : World τ}

theorem recorded {α : Type} (h : w.Alike R v) (exchange : α → Exchange) {p : α × σ} {q : α × τ}
    (hd : R p.2 q.2) (hc : (exchange q.1).call = (exchange p.1).call) :
    (w.record exchange p).2.Alike R (v.record exchange q).2 :=
  ⟨hd, h.prepared, by simp only [World.record, List.map_cons, hc, h.history]⟩

theorem record {α : Type} (h : w.Alike R v) (exchange : α → Exchange) {p : α × σ} {q : α × τ}
    (hp : Echoes R p q) :
    Agrees (World.Alike R) Eq (w.record exchange p) (v.record exchange q) :=
  ⟨hp.1.symm, h.recorded exchange hp.2 (by rw [hp.1])⟩

theorem prepare [Connection σ] [Connection τ] (h : w.Alike R v) (hR : Counterparts R)
    (sql : String) : Agrees (World.Alike R) (Matches Eq) (w.prepare sql) (v.prepare sql) := by
  have hp := record (w := { w with prepared := w.prepared + 1 })
    (v := { v with prepared := w.prepared + 1 }) ⟨h.driver, rfl, h.history⟩
    (.prepare ⟨w.prepared + 1, sql⟩) (hR.prepare h.driver ⟨w.prepared + 1, sql⟩)
  unfold World.prepare
  rw [h.prepared]
  refine ⟨?_, hp.world⟩
  dsimp only
  rw [hp.same]
  rcases (World.record _ _ _).1 with e | _
  · exact .error e
  · exact .ok rfl

end World.Alike

/-- Worlds whose drivers are counterparts are alike whatever is logged. How a handle has been closed
and whether the drivers are alive may differ. -/
theorem Counterparts.likeness {σ τ : Type} [Connection σ] [Connection τ] {R : σ → τ → Prop}
    (hR : Counterparts R) : Likeness Eq (World.Alike R) where
  text hk := by rw [hk]
  note_left h _ := ⟨h.driver, h.prepared, h.history⟩
  note_right h _ := ⟨h.driver, h.prepared, h.history⟩
  prepare h sql := h.prepare hR sql
  bind h k _ hk n x := hk ▸ h.record (.bind k n x) (hR.bind h.driver k n x)
  execute h k _ hk := hk ▸ h.record (.execute k) (hR.execute h.driver k)
  close h k _ hk := hk ▸ h.recorded (.close k) (hR.close h.driver k) rfl
  isAlive h := h.recorded .isAlive (hR.isAlive h.driver) rfl
  reconnect h := h.record .reconnect (hR.reconnect h.driver)
  listTables h := h.record .listTables (hR.listTables h.driver)
  describeColumns h table := h.record (.describeColumns table) (hR.describeColumns h.driver table)

end SqlClient
