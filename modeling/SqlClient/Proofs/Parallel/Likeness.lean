import SqlClient.Connection

/-! # What two runs have in common

The same calls are made in two worlds whose drivers answer alike. Handles may have other numbers in
the one world than in the other, and statements may be logged at another level. What follows then,
follows from a few laws about single calls to the driver.
-/
namespace SqlClient

inductive Matches {ε α β : Type} (F : α → β → Prop) : Except ε α → Except ε β → Prop where
  | error (e : ε) : Matches F (.error e) (.error e)
  | ok {a b} : F a b → Matches F (.ok a) (.ok b)

structure Agrees {σ τ α β : Type} (W : World σ → World τ → Prop) (F : α → β → Prop)
    (p : α × World σ) (q : β × World τ) : Prop where
  answer : F p.1 q.1
  world : W p.2 q.2

structure After.Agrees {σ τ α β γ δ : Type} (W : World σ → World τ → Prop) (F : α → β → Prop)
    (G : γ → δ → Prop) (a : After σ α γ) (c : After τ β δ) : Prop where
  result : G a.result c.result
  next : F a.next c.next
  world : W a.world c.world

theorem Agrees.same {σ τ α : Type} {W : World σ → World τ → Prop} {p : α × World σ}
    {q : α × World τ} (h : Agrees W Eq p q) : q.1 = p.1 := h.answer.symm

theorem After.Agrees.same {σ τ α β γ : Type} {W : World σ → World τ → Prop} {F : α → β → Prop}
    {a : After σ α γ} {c : After τ β γ} (h : After.Agrees W F Eq a c) : c.result = a.result :=
  h.result.symm

/-- Worlds that stay related by `W` whatever is logged and whatever is called, on handles that are
related by `K`. How a handle is closed and whether the driver believes to be alive does not
matter. -/
structure Likeness {σ τ : Type} [Connection σ] [Connection τ] (K : Handle → Handle → Prop)
    (W : World σ → World τ → Prop) : Prop where
  text : ∀ {h k}, K h k → k.text = h.text
  note_left : ∀ {w v}, W w v → ∀ e, W (w.note e) v
  note_right : ∀ {w v}, W w v → ∀ e, W w (v.note e)
  prepare : ∀ {w v}, W w v → ∀ sql, Agrees W (Matches K) (w.prepare sql) (v.prepare sql)
  bind : ∀ {w v}, W w v → ∀ {h k}, K h k → ∀ n x, Agrees W Eq (w.bind h n x) (v.bind k n x)
  execute : ∀ {w v}, W w v → ∀ {h k}, K h k → Agrees W Eq (w.execute h) (v.execute k)
  close : ∀ {w v}, W w v → ∀ {h k}, K h k → W (w.close h).2 (v.close k).2
  isAlive : ∀ {w v}, W w v → W w.isAlive.2 v.isAlive.2
  reconnect : ∀ {w v}, W w v → Agrees W Eq w.reconnect v.reconnect
  listTables : ∀ {w v}, W w v → Agrees W Eq w.listTables v.listTables
  describeColumns : ∀ {w v}, W w v → ∀ table,
    Agrees W Eq (w.describeColumns table) (v.describeColumns table)

namespace Likeness

variable {σ τ : Type} [Connection σ] [Connection τ] {K : Handle → Handle → Prop}
  {W : World σ → World τ → Prop} {w : World σ} {v : World τ}

theorem note (L : Likeness K W) (h : W w v) (e e' : Event) : W (w.note e) (v.note e') :=
  L.note_right (L.note_left h e) e'

theorem notes (L : Likeness K W) (h : W w v) (es : List Event) :
    W (es.foldl World.note w) (es.foldl World.note v) := by
  induction es generalizing w v with
  | nil => exact h
  | cons e es ih => exact ih (L.note h e e)

end Likeness

def Settings.mapDebug (g : Bool → Bool) (s : Settings) : Settings := { s with debug := g s.debug }

end SqlClient
