import SqlClient.Proofs.Parallel.World
import SqlClient.Scripted

/-! # Scripts side by side

Two scripts that differ in how handles are closed and in whether the connection is alive give the
same answers to everything else.
-/
namespace SqlClient

namespace Scripted

/-- Scripts that differ in how handles are closed and in whether the connection is alive. -/
structure Resembles (d e : Scripted) : Prop where
  tables : e.tables = d.tables
  responses : e.responses = d.responses
  prepareFaults : e.prepareFaults = d.prepareFaults
  bindFaults : e.bindFaults = d.bindFaults
  catalogFaults : e.catalogFaults = d.catalogFaults
  reconnects : e.reconnects = d.reconnects

namespace Resembles

variable {d e : Scripted}

theorem raise_left (h : d.Resembles e) (f : DriverError) : (d.raise f).Resembles e := by
  unfold Scripted.raise
  split
  · exact { h with }
  · exact h

theorem raise_right (h : d.Resembles e) (f : DriverError) : d.Resembles (e.raise f) := by
  unfold Scripted.raise
  split
  · exact { h with }
  · exact h

theorem raise (h : d.Resembles e) (f : DriverError) : (d.raise f).Resembles (e.raise f) :=
  (h.raise_left f).raise_right f

theorem answer (h : d.Resembles e) {α : Type} (fault : Option (Option DriverError)) (a : α) :
    Echoes Resembles (d.answer fault a) (e.answer fault a) := by
  unfold Scripted.answer
  rcases fault with _ | _ | f
  · exact ⟨rfl, h⟩
  · exact ⟨rfl, h⟩
  · exact ⟨rfl, h.raise f⟩

theorem faulted (h : d.Resembles e) {α : Type} (f g : Option (Option DriverError)) (a : α) :
    (d.answer f a).2.Resembles (e.answer g a).2 := by
  unfold Scripted.answer
  rcases f with _ | _ | f <;> rcases g with _ | _ | g
  all_goals first
    | exact h
    | exact h.raise_left f
    | exact h.raise_right g
    | exact (h.raise_left f).raise_right g

theorem setTable (h : d.Resembles e) (name : String) (columns : Option (List ColumnInfo)) :
    (d.setTable name columns).Resembles (e.setTable name columns) := by
  unfold Scripted.setTable
  exact { h with tables := by dsimp only; rw [h.tables] }

theorem reply (h : d.Resembles e) (r : Reply) : Echoes Resembles (d.reply r) (e.reply r) := by
  cases r with
  | outcome o => exact ⟨rfl, h⟩
  | fail f => exact ⟨rfl, h.raise f⟩

theorem run (h : d.Resembles e) (k : Handle) : Echoes Resembles (d.run k) (e.run k) := by
  unfold Scripted.run
  rw [h.responses]
  cases d.responses with
  | nil => exact ⟨rfl, h⟩
  | cons r rest =>
    have hrest : Resembles { d with responses := rest } { e with responses := rest } :=
      { h with responses := rfl }
    obtain ⟨_ | ⟨name, columns⟩, r⟩ := r
    · exact hrest.reply r
    · exact (hrest.setTable name columns).reply r

end Resembles

theorem counterparts_resembles : Counterparts Resembles where
  prepare h _ := by
    dsimp only [Connection.prepare]
    rw [h.prepareFaults]
    apply Resembles.answer
    exact { h with prepareFaults := rfl }
  bind h _ _ _ := by
    dsimp only [Connection.bind]
    rw [h.bindFaults]
    apply Resembles.answer
    exact { h with bindFaults := rfl }
  execute h k := h.run k
  close h _ := by
    apply Resembles.faulted
    exact { h with }
  isAlive h := h
  reconnect h := by
    dsimp only [Connection.reconnect]
    rw [h.reconnects]
    exact ⟨rfl, { h with reconnects := rfl }⟩
  listTables h := by
    dsimp only [Connection.listTables]
    rw [h.catalogFaults, h.tables]
    apply Resembles.answer
    exact { h with catalogFaults := rfl, tables := rfl }
  describeColumns h _ := by
    dsimp only [Connection.describeColumns]
    rw [h.catalogFaults, h.tables]
    apply Resembles.answer
    exact { h with catalogFaults := rfl, tables := rfl }

end Scripted

end SqlClient
