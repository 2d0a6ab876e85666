import SqlClient.Proofs.Parallel.Execution
import SqlClient.Schema.Migration

/-! # Tables side by side

What is read from the catalog and the columns that are added or dropped, in two worlds that are
alike.
-/
namespace SqlClient

def Table.mapDebug (g : Bool → Bool) (t : Table) : Table :=
  { t with settings := t.settings.mapDebug g }

def Columns.mapDebug (g : Bool → Bool) (c : Columns) : Columns :=
  { c with table := c.table.mapDebug g }

variable {σ τ : Type} [Connection σ] [Connection τ] {K : Handle → Handle → Prop}
  {W : World σ → World τ → Prop} {w : World σ} {v : World τ} (g : Bool → Bool)

namespace Table

@[simp] theorem mapDebug_name (t : Table) : (t.mapDebug g).name = t.name := rfl

section Read

variable {α : Type} {call : World σ → Except DriverError α × World σ}
  {call' : World τ → Except DriverError α × World τ}

omit g [Connection σ] [Connection τ] in
theorem readAgain_alike (hcall : ∀ {w v}, W w v → Agrees W Eq (call w) (call' v)) (h : W w v)
    (what : CatalogRead) : Agrees W Eq (readAgain what call w) (readAgain what call' v) :=
  ⟨congrArg (Except.mapError (readError what)) (hcall h).answer, (hcall h).world⟩

theorem read_alike (L : Likeness K W)
    (hcall : ∀ {w v}, W w v → Agrees W Eq (call w) (call' v)) (h : W w v) (t : Table)
    (what : CatalogRead) :
    Agrees W Eq (t.read what call w) ((t.mapDebug g).read what call' v) := by
  have hc := hcall h
  unfold read
  dsimp only
  rw [hc.same]
  rcases (call w).1 with e | a
  · have hl := L.note (L.isAlive hc.world) (.catalogLost what t.name e (call w).2.isAlive.1)
      (.catalogLost what t.name e (call' v).2.isAlive.1)
    have hb := L.reconnect hl
    dsimp only
    by_cases he : e.isConnectionLost = true
    · rw [if_pos he, if_pos he, mapDebug_name, hb.same]
      split
      · exact readAgain_alike hcall hb.world what
      · exact ⟨rfl, hb.world⟩
    · rw [if_neg he, if_neg he]
      exact ⟨rfl, hc.world⟩
  · exact ⟨rfl, hc.world⟩

end Read

theorem isListed_alike (L : Likeness K W) (h : W w v) (t : Table) :
    Agrees W Eq (t.isListed w) ((t.mapDebug g).isListed v) := by
  have hr := read_alike g L L.listTables h t .listTables
  refine ⟨?_, hr.world⟩
  unfold isListed
  dsimp only
  rw [hr.same]
  rfl

end Table

namespace Columns

@[simp] theorem mapDebug_contains (c : Columns) (name : String) :
    (c.mapDebug g).contains name = c.contains name := rfl

theorem load_alike (L : Likeness K W) (h : W w v) (t : Table) :
    Agrees W (fun a c => c = a.map (mapDebug g)) (load t w) (load (t.mapDebug g) v) := by
  have hr := Table.read_alike g L (fun h => L.describeColumns h t.name.name) h t .describeColumns
  refine ⟨?_, hr.world⟩
  unfold load
  dsimp only
  rw [Table.mapDebug_name, hr.same]
  cases (t.read .describeColumns (fun w => w.describeColumns t.name.name) w).1 <;> rfl

theorem refresh_alike (L : Likeness K W) (h : W w v) (c : Columns) :
    After.Agrees W (fun a c => c = a.mapDebug g) Eq (c.refresh w)
      ((c.mapDebug g).refresh v) := by
  have hl := load_alike g L h c.table
  unfold refresh
  dsimp only
  rw [show (c.mapDebug g).table = c.table.mapDebug g from rfl, hl.answer]
  rcases (load c.table w).1 with e | c'
  · exact ⟨rfl, rfl, hl.world⟩
  · exact ⟨rfl, rfl, hl.world⟩

end Columns

namespace Table

theorem runOnce_alike (L : Likeness K W) (h : W w v) (t : Table) (r : Rendered) :
    Agrees W Eq (t.runOnce r w) ((t.mapDebug g).runOnce r v) := by
  have hnew : Execution.Alike g K { settings := t.settings }
      { settings := (t.mapDebug g).settings } := .recast (k := none) .none
  have ha := Execution.run_alike L h hnew r
  unfold runOnce
  dsimp only
  rw [ha.same]
  rcases (Execution.run { settings := t.settings } r w).result with e | _
  · exact ⟨rfl, ha.world⟩
  · exact ⟨rfl, (Execution.close_alike L ha.world ha.next).world⟩

theorem columnsIfListed_alike (L : Likeness K W) (h : W w v) (t : Table) :
    Agrees W (fun a c => c = a.map (Option.map (Columns.mapDebug g))) (t.columnsIfListed w)
      ((t.mapDebug g).columnsIfListed v) := by
  have hi := isListed_alike g L h t
  have hl := Columns.load_alike g L hi.world t
  unfold columnsIfListed
  dsimp only
  rw [hi.same]
  rcases (t.isListed w).1 with e | _ | _
  · exact ⟨rfl, hi.world⟩
  · exact ⟨rfl, hi.world⟩
  · refine ⟨?_, hl.world⟩
    dsimp only
    rw [hl.answer]
    cases (Columns.load t (t.isListed w).2).1 <;> rfl

omit [Connection σ] [Connection τ] in
theorem any_contains_mapDebug (existing : Option Columns) (name : String) :
    (existing.map (Columns.mapDebug g)).any (fun c => c.contains name) =
      existing.any fun c => c.contains name := by
  cases existing <;> rfl

theorem addColumn_alike (L : Likeness K W) (h : W w v) (t : Table) (type : ColumnType)
    (column : Ident) (default : Option Value) :
    Agrees W Eq (t.addColumn type column default w)
      ((t.mapDebug g).addColumn type column default v) := by
  have hc := columnsIfListed_alike g L h t
  unfold addColumn
  cases type.fault? with
  | some f => exact ⟨rfl, h⟩
  | none =>
    dsimp only
    rw [hc.answer]
    rcases (t.columnsIfListed w).1 with e | existing
    · exact ⟨rfl, hc.world⟩
    · dsimp only [Except.map]
      rw [any_contains_mapDebug]
      split
      · exact ⟨rfl, hc.world⟩
      · rw [Option.isNone_map]
        exact runOnce_alike g L (L.note hc.world _ _) t _

theorem dropColumn_alike (L : Likeness K W) (h : W w v) (t : Table) (column : Ident) :
    Agrees W Eq (t.dropColumn column w) ((t.mapDebug g).dropColumn column v) := by
  have hl := Columns.load_alike g L h t
  unfold dropColumn
  dsimp only
  rw [hl.answer]
  rcases (Columns.load t w).1 with e | columns
  · exact ⟨rfl, hl.world⟩
  · dsimp only [Except.map]
    rw [Columns.mapDebug_contains]
    split
    · exact runOnce_alike g L (L.note hl.world _ _) t _
    · exact ⟨rfl, hl.world⟩

theorem addMissing_alike (L : Likeness K W) (h : W w v) (t : Table) (existing : Option Columns)
    (added : List Ident) (pairs : List (Ident × Value)) :
    Agrees W Eq (t.addMissing existing added pairs w)
      ((t.mapDebug g).addMissing (existing.map (Columns.mapDebug g)) added pairs v) := by
  induction pairs generalizing added w v with
  | nil => exact ⟨rfl, h⟩
  | cons p pairs ih =>
    obtain ⟨column, x⟩ := p
    have ha := addColumn_alike g L h t (.forValue x) column none
    rw [addMissing, addMissing, any_contains_mapDebug]
    split
    · exact ih h added
    · dsimp only
      rw [ha.same]
      rcases (t.addColumn (.forValue x) column none w).1 with e | _
      · exact ⟨rfl, ha.world⟩
      · exact ih ha.world _

theorem ensureColumns_alike (L : Likeness K W) (h : W w v) (t : Table)
    (pairs : List (Ident × Value)) :
    Agrees W Eq (t.ensureColumns pairs w) ((t.mapDebug g).ensureColumns pairs v) := by
  have hc := columnsIfListed_alike g L h t
  unfold ensureColumns
  dsimp only
  rw [hc.answer]
  rcases (t.columnsIfListed w).1 with e | existing
  · exact ⟨rfl, hc.world⟩
  · exact addMissing_alike g L hc.world t existing [] pairs

theorem primaryKey_alike (L : Likeness K W) (h : W w v) (t : Table) :
    Agrees W Eq (t.primaryKey w) ((t.mapDebug g).primaryKey v) := by
  have hl := Columns.load_alike g L h t
  refine ⟨?_, hl.world⟩
  unfold primaryKey
  dsimp only
  rw [hl.answer]
  cases (Columns.load t w).1 <;> rfl

end Table

end SqlClient
