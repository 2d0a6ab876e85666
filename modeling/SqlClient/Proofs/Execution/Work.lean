import SqlClient.Proofs.Execution.Coherence
import SqlClient.Schema.Migration

/-! # The work of an execution

Whatever is done with a connection comes down to a few things: calls that are about no handle, runs
and closings of an execution that is kept, and errands, for each of which an execution is made and
then given up. What may be run, kept or as an errand, is a parameter.
-/
namespace SqlClient

def Exchange.handle? : Exchange → Option Handle
  | prepare h _ => some h
  | bind h _ _ _ => some h
  | execute h _ => some h
  | close h _ => some h
  | _ => none

variable {σ : Type}

/-! ## Calls that are about no handle -/

def World.HandsOff (w v : World σ) : Prop :=
  ∃ calls, w.Said calls v ∧ (∀ c ∈ calls, c.handle? = none) ∧ v.prepared = w.prepared

namespace World.HandsOff

variable {u v w : World σ}

theorem refl (w : World σ) : w.HandsOff w := ⟨[], .refl w, by simp, rfl⟩

theorem trans (h : u.HandsOff v) (k : v.HandsOff w) : u.HandsOff w := by
  obtain ⟨cs, hs, hc, hp⟩ := h
  obtain ⟨ds, ks, kc, kp⟩ := k
  refine ⟨cs ++ ds, hs.trans ks, ?_, kp.trans hp⟩
  intro c hmem
  rcases List.mem_append.mp hmem with hmem | hmem
  · exact hc c hmem
  · exact kc c hmem

theorem note (h : v.HandsOff w) (e : Event) : v.HandsOff (w.note e) := h

theorem notes (es : List Event) (w : World σ) : w.HandsOff (es.foldl World.note w) := by
  induction es generalizing w with
  | nil => exact refl w
  | cons e es ih => exact ((refl w).note e).trans (ih (w.note e))

theorem single {c : Exchange} (h : v.Said [c] w) (hc : c.handle? = none)
    (hp : w.prepared = v.prepared) : v.HandsOff w := by
  refine ⟨[c], h, ?_, hp⟩
  intro d hd
  cases List.mem_singleton.mp hd
  exact hc

variable [Connection σ]

theorem isAlive (w : World σ) : w.HandsOff w.isAlive.2 := single (c := .isAlive _) rfl rfl rfl

theorem reconnect (w : World σ) : w.HandsOff w.reconnect.2 :=
  single (c := .reconnect _) rfl rfl rfl

theorem listTables (w : World σ) : w.HandsOff w.listTables.2 :=
  single (c := .listTables _) rfl rfl rfl

theorem describeColumns (w : World σ) (table : String) : w.HandsOff (w.describeColumns table).2 :=
  single (c := .describeColumns table _) rfl rfl rfl

end World.HandsOff

open World (HandsOff)

section Catalog

variable [Connection σ]

theorem Table.read_handsOff {α : Type} (t : Table) (what : CatalogRead)
    {call : World σ → Except DriverError α × World σ}
    (hcall : ∀ w : World σ, w.HandsOff (call w).2)
    (w : World σ) : w.HandsOff (t.read what call w).2 := by
  unfold Table.read
  dsimp only
  split
  · exact hcall w
  · split
    · have hback := ((hcall w).trans (HandsOff.isAlive _)).trans (HandsOff.reconnect _)
      split
      · exact hback.trans (hcall _)
      · exact hback
    · exact hcall w

theorem Table.isListed_handsOff (t : Table) (w : World σ) : w.HandsOff (t.isListed w).2 :=
  t.read_handsOff .listTables HandsOff.listTables w

theorem Columns.load_handsOff (t : Table) (w : World σ) : w.HandsOff (Columns.load t w).2 :=
  t.read_handsOff .describeColumns (fun w => HandsOff.describeColumns w t.name.name) w

theorem Columns.refresh_handsOff (c : Columns) (w : World σ) : w.HandsOff (c.refresh w).world := by
  have hload := Columns.load_handsOff c.table w
  unfold Columns.refresh
  dsimp only
  split <;> exact hload

theorem Table.columnsIfListed_handsOff (t : Table) (w : World σ) :
    w.HandsOff (t.columnsIfListed w).2 := by
  have hlisted := t.isListed_handsOff w
  unfold Table.columnsIfListed
  dsimp only
  split
  · exact hlisted
  · exact hlisted
  · exact hlisted.trans (Columns.load_handsOff t _)

end Catalog

/-! ## What holds of calls about no handle and of single runs -/

/-- A relation between worlds that calls about no handle do not disturb. -/
structure World.Lasting (R : World σ → World σ → Prop) : Prop where
  handsOff : ∀ {v w}, v.HandsOff w → R v w
  trans : ∀ {u v w}, R u v → R v w → R u w

section Definitions

variable [Connection σ] {R : World σ → World σ → Prop} (hR : World.Lasting R)

include hR

namespace Table

theorem addColumn_lasting (t : Table)
    (hrun : ∀ (a : AddColumn) w, R w (t.runOnce (a.render t.settings.dialect) w).2)
    (type : ColumnType) (column : Ident) (default : Option Value) (w : World σ) :
    R w (t.addColumn type column default w).2 := by
  have hlisted : R w (t.columnsIfListed w).2 := hR.handsOff (t.columnsIfListed_handsOff w)
  unfold addColumn
  split
  · exact hR.handsOff (.refl w)
  · dsimp only
    split
    · exact hlisted
    · split
      · exact hlisted
      · exact hR.trans (hR.handsOff ((t.columnsIfListed_handsOff w).note _)) (hrun _ _)

theorem dropColumn_lasting (t : Table) (hrun : ∀ (d : DropColumn) w, R w (t.runOnce d.render w).2)
    (column : Ident) (w : World σ) : R w (t.dropColumn column w).2 := by
  have hload : R w (Columns.load t w).2 := hR.handsOff (Columns.load_handsOff t w)
  unfold dropColumn
  dsimp only
  split
  · exact hload
  · split
    · exact hR.trans (hR.handsOff ((Columns.load_handsOff t w).note _)) (hrun _ _)
    · exact hload

theorem addMissing_lasting (t : Table)
    (hrun : ∀ (a : AddColumn) w, R w (t.runOnce (a.render t.settings.dialect) w).2)
    (existing : Option Columns) (added : List Ident) (pairs : List (Ident × Value)) (w : World σ) :
    R w (t.addMissing existing added pairs w).2 := by
  induction pairs generalizing added w with
  | nil => exact hR.handsOff (.refl w)
  | cons p rest ih =>
    obtain ⟨column, v⟩ := p
    have hadd := t.addColumn_lasting hR hrun (.forValue v) column none w
    unfold addMissing
    split
    · exact ih added w
    · dsimp only
      split
      · exact hadd
      · exact hR.trans hadd (ih (added ++ [column]) _)

theorem ensureColumns_lasting (t : Table)
    (hrun : ∀ (a : AddColumn) w, R w (t.runOnce (a.render t.settings.dialect) w).2)
    (pairs : List (Ident × Value)) (w : World σ) : R w (t.ensureColumns pairs w).2 := by
  have hlisted : R w (t.columnsIfListed w).2 := hR.handsOff (t.columnsIfListed_handsOff w)
  unfold ensureColumns
  dsimp only
  split
  · exact hlisted
  · exact hR.trans hlisted (t.addMissing_lasting hR hrun _ [] pairs _)

end Table

end Definitions

/-! ## Errands -/

variable [Connection σ]

/-- Calls about no handle and errands: a rendering that is allowed is run on an execution of its
own, which may be closed afterwards. -/
inductive World.Errands (allowed : Rendered → Prop) : World σ → World σ → Prop where
  | idle (w) : Errands allowed w w
  | handsOff {u v w} : Errands allowed u v → v.HandsOff w → Errands allowed u w
  | ran {u v} (settings : Settings) (r : Rendered) : Errands allowed u v → allowed r →
      Errands allowed u (Execution.run { settings } r v).world
  | closed {u v} (settings : Settings) (r : Rendered) (x : Execution) : Errands allowed u v →
      allowed r → x.held = (Execution.run { settings } r v).next.held →
      Errands allowed u (x.close (Execution.run { settings } r v).world).2

open World (Errands)

theorem World.HandsOff.errands {allowed : Rendered → Prop} {v w : World σ} (h : v.HandsOff w) :
    Errands allowed v w := .handsOff (.idle v) h

theorem World.Errands.trans {allowed : Rendered → Prop} {u v w : World σ}
    (h : Errands allowed u v) (k : Errands allowed v w) : Errands allowed u w := by
  induction k with
  | idle => exact h
  | handsOff _ hw ih => exact .handsOff ih hw
  | ran settings r _ hr ih => exact .ran settings r ih hr
  | closed settings r x _ hr hx ih => exact .closed settings r x ih hr hx

theorem lasting_errands {allowed : Rendered → Prop} :
    World.Lasting (σ := σ) (Errands allowed) where
  handsOff := World.HandsOff.errands
  trans := World.Errands.trans

theorem Execution.fetch_held (x : Execution) (f : Fetch) : (x.fetch f).2.held = x.held := by
  unfold Execution.fetch
  split
  · rfl
  · split
    · rfl
    · split <;> rfl

theorem Execution.Fetched.held {x y : Execution} (h : x.Fetched y) : y.held = x.held := by
  induction h with
  | refl => rfl
  | tail _ hstep ih =>
    obtain ⟨f, rfl⟩ := hstep
    exact (fetch_held _ f).trans ih

theorem Execution.count_errands {allowed : Rendered → Prop} {r : Rendered} (hr : allowed r)
    (x : Execution) (w : World σ) : Errands allowed w (x.count r w).2 := by
  unfold Execution.count
  dsimp only
  split
  · exact .ran x.settings r (.idle w) hr
  · have hheld := (x.clone.run r w).next.fetch_held (.move .first)
    split
    · exact .ran x.settings r (.idle w) hr
    · next row scratch hf =>
      rw [hf] at hheld
      exact .closed x.settings r scratch (.idle w) hr hheld

namespace Table

variable {allowed : Rendered → Prop}

theorem runOnce_errands (t : Table) {r : Rendered} (hr : allowed r) (w : World σ) :
    Errands allowed w (t.runOnce r w).2 := by
  unfold runOnce
  dsimp only
  split
  · exact .ran t.settings r (.idle w) hr
  · exact .closed t.settings r _ (.idle w) hr rfl

theorem addColumn_errands (t : Table)
    (hall : ∀ a : AddColumn, allowed (a.render t.settings.dialect)) (type : ColumnType)
    (column : Ident) (default : Option Value) (w : World σ) :
    Errands allowed w (t.addColumn type column default w).2 :=
  t.addColumn_lasting lasting_errands (fun a => t.runOnce_errands (hall a)) type column default w

theorem dropColumn_errands (t : Table) (hall : ∀ d : DropColumn, allowed d.render)
    (column : Ident) (w : World σ) : Errands allowed w (t.dropColumn column w).2 :=
  t.dropColumn_lasting lasting_errands (fun d => t.runOnce_errands (hall d)) column w

theorem ensureColumns_errands (t : Table)
    (hall : ∀ a : AddColumn, allowed (a.render t.settings.dialect)) (pairs : List (Ident × Value))
    (w : World σ) : Errands allowed w (t.ensureColumns pairs w).2 :=
  t.ensureColumns_lasting lasting_errands (fun a => t.runOnce_errands (hall a)) pairs w

end Table

/-! ## Executions that are kept -/

/-- What an execution does between two states: its own runs and closings, errands beside them, and
changes that the driver does not see and that leave its handle alone. -/
inductive Execution.Works (own errand : Rendered → Prop) :
    Execution → World σ → Execution → World σ → Prop where
  | rest (x w) : Works own errand x w x w
  | quiet {x y u v} (z : Execution) : Works own errand x u y v → z.held = y.held →
      Works own errand x u z v
  | beside {x y u v w} : Works own errand x u y v → Errands errand v w → Works own errand x u y w
  | ran {x y u v} (r : Rendered) : Works own errand x u y v → own r →
      Works own errand x u (y.run r v).next (y.run r v).world
  | closed {x y u v} : Works own errand x u y v →
      Works own errand x u (y.close v).1 (y.close v).2

/-! ## What happens to an execution that is kept -/

/-- The same in more detail: the execution is run or closed, held back with an error before a run,
reset, read or given other settings, and errands are gone on beside it. -/
inductive Execution.Acts (own errand : Rendered → Prop) (early : QueryError → Prop) :
    Execution → World σ → Execution → World σ → Prop where
  | rest (x w) : Acts own errand early x w x w
  | beside {x y u v w} : Acts own errand early x u y v → Errands errand v w →
      Acts own errand early x u y w
  | ran {x y u v} (r : Rendered) : Acts own errand early x u y v → own r →
      Acts own errand early x u (y.run r v).next (y.run r v).world
  | closed {x y u v} : Acts own errand early x u y v →
      Acts own errand early x u (y.close v).1 (y.close v).2
  | heldBack {x y u v e} : Acts own errand early x u y v → early e →
      Acts own errand early x u (y.fail e) v
  | forgotten {x y u v} : Acts own errand early x u y v → Acts own errand early x u y.reset v
  | read {x y u v} (f : Fetch) : Acts own errand early x u y v →
      Acts own errand early x u (y.fetch f).2 v
  | configured {x y u v} (settings : Settings) : Acts own errand early x u y v →
      Acts own errand early x u { y with settings } v

namespace Execution.Acts

variable {own errand : Rendered → Prop} {early : QueryError → Prop} {x y z : Execution}
  {u v w : World σ}

theorem trans (h : Acts own errand early x u y v) (k : Acts own errand early y v z w) :
    Acts own errand early x u z w := by
  induction k with
  | rest => exact h
  | beside _ he ih => exact .beside (ih h) he
  | ran r _ hr ih => exact .ran r (ih h) hr
  | closed _ ih => exact .closed (ih h)
  | heldBack _ he ih => exact .heldBack (ih h) he
  | forgotten _ ih => exact .forgotten (ih h)
  | read f _ ih => exact .read f (ih h)
  | configured settings _ ih => exact .configured settings (ih h)

theorem fetched (h : Acts own errand early x u y v) (k : y.Fetched z) :
    Acts own errand early x u z v := by
  induction k with
  | refl => exact h
  | tail _ hstep ih =>
    obtain ⟨f, rfl⟩ := hstep
    exact .read f ih

theorem works (h : Acts own errand early x u y v) : Works own errand x u y v := by
  induction h with
  | rest => exact .rest _ _
  | beside _ he ih => exact .beside ih he
  | ran r _ hr ih => exact .ran r ih hr
  | closed _ ih => exact .closed ih
  | heldBack _ _ ih => exact .quiet _ ih rfl
  | forgotten _ ih => exact .quiet _ ih rfl
  | read f _ ih => exact .quiet _ ih (fetch_held _ f)
  | configured settings _ ih => exact .quiet _ ih rfl

theorem leads (h : Acts own errand early x u y v) : x.Leads y := by
  induction h with
  | rest => exact .refl
  | beside _ _ ih => exact ih
  | ran r _ _ ih => exact ih.tail (.ran r _)
  | closed _ ih => exact ih.tail (.closed _)
  | heldBack _ _ ih => exact ih.tail (.heldBack _)
  | forgotten _ ih => exact ih.tail .forgotten
  | read f _ ih => exact ih.tail (.read f)
  | configured settings _ ih => exact ih.tail (.configured settings)

end Execution.Acts

end SqlClient
