import SqlClient.Proofs.Migration.Stages

/-! # Catalogs that follow definitions

What a connection lists and describes is its catalog. It follows the statements that define columns
if a statement that makes sense succeeds and shows in the catalog, and if nothing else changes the
catalog. On such a connection a column is added by one statement.
-/
namespace SqlClient

namespace Connection

variable {σ : Type} [Connection σ]

/-- Whether a table of this name, up to ASCII case, would be listed. -/
def lists (d : σ) (table : Ident) : Bool :=
  match (listTables d).1 with
  | .ok names => names.any table.isNamed
  | .error _ => false

/-- Whether the table is listed and would be described with this column, up to ASCII case. -/
def has (d : σ) (table column : Ident) : Bool :=
  lists d table &&
    match (describeColumns table.name d).1 with
    | .ok infos => infos.any fun info => Text.sameName info.name column.name
    | .error _ => false

structure SameCatalog (d e : σ) : Prop where
  lists : ∀ table, lists e table = lists d table
  has : ∀ table column, has e table column = has d table column

/-- A connection without errors whose catalog follows the statements that add columns: a table is
created only if it is not listed, and a column is added only if it is not there. -/
structure Reflects (σ : Type) [Connection σ] (dialect : Dialect) : Prop where
  prepare : ∀ (d : σ) h, (prepare h d).1 = .ok () ∧ SameCatalog d (prepare h d).2
  close : ∀ (d : σ) h, SameCatalog d (close h d).2
  listTables : ∀ d : σ, (∃ names, (listTables d).1 = .ok names) ∧ SameCatalog d (listTables d).2
  describeColumns : ∀ (d : σ) table, (∃ infos, (describeColumns table d).1 = .ok infos) ∧
    SameCatalog d (describeColumns table d).2
  execute : ∀ (d : σ) (h : Handle) (a : AddColumn), h.text = (a.render dialect).sql →
    a.create = !lists d a.table → has d a.table a.column = false →
      (∃ o, (execute h d).1 = .ok o) ∧ lists (execute h d).2 a.table = true ∧
        ∀ column, has (execute h d).2 a.table column =
          (has d a.table column || Text.sameName a.column.name column.name)

theorem SameCatalog.trans {c d e : σ} (h : SameCatalog c d) (k : SameCatalog d e) :
    SameCatalog c e :=
  ⟨fun t => (k.lists t).trans (h.lists t), fun t c => (k.has t c).trans (h.has t c)⟩

end Connection

/-! ## Statements that are sent -/

namespace Exchange

def prepared? : Exchange → Option String
  | prepare h _ => some h.text
  | _ => none

def executed? : Exchange → Option String
  | execute h _ => some h.text
  | _ => none

end Exchange

/-- The texts that are prepared on the way from one world to the other, and executed in the same
order. -/
def World.Sends {σ : Type} (w : World σ) (texts : List String) (v : World σ) : Prop :=
  ∃ calls, w.Said calls v ∧ calls.filterMap Exchange.prepared? = texts ∧
    calls.filterMap Exchange.executed? = texts

namespace World

variable {σ : Type} {u v w : World σ} {texts more : List String}

theorem Sends.trans (h : u.Sends texts v) (k : v.Sends more w) : u.Sends (texts ++ more) w := by
  obtain ⟨cs, hs, hp, he⟩ := h
  obtain ⟨ds, ks, kp, ke⟩ := k
  refine ⟨cs ++ ds, hs.trans ks, ?_, ?_⟩
  · rw [List.filterMap_append, hp, kp]
  · rw [List.filterMap_append, he, ke]

theorem HandsOff.sends (h : v.HandsOff w) : v.Sends [] w := by
  obtain ⟨calls, hs, hc, -⟩ := h
  refine ⟨calls, hs, ?_, ?_⟩
  · rw [List.filterMap_eq_nil_iff]
    intro c hm
    have := hc c hm
    cases c <;> simp_all [Exchange.handle?, Exchange.prepared?]
  · rw [List.filterMap_eq_nil_iff]
    intro c hm
    have := hc c hm
    cases c <;> simp_all [Exchange.handle?, Exchange.executed?]

end World

/-! ## Reading the catalog -/

section Read

variable {σ : Type} [Connection σ] {dialect : Dialect}

open Connection

theorem Table.read_of_ok {α : Type} {call : World σ → Except DriverError α × World σ}
    {w : World σ} {a : α} (ha : (call w).1 = .ok a) (t : Table) (what : CatalogRead) :
    t.read what call w = (.ok a, (call w).2) := by
  unfold read
  dsimp only
  rw [ha]

theorem Columns.contains_ofDescribed (t : Table) (infos : List ColumnInfo) (name : String) :
    (ofDescribed t infos).contains name = infos.any fun info => Text.sameName info.name name := by
  have hany := OrderedMap.any_ofList (Text.sameName · name)
    (infos.map fun info => (info.name, info))
  rw [List.any_map] at hany
  unfold contains get? ofDescribed
  rw [Option.isSome_map, List.isSome_find?]
  exact hany

theorem Table.isListed_reflects (hr : Reflects σ dialect) (t : Table) (w : World σ) :
    (t.isListed w).1 = .ok (lists w.driver t.name) ∧
      SameCatalog w.driver (t.isListed w).2.driver := by
  obtain ⟨⟨names, hn⟩, hsame⟩ := hr.listTables w.driver
  have hread : t.read .listTables World.listTables w = (.ok names, w.listTables.2) :=
    Table.read_of_ok hn t .listTables
  unfold isListed lists
  rw [hread, hn]
  exact ⟨rfl, hsame⟩

theorem Table.columnsIfListed_reflects (hr : Reflects σ dialect) (t : Table) (w : World σ) :
    ∃ existing, (t.columnsIfListed w).1 = .ok existing ∧
      existing.isNone = !lists w.driver t.name ∧
      (∀ column : Ident, existing.any (fun c => c.contains column.name) =
        has w.driver t.name column) ∧
      SameCatalog w.driver (t.columnsIfListed w).2.driver := by
  obtain ⟨hlisted, hsame⟩ := t.isListed_reflects hr w
  unfold columnsIfListed
  dsimp only
  rw [hlisted]
  cases hl : lists w.driver t.name with
  | false =>
    refine ⟨none, rfl, rfl, ?_, hsame⟩
    intro column
    rw [has, hl]
    rfl
  | true =>
    obtain ⟨⟨infos, hi⟩, hsame'⟩ := hr.describeColumns (t.isListed w).2.driver t.name.name
    have hread : t.read .describeColumns (fun w => w.describeColumns t.name.name)
        (t.isListed w).2 = (.ok infos, ((t.isListed w).2.describeColumns t.name.name).2) :=
      Table.read_of_ok hi t .describeColumns
    dsimp only
    unfold Columns.load
    rw [hread]
    refine ⟨some (.ofDescribed t infos), rfl, rfl, ?_, hsame.trans hsame'⟩
    intro column
    rw [← hsame.has, has, hsame.lists, hl, hi]
    exact Columns.contains_ofDescribed t infos column.name

end Read

/-! ## Adding a column -/

section Add

variable {σ : Type} [Connection σ] {dialect : Dialect}

open Connection

theorem Execution.run_of_ok {x : Execution} {r : Rendered} {v w : World σ} {h : Handle}
    {o : Outcome} (hx : x.held = none) (hb : r.binds = [])
    (hv : v = w.note (.executing x.settings.debug r.sql)) (hp : (v.prepare r.sql).1 = .ok h)
    (he : ((v.prepare r.sql).2.execute h).1 = .ok o) :
    x.run r w = ⟨.ok (), { x.begin r with held := some h }.succeed o,
      ((v.prepare r.sql).2.execute h).2⟩ := by
  have hacquire : (x.begin r).acquire r.sql v =
      ⟨.ok h, { x.begin r with held := some h }, (v.prepare r.sql).2⟩ := by
    have hheld : (x.begin r).held = none := hx
    unfold acquire prepare discard
    rw [hheld]
    dsimp only
    rw [hp]
  have hperform : perform h r (v.prepare r.sql).2 =
      (.ok o, ((v.prepare r.sql).2.execute h).2) := by
    unfold perform
    rw [hb]
    dsimp only [bindFrom]
    rw [← he]
  subst hv
  unfold run runWithRetry attempt
  rw [show (x.begin r).settings = x.settings from rfl]
  dsimp only
  rw [hacquire]
  dsimp only
  rw [hperform]

theorem AddColumn.binds_render (dialect : Dialect) (a : AddColumn) :
    (a.render dialect).binds = [] := by
  unfold render definition
  cases a.default <;> split <;> rfl

/-- A statement that adds a column where that makes sense is sent once, succeeds, and shows. -/
theorem Table.runOnce_reflects (t : Table) (hr : Reflects σ t.settings.dialect) (a : AddColumn)
    {w : World σ} (hc : a.create = !lists w.driver a.table)
    (hn : has w.driver a.table a.column = false) {r : Rendered}
    (hsql : r = a.render t.settings.dialect) :
    (t.runOnce r w).1 = .ok () ∧ w.Sends [r.sql] (t.runOnce r w).2 ∧
      lists (t.runOnce r w).2.driver a.table = true ∧
      ∀ column, has (t.runOnce r w).2.driver a.table column =
        (has w.driver a.table column || Text.sameName a.column.name column.name) := by
  let h : Handle := ⟨w.prepared + 1, r.sql⟩
  let v := w.note (.executing t.settings.debug r.sql)
  let x : Execution := { settings := t.settings }
  obtain ⟨hprepare, hprepared⟩ := hr.prepare w.driver h
  obtain ⟨⟨o, ho⟩, hlisted, hhas⟩ := hr.execute (Connection.prepare h w.driver).2 h a
    (congrArg Rendered.sql hsql) (hc.trans (by rw [hprepared.lists]))
    ((hprepared.has _ _).trans hn)
  have hp : (v.prepare r.sql).1 = .ok h := congrArg (Except.map fun _ => h) hprepare
  have hrun : x.run r w = ⟨.ok (), { x.begin r with held := some h }.succeed o,
      ((v.prepare r.sql).2.execute h).2⟩ :=
    Execution.run_of_ok rfl (hsql ▸ a.binds_render _) rfl hp ho
  obtain ⟨answer, hclose, hdriver⟩ := Execution.close_world
    (Execution.succeed_held { x.begin r with held := some h } o) ((v.prepare r.sql).2.execute h).2
  have hclosed := hr.close ((v.prepare r.sql).2.execute h).2.driver h
  rw [← hdriver] at hclosed
  have honce : t.runOnce r w = (.ok (), (({ x.begin r with held := some h }.succeed o).close
      ((v.prepare r.sql).2.execute h).2).2) := by
    unfold runOnce
    rw [show Execution.run { settings := t.settings } r w = x.run r w from rfl, hrun]
  rw [honce]
  refine ⟨rfl, ⟨[.prepare h (.ok ()), .execute h (.ok o), .close h answer], ?_, rfl, rfl⟩, ?_, ?_⟩
  · have hsaid : w.Said [.prepare h (.ok ()), .execute h (.ok o)]
        ((v.prepare r.sql).2.execute h).2 := by
      rw [← hprepare, ← ho]
      rfl
    exact hsaid.trans hclose
  · exact (hclosed.lists _).trans hlisted
  · intro column
    rw [hclosed.has, ← hprepared.has]
    exact hhas column

def Table.addition (t : Table) (create : Bool) (p : Ident × Value) : String :=
  (AddColumn.render t.settings.dialect ⟨t.name, p.1, .forValue p.2, none, create⟩).sql

theorem Table.addColumn_reflects (t : Table) (hr : Reflects σ t.settings.dialect)
    {column : Ident} (v : Value) {w : World σ} (hn : has w.driver t.name column = false) :
    let a := t.addColumn (.forValue v) column none w
    a.1 = .ok () ∧ w.Sends [t.addition (!lists w.driver t.name) (column, v)] a.2 ∧
      lists a.2.driver t.name = true ∧
      ∀ c, has a.2.driver t.name c =
        (has w.driver t.name c || Text.sameName column.name c.name) := by
  intro a
  obtain ⟨existing, hexisting, hnone, hany, hsame⟩ := t.columnsIfListed_reflects hr w
  let d : AddColumn := ⟨t.name, column, .forValue v, none, existing.isNone⟩
  let r := d.render t.settings.dialect
  let u := (t.columnsIfListed w).2.note (.addingColumn t.name column r.sql)
  have hadd : a = t.runOnce r u := by
    unfold a addColumn
    rw [ColumnType.fault?_forValue]
    dsimp only
    rw [hexisting]
    dsimp only
    rw [hany, hn, if_neg (by decide)]
  obtain ⟨hok, hsends, hlisted, hhas⟩ := t.runOnce_reflects hr d (w := u)
    (hnone.trans (by rw [← hsame.lists]; rfl)) ((hsame.has _ _).trans hn) rfl
  rw [hadd]
  refine ⟨hok, ?_, hlisted, ?_⟩
  · rw [← hnone]
    exact (t.columnsIfListed_handsOff w).sends.trans hsends
  · intro c
    rw [← hsame.has]
    exact hhas c

end Add

end SqlClient
