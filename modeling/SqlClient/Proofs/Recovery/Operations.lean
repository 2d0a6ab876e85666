import SqlClient.Proofs.Migration.Stages

/-! # The reads of each operation on a table

Whatever reads the catalog, every one of its reads is tried again once, and only if it lost the
connection. A read that fails ends the operation with its error, and a column set that is refreshed
holds either what it held or exactly what is described now.
-/
namespace SqlClient

namespace Columns

/-- Each described name once, in the order of its first description, with the last one. -/
structure HoldsExactly (c : Columns) (infos : List ColumnInfo) : Prop where
  names : c.names = (infos.map ColumnInfo.name).eraseDups
  infos : c.infos.map some =
    c.names.map fun name => (infos.filter fun info => info.name = name).getLast?

theorem holdsExactly_ofDescribed (t : Table) (infos : List ColumnInfo) :
    (ofDescribed t infos).HoldsExactly infos := by
  constructor
  · rw [names, ofDescribed, OrderedMap.keys_ofList, List.map_map]
    rfl
  · have hkeys := OrderedMap.map_get?_keys
      (OrderedMap.nodup_keys_ofList (infos.map fun info => (info.name, info)))
    refine hkeys.symm.trans (List.map_congr_left fun name _ => ?_)
    rw [OrderedMap.get?_ofList, List.filter_map, List.getLast?_map, Option.map_map]
    exact Option.map_id'

end Columns

namespace Table

inductive Dropping (t : Table) (column : Ident) : Except QueryError Unit → List Exchange → Prop where
  | unread {e calls} : Heard (.describeColumns t.name.name) (.error e) calls →
      Dropping t column (.error (readError .describeColumns e)) calls
  | missing {infos calls} : Heard (.describeColumns t.name.name) (.ok infos) calls →
      (Columns.ofDescribed t infos).contains column.name = false →
      Dropping t column (.error (.schema t.name (.columnMissing column))) calls
  | sent {infos cs result ds} : Heard (.describeColumns t.name.name) (.ok infos) cs →
      (Columns.ofDescribed t infos).contains column.name = true →
      Sent (DropColumn.render ⟨t.name, column⟩) result ds →
      Dropping t column result (cs ++ ds)

/-- Each operation by its calls, in which every read of the catalog stands by itself: one call,
and after a lost connection what it takes to make it again and the call once more. -/
structure ReadsAgainOnce {σ : Type} [Connection σ] (t : Table) (w : World σ) : Prop where
  isListed : ∃ answer calls, w.Said calls (t.isListed w).2 ∧ Heard .listTables answer calls ∧
    (t.isListed w).1 =
      (answer.mapError (readError .listTables)).map fun names => names.any t.name.isNamed
  columns : ∃ answer calls, w.Said calls (Columns.load t w).2 ∧
    Heard (.describeColumns t.name.name) answer calls ∧
    (Columns.load t w).1 =
      (answer.mapError (readError .describeColumns)).map (Columns.ofDescribed t)
  refresh : ∀ c : Columns, c.table = t → ∃ answer calls, w.Said calls (c.refresh w).world ∧
    Heard (.describeColumns t.name.name) answer calls ∧
    ((∃ e, answer = .error e ∧ (c.refresh w).result = .error (readError .describeColumns e) ∧
        (c.refresh w).next = c) ∨
      ∃ infos, answer = .ok infos ∧ (c.refresh w).result = .ok () ∧
        (c.refresh w).next.table = t ∧ (c.refresh w).next.HoldsExactly infos)
  insert : ∃ answer calls, w.Said calls (t.insert w).2 ∧ t.Looked answer calls ∧
    ∀ e, (t.insert w).1 = .error e ↔ answer = .error e
  primaryKey : ∃ answer calls, w.Said calls (t.primaryKey w).2 ∧
    Heard (.describeColumns t.name.name) answer calls ∧
    (t.primaryKey w).1 = (answer.mapError (readError .describeColumns)).map fun infos =>
      (Columns.ofDescribed t infos).primaryKey
  addColumn : ∀ type column default, ∃ calls,
    w.Said calls (t.addColumn type column default w).2 ∧
    t.Adding type column default (t.addColumn type column default w).1 calls
  dropColumn : ∀ column, ∃ calls, w.Said calls (t.dropColumn column w).2 ∧
    t.Dropping column (t.dropColumn column w).1 calls
  ensureColumns : ∀ pairs, ∃ lacking done result calls,
    w.Said calls (t.ensureColumns pairs w).2 ∧ t.Migrating pairs lacking done result calls ∧
    (t.ensureColumns pairs w).1 = result.map fun _ => done.map Prod.fst

section Operations

variable {σ : Type} [Connection σ]

theorem isListed_heard (t : Table) (w : World σ) :
    ∃ answer calls, w.Said calls (t.isListed w).2 ∧ Heard .listTables answer calls ∧
      (t.isListed w).1 =
        (answer.mapError (readError .listTables)).map fun names => names.any t.name.isNamed := by
  obtain ⟨answer, calls, hheard, hs, hread⟩ := t.read_heard World.said_listTables .listTables w
  refine ⟨answer, calls, hs, hheard, ?_⟩
  unfold isListed
  dsimp only
  rw [hread]

theorem load_heard (t : Table) (w : World σ) :
    ∃ answer calls, w.Said calls (Columns.load t w).2 ∧
      Heard (.describeColumns t.name.name) answer calls ∧
      (Columns.load t w).1 =
        (answer.mapError (readError .describeColumns)).map (Columns.ofDescribed t) := by
  obtain ⟨answer, calls, hheard, hs, hread⟩ :=
    t.read_heard (World.said_describeColumns t.name.name) .describeColumns w
  refine ⟨answer, calls, hs, hheard, ?_⟩
  unfold Columns.load
  dsimp only
  rw [hread]

theorem refresh_heard {t : Table} {c : Columns} (hc : c.table = t) (w : World σ) :
    ∃ answer calls, w.Said calls (c.refresh w).world ∧
      Heard (.describeColumns t.name.name) answer calls ∧
      ((∃ e, answer = .error e ∧ (c.refresh w).result = .error (readError .describeColumns e) ∧
          (c.refresh w).next = c) ∨
        ∃ infos, answer = .ok infos ∧ (c.refresh w).result = .ok () ∧
          (c.refresh w).next.table = t ∧ (c.refresh w).next.HoldsExactly infos) := by
  subst hc
  obtain ⟨answer, calls, hs, hheard, hload⟩ := c.table.load_heard w
  refine ⟨answer, calls, ?_, hheard, ?_⟩
  · unfold Columns.refresh
    dsimp only
    split <;> exact hs
  · unfold Columns.refresh
    dsimp only
    rw [hload]
    cases answer with
    | error e => exact Or.inl ⟨e, rfl, rfl, rfl⟩
    | ok infos => exact Or.inr ⟨infos, rfl, rfl, rfl, Columns.holdsExactly_ofDescribed _ infos⟩

theorem insert_looked (t : Table) (w : World σ) :
    ∃ answer calls, w.Said calls (t.insert w).2 ∧ t.Looked answer calls ∧
      ∀ e, (t.insert w).1 = .error e ↔ answer = .error e := by
  obtain ⟨calls, hs, hlooked⟩ := t.columnsIfListed_looked w
  refine ⟨_, calls, hs, hlooked, fun e => ?_⟩
  unfold insert
  dsimp only
  cases (t.columnsIfListed w).1 with
  | error e' => simp [Except.map]
  | ok columns => simp [Except.map]

theorem primaryKey_heard (t : Table) (w : World σ) :
    ∃ answer calls, w.Said calls (t.primaryKey w).2 ∧
      Heard (.describeColumns t.name.name) answer calls ∧
      (t.primaryKey w).1 = (answer.mapError (readError .describeColumns)).map fun infos =>
        (Columns.ofDescribed t infos).primaryKey := by
  obtain ⟨answer, calls, hs, hheard, hload⟩ := t.load_heard w
  refine ⟨answer, calls, hs, hheard, ?_⟩
  unfold primaryKey
  dsimp only
  rw [hload]
  cases answer <;> rfl

theorem dropColumn_dropping (t : Table) (column : Ident) (w : World σ) :
    ∃ calls, w.Said calls (t.dropColumn column w).2 ∧
      t.Dropping column (t.dropColumn column w).1 calls := by
  obtain ⟨answer, cs, hs, hheard, hload⟩ := t.load_heard w
  unfold dropColumn
  dsimp only
  rw [hload]
  cases answer with
  | error e => exact ⟨cs, hs, .unread hheard⟩
  | ok infos =>
    dsimp only [Except.mapError, Except.map]
    cases hc : (Columns.ofDescribed t infos).contains column.name with
    | false => exact ⟨cs, hs, .missing hheard hc⟩
    | true =>
      rw [if_pos rfl]
      obtain ⟨ds, ht, hsent⟩ := t.runOnce_sent (DropColumn.render ⟨t.name, column⟩)
        ((Columns.load t w).2.note
          (.droppingColumn t.name column (DropColumn.render ⟨t.name, column⟩).sql))
      exact ⟨cs ++ ds, hs.trans ht.of_note, .sent hheard hc hsent⟩

end Operations

/-- Every read of the catalog, whatever operation makes it, is one call, or two around a connection
that was lost and made again. Its error names the loss of the connection, if that was its last, and
otherwise what the driver said. -/
theorem catalog_read_again_once {σ : Type} [Connection σ] (t : Table) (w : World σ) :
    t.ReadsAgainOnce w ∧
      ∀ (what : CatalogRead) (e : DriverError), readError what e =
        match e.kind with
        | .connectionLost => .connection e (.text what.name)
        | .other => .driver e (.text what.name) :=
  ⟨{ isListed := t.isListed_heard w
     columns := t.load_heard w
     refresh := fun _ hc => refresh_heard hc w
     insert := t.insert_looked w
     primaryKey := t.primaryKey_heard w
     addColumn := fun type column default => t.addColumn_adding type column default w
     dropColumn := fun column => t.dropColumn_dropping column w
     ensureColumns := fun pairs => t.ensureColumns_migrating pairs w },
    fun _ e => Execution.ofDriver_eq e _⟩

end Table

end SqlClient
