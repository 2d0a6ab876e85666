import SqlClient.Proofs.Execution.Retry
import SqlClient.Statement

/-! # Reads of the catalog that lose the connection

A read of the catalog that loses the connection, and succeeds once the connection has been made
again, gives what it gives when it succeeds at once.
-/
namespace SqlClient

/-- Reads that all succeed at once, and the same reads when some of them lose the connection first
and succeed after it has been made again. -/
inductive Recovers : List Exchange → List Exchange → Prop where
  | done : Recovers [] []
  | listed {names cs ds} : Recovers cs ds →
      Recovers (.listTables (.ok names) :: cs) (.listTables (.ok names) :: ds)
  | listedAgain {names e cs ds} (alive : Bool) : e.kind = .connectionLost → Recovers cs ds →
      Recovers (.listTables (.ok names) :: cs)
        (.listTables (.error e) :: .isAlive alive :: .reconnect true ::
          .listTables (.ok names) :: ds)
  | described {table infos cs ds} : Recovers cs ds →
      Recovers (.describeColumns table (.ok infos) :: cs)
        (.describeColumns table (.ok infos) :: ds)
  | describedAgain {table infos e cs ds} (alive : Bool) : e.kind = .connectionLost →
      Recovers cs ds →
      Recovers (.describeColumns table (.ok infos) :: cs)
        (.describeColumns table (.error e) :: .isAlive alive :: .reconnect true ::
          .describeColumns table (.ok infos) :: ds)

/-- What is read does not depend on whether the connection was lost and made again: the reads
succeed, with the same value. -/
def LossInvisible {β : Type}
    (f : ∀ (σ : Type) [Connection σ], World σ → Except QueryError β × World σ) : Prop :=
  ∀ {σ τ : Type} [Connection σ] [Connection τ] {w : World σ} {v : World τ}
    {cs ds : List Exchange}, w.Said cs (f σ w).2 → v.Said ds (f τ v).2 → Recovers cs ds →
    ∃ b, (f σ w).1 = .ok b ∧ (f τ v).1 = .ok b

/-! ## One read -/

inductive Heard {α : Type} (ask : Except DriverError α → Exchange) :
    Except DriverError α → List Exchange → Prop where
  | answered (a : α) : Heard ask (.ok a) [ask (.ok a)]
  | failed {e} : e.kind = .other → Heard ask (.error e) [ask (.error e)]
  | refused {e} (alive : Bool) : e.kind = .connectionLost →
      Heard ask (.error e) [ask (.error e), .isAlive alive, .reconnect false]
  | again {e} (alive : Bool) (answer) : e.kind = .connectionLost →
      Heard ask answer [ask (.error e), .isAlive alive, .reconnect true, ask answer]

/-- Calls that read the catalog: their first answer in a recovery is known from the reads that
succeed at once. -/
structure Recovering {α : Type} (ask : Except DriverError α → Exchange) : Prop where
  injective : ∀ {a b}, ask a = ask b → a = b
  cases : ∀ {answer cs ds}, Recovers (ask answer :: cs) ds →
    ∃ a rest, answer = .ok a ∧ Recovers cs rest ∧
      (ds = ask (.ok a) :: rest ∨
        ∃ e alive, e.kind = .connectionLost ∧
          ds = ask (.error e) :: .isAlive alive :: .reconnect true :: ask (.ok a) :: rest)

theorem recovering_listTables : Recovering Exchange.listTables := by
  constructor
  · intro a b h
    cases h
    rfl
  · intro answer cs ds h
    cases h with
    | listed h => exact ⟨_, _, rfl, h, Or.inl rfl⟩
    | listedAgain alive he h => exact ⟨_, _, rfl, h, Or.inr ⟨_, alive, he, rfl⟩⟩

theorem recovering_describeColumns (table : String) :
    Recovering (Exchange.describeColumns table) := by
  constructor
  · intro a b h
    cases h
    rfl
  · intro answer cs ds h
    cases h with
    | described h => exact ⟨_, _, rfl, h, Or.inl rfl⟩
    | describedAgain alive he h => exact ⟨_, _, rfl, h, Or.inr ⟨_, alive, he, rfl⟩⟩

/-- Reads that recover give the same answer, and so may what follows them. -/
theorem Heard.recovers {α : Type} {ask : Except DriverError α → Exchange}
    {a b : Except DriverError α} {c d cs ds : List Exchange} (hask : Recovering ask)
    (ha : Heard ask a c) (hb : Heard ask b d) (h : Recovers (c ++ cs) (d ++ ds)) :
    ∃ x, a = .ok x ∧ b = .ok x ∧ Recovers cs ds := by
  have failing : ∀ {e cs ds}, ¬ Recovers (ask (.error e) :: cs) ds := by
    intro e cs ds h
    obtain ⟨x, -, hx, -⟩ := hask.cases h
    cases hx
  have differ : ∀ {x e}, ask (.ok x) ≠ ask (.error e) := by
    intro x e h
    cases hask.injective h
  cases ha with
  | failed | refused | again => exact absurd h failing
  | answered x =>
    obtain ⟨y, rest, hy, hrest, hd⟩ := hask.cases h
    cases hy
    refine ⟨x, rfl, ?_⟩
    cases hb with
    | answered z =>
      rcases hd with hd | ⟨e, alive, -, hd⟩
      · obtain ⟨hz, rfl⟩ := List.cons.inj hd
        cases hask.injective hz
        exact ⟨rfl, hrest⟩
      · exact absurd (List.cons.inj hd).1 differ
    | failed he =>
      rcases hd with hd | ⟨e, alive, hl, hd⟩
      · exact absurd (List.cons.inj hd).1.symm differ
      · cases hask.injective (List.cons.inj hd).1
        rw [he] at hl
        cases hl
    | refused alive he =>
      rcases hd with hd | ⟨e, alive', -, hd⟩
      · exact absurd (List.cons.inj hd).1.symm differ
      · obtain ⟨-, hd⟩ := List.cons.inj hd
        simp at hd
    | again alive answer he =>
      rcases hd with hd | ⟨e, alive', -, hd⟩
      · exact absurd (List.cons.inj hd).1.symm differ
      · obtain ⟨-, hd⟩ := List.cons.inj hd
        obtain ⟨-, hd⟩ := List.cons.inj hd
        obtain ⟨-, hd⟩ := List.cons.inj hd
        obtain ⟨hz, rfl⟩ := List.cons.inj hd
        exact ⟨hask.injective hz, hrest⟩

section Reads

variable {σ τ : Type} [Connection σ] [Connection τ] {w : World σ} {v : World τ}
  {c d cs ds : List Exchange}

theorem World.said_listTables (w : World σ) :
    w.Said [.listTables w.listTables.1] w.listTables.2 := rfl

theorem World.said_describeColumns (table : String) (w : World σ) :
    w.Said [.describeColumns table (w.describeColumns table).1] (w.describeColumns table).2 := rfl

theorem Table.read_heard {α : Type} {ask : Except DriverError α → Exchange}
    {call : World σ → Except DriverError α × World σ}
    (hcall : ∀ w : World σ, w.Said [ask (call w).1] (call w).2) (t : Table) (what : CatalogRead)
    (w : World σ) :
    ∃ answer calls, Heard ask answer calls ∧ w.Said calls (t.read what call w).2 ∧
      (t.read what call w).1 = answer.mapError (readError what) := by
  have hfirst := hcall w
  unfold read
  dsimp only
  cases ha : (call w).1 with
  | ok a =>
    rw [ha] at hfirst
    exact ⟨_, _, .answered a, hfirst, rfl⟩
  | error e =>
    rw [ha] at hfirst
    dsimp only
    by_cases he : e.isConnectionLost = true
    · have hkind := Execution.isConnectionLost_iff.mp he
      rw [if_pos he]
      generalize hu : ((call w).2.isAlive.2.note (.catalogLost what t.name e
        (call w).2.isAlive.1)) = u
      have halive : (call w).2.Said [.isAlive (call w).2.isAlive.1] u := by
        rw [← hu]
        rfl
      have hback : u.Said [.reconnect u.reconnect.1] u.reconnect.2 := rfl
      have hall := (hfirst.trans halive).trans hback
      cases hb : u.reconnect.1 with
      | false =>
        rw [hb] at hall
        exact ⟨_, _, .refused _ hkind, hall, rfl⟩
      | true =>
        rw [hb] at hall
        exact ⟨_, _, .again _ _ hkind, hall.trans (hcall u.reconnect.2), rfl⟩
    · rw [if_neg he]
      exact ⟨_, _, .failed (Execution.other_of_not_lost he), hfirst, rfl⟩

theorem Table.read_recovers {α : Type} {ask : Except DriverError α → Exchange}
    (hask : Recovering ask) {call : World σ → Except DriverError α × World σ}
    {call' : World τ → Except DriverError α × World τ}
    (hcall : ∀ w : World σ, w.Said [ask (call w).1] (call w).2)
    (hcall' : ∀ v : World τ, v.Said [ask (call' v).1] (call' v).2) {t : Table} {what : CatalogRead}
    (hc : w.Said c (t.read what call w).2) (hd : v.Said d (t.read what call' v).2)
    (h : Recovers (c ++ cs) (d ++ ds)) :
    ∃ a, (t.read what call w).1 = .ok a ∧ (t.read what call' v).1 = .ok a ∧ Recovers cs ds := by
  obtain ⟨a, c', ha, hc', hw⟩ := t.read_heard hcall what w
  obtain ⟨b, d', hb, hd', hv⟩ := t.read_heard hcall' what v
  cases hc.unique hc'
  cases hd.unique hd'
  obtain ⟨x, rfl, rfl, hrest⟩ := ha.recovers hask hb h
  exact ⟨x, hw, hv, hrest⟩

/-! ## What is made of the reads -/

variable {t : Table}

theorem Table.isListed_recovers (hc : w.Said c (t.isListed w).2) (hd : v.Said d (t.isListed v).2)
    (h : Recovers (c ++ cs) (d ++ ds)) :
    ∃ b, (t.isListed w).1 = .ok b ∧ (t.isListed v).1 = .ok b ∧ Recovers cs ds := by
  obtain ⟨names, hw, hv, hrest⟩ :=
    read_recovers recovering_listTables World.said_listTables World.said_listTables hc hd h
  refine ⟨names.any t.name.isNamed, ?_, ?_, hrest⟩
  · unfold isListed
    dsimp only
    rw [hw]
    rfl
  · unfold isListed
    dsimp only
    rw [hv]
    rfl

theorem Columns.load_recovers (hc : w.Said c (load t w).2) (hd : v.Said d (load t v).2)
    (h : Recovers (c ++ cs) (d ++ ds)) :
    ∃ columns, (load t w).1 = .ok columns ∧ (load t v).1 = .ok columns ∧ Recovers cs ds := by
  obtain ⟨infos, hw, hv, hrest⟩ := Table.read_recovers (recovering_describeColumns t.name.name)
    (World.said_describeColumns t.name.name) (World.said_describeColumns t.name.name) hc hd h
  refine ⟨ofDescribed t infos, ?_, ?_, hrest⟩
  · unfold load
    dsimp only
    rw [hw]
    rfl
  · unfold load
    dsimp only
    rw [hv]
    rfl

theorem Table.columnsIfListed_said (t : Table) (w : World σ) :
    ∃ first rest, w.Said first (t.isListed w).2 ∧
      (t.isListed w).2.Said rest (t.columnsIfListed w).2 := by
  obtain ⟨-, first, -, hfirst, -⟩ := t.read_heard World.said_listTables .listTables w
  obtain ⟨-, rest, -, hrest, -⟩ :=
    t.read_heard (World.said_describeColumns t.name.name) .describeColumns (t.isListed w).2
  unfold columnsIfListed
  dsimp only
  split
  · exact ⟨first, [], hfirst, .refl _⟩
  · exact ⟨first, [], hfirst, .refl _⟩
  · exact ⟨first, rest, hfirst, hrest⟩

theorem Table.columnsIfListed_recovers (hc : w.Said c (t.columnsIfListed w).2)
    (hd : v.Said d (t.columnsIfListed v).2) (h : Recovers (c ++ cs) (d ++ ds)) :
    ∃ columns, (t.columnsIfListed w).1 = .ok columns ∧ (t.columnsIfListed v).1 = .ok columns ∧
      Recovers cs ds := by
  obtain ⟨c₁, c₂, hc₁, hc₂⟩ := t.columnsIfListed_said w
  obtain ⟨d₁, d₂, hd₁, hd₂⟩ := t.columnsIfListed_said v
  cases hc.unique (hc₁.trans hc₂)
  cases hd.unique (hd₁.trans hd₂)
  rw [List.append_assoc, List.append_assoc] at h
  obtain ⟨listed, hw, hv, hrest⟩ := isListed_recovers hc₁ hd₁ h
  unfold columnsIfListed at hc₂ hd₂ ⊢
  dsimp only at hc₂ hd₂ ⊢
  rw [hw] at hc₂ ⊢
  rw [hv] at hd₂ ⊢
  cases listed with
  | false =>
    cases hc₂.unique (.refl _)
    cases hd₂.unique (.refl _)
    exact ⟨none, rfl, rfl, hrest⟩
  | true =>
    obtain ⟨columns, hw', hv', hend⟩ := Columns.load_recovers hc₂ hd₂ hrest
    dsimp only
    rw [hw', hv']
    exact ⟨some columns, rfl, rfl, hend⟩

end Reads

theorem Table.isListed_lossInvisible (t : Table) : LossInvisible fun _ _ w => t.isListed w := by
  intro σ τ _ _ w v cs ds hc hd h
  rw [← List.append_nil cs, ← List.append_nil ds] at h
  obtain ⟨b, hw, hv, -⟩ := isListed_recovers hc hd h
  exact ⟨b, hw, hv⟩

theorem Columns.load_lossInvisible (t : Table) : LossInvisible fun _ _ w => load t w := by
  intro σ τ _ _ w v cs ds hc hd h
  rw [← List.append_nil cs, ← List.append_nil ds] at h
  obtain ⟨columns, hw, hv, -⟩ := load_recovers hc hd h
  exact ⟨columns, hw, hv⟩

theorem Columns.refresh_lossInvisible (c : Columns) :
    LossInvisible fun _ _ w =>
      ((c.refresh w).result.map fun _ => (c.refresh w).next, (c.refresh w).world) := by
  have hload : ∀ {σ : Type} [Connection σ] {w : World σ} {columns : Columns},
      (load c.table w).1 = .ok columns →
        c.refresh w = ⟨.ok (), columns, (load c.table w).2⟩ := by
    intro σ _ w columns hw
    unfold refresh
    dsimp only
    rw [hw]
  have hworld : ∀ {σ : Type} [Connection σ] (w : World σ),
      (c.refresh w).world = (load c.table w).2 := by
    intro σ _ w
    unfold refresh
    dsimp only
    split <;> rfl
  intro σ τ _ _ w v cs ds hc hd h
  dsimp only at hc hd
  rw [hworld] at hc hd
  obtain ⟨columns, hw, hv⟩ := load_lossInvisible c.table hc hd h
  refine ⟨columns, ?_, ?_⟩
  · dsimp only
    rw [hload hw]
    rfl
  · dsimp only
    rw [hload hv]
    rfl

theorem Table.insert_lossInvisible (t : Table) : LossInvisible fun _ _ w => t.insert w := by
  intro σ τ _ _ w v cs ds hc hd h
  rw [← List.append_nil cs, ← List.append_nil ds] at h
  obtain ⟨columns, hw, hv, -⟩ := columnsIfListed_recovers hc hd h
  unfold insert
  dsimp only
  rw [hw, hv]
  exact ⟨_, rfl, rfl⟩

theorem Table.primaryKey_lossInvisible (t : Table) :
    LossInvisible fun _ _ w => t.primaryKey w := by
  intro σ τ _ _ w v cs ds hc hd h
  obtain ⟨columns, hw, hv⟩ := Columns.load_lossInvisible t hc hd h
  unfold primaryKey
  dsimp only
  rw [hw, hv]
  exact ⟨columns.primaryKey, rfl, rfl⟩

end SqlClient
