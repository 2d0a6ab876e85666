import SqlClient.Proofs.Execution.Handles
import SqlClient.Proofs.Recovery.Catalog

/-! # The stages of a migration

The columns that a table lacks are added one after the other, each after another look at the
catalog. A stage that fails is the last one, and its error is what the whole ends with; it can be
told from what has been said to the driver.
-/
namespace SqlClient

/-- The pairs whose column is not known, each column where it occurs first. -/
def unknownFirsts (known : Ident → Bool) (pairs : List (Ident × Value)) : List (Ident × Value) :=
  (pairs.filter fun p => !known p.1).eraseDupsBy fun p q => p.1 == q.1

section Firsts

variable {known : Ident → Bool} {p : Ident × Value} (pairs : List (Ident × Value))

theorem unknownFirsts_of_known (h : known p.1 = true) :
    unknownFirsts known (p :: pairs) = unknownFirsts known pairs := by
  unfold unknownFirsts
  rw [List.filter_cons_of_neg (by simp [h])]

theorem unknownFirsts_of_unknown (h : known p.1 = false) :
    unknownFirsts known (p :: pairs) = p :: unknownFirsts (fun c => known c || c == p.1) pairs := by
  unfold unknownFirsts
  rw [List.filter_cons_of_pos (by simp [h]), List.eraseDupsBy_cons, List.filter_filter]
  congr 2
  apply List.filter_congr
  intro q _
  rw [Bool.not_or, Bool.and_comm]
  cases q.1 == p.1 <;> rfl

theorem unknownFirsts_of_nodup (h : (pairs.map Prod.fst).Nodup) :
    unknownFirsts known pairs = pairs.filter fun p => !known p.1 := by
  induction pairs generalizing known with
  | nil => rfl
  | cons p pairs ih =>
    obtain ⟨hp, hrest⟩ := List.nodup_cons.mp h
    cases hk : known p.1 with
    | true => rw [unknownFirsts_of_known pairs hk, List.filter_cons_of_neg (by simp [hk]), ih hrest]
    | false =>
      rw [unknownFirsts_of_unknown pairs hk, List.filter_cons_of_pos (by simp [hk]), ih hrest]
      congr 1
      apply List.filter_congr
      intro q hq
      have hne : (q.1 == p.1) = false :=
        beq_false_of_ne fun heq => hp (heq ▸ List.mem_map_of_mem hq)
      rw [hne, Bool.or_false]

end Firsts

theorem ColumnType.fault?_forValue (v : Value) : (forValue v).fault? = none := by
  cases v with
  | text s =>
    unfold forValue
    dsimp only
    split
    · decide
    · rfl
  | null | bool | int | uint | float | bytes => rfl

namespace Table

def definition (t : Table) (create : Bool) (p : Ident × Value) : Rendered :=
  AddColumn.render t.settings.dialect ⟨t.name, p.1, .forValue p.2, none, create⟩

def shows (columns : Option Columns) (c : Ident) : Bool := columns.any fun cs => cs.contains c.name

/-! ## How a stage goes -/

/-- A look at the catalog: is the table there, and if so, with which columns? -/
inductive Looked (t : Table) : Except QueryError (Option Columns) → List Exchange → Prop where
  | unlisted {e calls} : Heard .listTables (.error e) calls →
      Looked t (.error (readError .listTables e)) calls
  | absent {names calls} : Heard .listTables (.ok names) calls →
      names.any t.name.isNamed = false → Looked t (.ok none) calls
  | undescribed {names cs e ds} : Heard .listTables (.ok names) cs →
      names.any t.name.isNamed = true → Heard (.describeColumns t.name.name) (.error e) ds →
      Looked t (.error (readError .describeColumns e)) (cs ++ ds)
  | described {names cs infos ds} : Heard .listTables (.ok names) cs →
      names.any t.name.isNamed = true → Heard (.describeColumns t.name.name) (.ok infos) ds →
      Looked t (.ok (some (.ofDescribed t infos))) (cs ++ ds)

/-- A statement that changes the columns of a table is run on an execution of its own, which is
closed if that ends well. -/
inductive Sent (r : Rendered) : Except QueryError Unit → List Exchange → Prop where
  | refused {n first back second kept calls m e} :
      Execution.Ran r n none first back second kept calls m → second.getD first = .error e →
      Sent r (.error (.ofDriver e r)) calls
  | accepted {n first back second kept calls m o closing} :
      Execution.Ran r n none first back second kept calls m → second.getD first = .ok o →
      Execution.Discarded kept closing → Sent r (.ok ()) (calls ++ closing)

/-- A column is added by the statement for it, unless its type is refused, or the catalog cannot be
read or shows it already. -/
inductive Adding (t : Table) (type : ColumnType) (column : Ident) (default : Option Value) :
    Except QueryError Unit → List Exchange → Prop where
  | forbidden {f} : type.fault? = some f →
      Adding t type column default (.error (.schema t.name f)) []
  | unread {e calls} : type.fault? = none → t.Looked (.error e) calls →
      Adding t type column default (.error e) calls
  | conflict {columns calls} : type.fault? = none → t.Looked (.ok columns) calls →
      shows columns column = true →
      Adding t type column default (.error (.schema t.name (.columnExists column))) calls
  | sent {columns cs result ds} : type.fault? = none → t.Looked (.ok columns) cs →
      shows columns column = false →
      Sent (AddColumn.render t.settings.dialect ⟨t.name, column, type, default, columns.isNone⟩)
        result ds →
      Adding t type column default result (cs ++ ds)

/-- A column is added, or it is refused: the catalog cannot be read or shows it already, or the
statement that adds it fails. -/
inductive Stage (t : Table) (p : Ident × Value) :
    Except QueryError Unit → List Exchange → Prop where
  | unread {e calls} : t.Looked (.error e) calls → Stage t p (.error e) calls
  | conflict {columns calls} : t.Looked (.ok columns) calls → shows columns p.1 = true →
      Stage t p (.error (.schema t.name (.columnExists p.1))) calls
  | refused {columns cs n first back second kept ds m e} : t.Looked (.ok columns) cs →
      shows columns p.1 = false →
      Execution.Ran (t.definition columns.isNone p) n none first back second kept ds m →
      second.getD first = .error e →
      Stage t p (.error (.ofDriver e (t.definition columns.isNone p))) (cs ++ ds)
  | added {columns cs n first back second kept ds m o closing} : t.Looked (.ok columns) cs →
      shows columns p.1 = false →
      Execution.Ran (t.definition columns.isNone p) n none first back second kept ds m →
      second.getD first = .ok o → Execution.Discarded kept closing →
      Stage t p (.ok ()) (cs ++ ds ++ closing)

/-- The stages for the columns that are lacking, up to the first that fails: those that have been
added, how it ends, and the calls. -/
inductive Stages (t : Table) : List (Ident × Value) → List (Ident × Value) →
    Except QueryError Unit → List Exchange → Prop where
  | finished : Stages t [] [] (.ok ()) []
  | stopped {p rest e calls} : t.Stage p (.error e) calls → Stages t (p :: rest) [] (.error e) calls
  | added {p rest done result cs ds} : t.Stage p (.ok ()) cs → Stages t rest done result ds →
      Stages t (p :: rest) (p :: done) result (cs ++ ds)

variable {t : Table} {p : Ident × Value} {calls : List Exchange} {h : Handle}
  {lacking done : List (Ident × Value)} {result : Except QueryError Unit}

theorem Stages.prefix_done (hs : t.Stages lacking done result calls) : done <+: lacking := by
  induction hs with
  | finished => exact List.prefix_refl []
  | stopped => exact List.nil_prefix
  | added _ _ ih => exact (List.cons_prefix_cons).mpr ⟨rfl, ih⟩

theorem Stages.ok_iff (hs : t.Stages lacking done result calls) :
    result = .ok () ↔ done = lacking := by
  induction hs with
  | finished => simp
  | stopped => simp
  | added _ _ ih => simpa using ih

/-! ## The handles of the stages -/

/-- Calls that are about no handle but those for statements that add columns to the table. -/
def Defining (t : Table) (calls : List Exchange) : Prop :=
  ∀ c ∈ calls, ∀ h, c.handle? = some h → ∃ create p, h.text = (t.definition create p).sql

theorem Defining.append {cs ds : List Exchange} (hc : t.Defining cs) (hd : t.Defining ds) :
    t.Defining (cs ++ ds) :=
  List.forall_mem_append.mpr ⟨hc, hd⟩

theorem defining_of_outside (hc : ∀ c ∈ calls, c.handle? = none) : t.Defining calls := by
  intro c hmem h hh
  rw [hc c hmem] at hh
  cases hh

theorem Heard.outside {α : Type} {ask : Except DriverError α → Exchange}
    {answer : Except DriverError α} (hask : ∀ a, (ask a).handle? = none)
    (hh : Heard ask answer calls) : ∀ c ∈ calls, c.handle? = none := by
  have halive : ∀ b, (Exchange.isAlive b).handle? = none := fun _ => rfl
  have hback : ∀ b, (Exchange.reconnect b).handle? = none := fun _ => rfl
  cases hh <;> simp [hask, halive, hback]

theorem Looked.outside {answer : Except QueryError (Option Columns)}
    (hl : t.Looked answer calls) : ∀ c ∈ calls, c.handle? = none := by
  have hlist : ∀ a, (Exchange.listTables a).handle? = none := fun _ => rfl
  have hdescribe : ∀ a, (Exchange.describeColumns t.name.name a).handle? = none := fun _ => rfl
  cases hl with
  | unlisted h => exact Heard.outside hlist h
  | absent h => exact Heard.outside hlist h
  | undescribed h _ k =>
    exact List.forall_mem_append.mpr ⟨Heard.outside hlist h, Heard.outside hdescribe k⟩
  | described h _ k =>
    exact List.forall_mem_append.mpr ⟨Heard.outside hlist h, Heard.outside hdescribe k⟩

theorem defining_of_ran {create : Bool} {n m : Nat} {first : Except DriverError Outcome}
    {back : Option Bool} {second : Option (Except DriverError Outcome)} {kept : Option Handle}
    (hran : Execution.Ran (t.definition create p) n none first back second kept calls m)
    {closing : List Exchange} (hd : Execution.Discarded kept closing) :
    t.Defining calls ∧ t.Defining closing := by
  have hown : ∀ {h : Handle},
      none = some h ∨ Execution.New (· = (t.definition create p).sql) n m h →
        ∃ create p, h.text = (t.definition create p).sql := by
    rintro h (hh | ⟨htext, -⟩)
    · cases hh
    · exact ⟨create, p, htext⟩
  constructor
  · intro c hc h hh
    exact hown (hran.accounted.about c hc h hh)
  · intro c hc h hh
    cases hd with
    | nothing => cases hc
    | closed k a =>
      cases List.mem_singleton.mp hc
      cases hh
      exact hown (hran.accounted.keeps _ rfl)

theorem Stage.defining (hs : t.Stage p result calls) : t.Defining calls := by
  cases hs with
  | unread hl => exact defining_of_outside hl.outside
  | conflict hl => exact defining_of_outside hl.outside
  | refused hl _ hr he =>
    have hnone := hr.kept_of_error he
    subst hnone
    exact (defining_of_outside hl.outside).append (defining_of_ran hr .nothing).1
  | added hl _ hr _ hd =>
    obtain ⟨hrun, hclosing⟩ := defining_of_ran hr hd
    exact ((defining_of_outside hl.outside).append hrun).append hclosing

theorem Stages.defining (hs : t.Stages lacking done result calls) : t.Defining calls := by
  induction hs with
  | finished => exact defining_of_outside (by simp)
  | stopped hone => exact hone.defining
  | added hone _ ih => exact hone.defining.append ih

/-! ## The functions that add columns -/

section Spec

variable {σ : Type} [Connection σ]

theorem columnsIfListed_looked (t : Table) (w : World σ) :
    ∃ calls, w.Said calls (t.columnsIfListed w).2 ∧ t.Looked (t.columnsIfListed w).1 calls := by
  obtain ⟨names, cs, hnames, hs, hlisted⟩ :=
    t.read_heard World.said_listTables .listTables w
  obtain ⟨infos, ds, hinfos, ht, hloaded⟩ :=
    t.read_heard (World.said_describeColumns t.name.name) .describeColumns (t.isListed w).2
  unfold columnsIfListed isListed Columns.load at *
  dsimp only at *
  rw [hlisted]
  cases names with
  | error e => exact ⟨cs, hs, .unlisted hnames⟩
  | ok names =>
    dsimp only [Except.mapError, Except.map]
    cases hany : names.any t.name.isNamed with
    | false => exact ⟨cs, hs, .absent hnames hany⟩
    | true =>
      dsimp only
      rw [hloaded]
      cases infos with
      | error e => exact ⟨cs ++ ds, hs.trans ht, .undescribed hnames hany hinfos⟩
      | ok infos => exact ⟨cs ++ ds, hs.trans ht, .described hnames hany hinfos⟩

theorem runOnce_sent (t : Table) (r : Rendered) (w : World σ) :
    ∃ calls, w.Said calls (t.runOnce r w).2 ∧ Sent r (t.runOnce r w).1 calls := by
  obtain ⟨first, back, second, kept, calls, hran, hs, hend⟩ :=
    Execution.run_cases { settings := t.settings } r w
  unfold runOnce
  dsimp only
  generalize Execution.run { settings := t.settings } r w = a at hran hs hend ⊢
  obtain ⟨result, x, v⟩ := a
  dsimp only at hran hs hend ⊢
  rcases hend with ⟨o, ho, rfl, rfl⟩ | ⟨e, he, rfl, -⟩
  · obtain ⟨closing, hd, hc, -⟩ := Execution.discard_world
      { Execution.succeed { Execution.begin { settings := t.settings } r with held := kept } o with
        cursor := none, fresh := false } v
    have hheld := Execution.succeed_held
      { Execution.begin { settings := t.settings } r with held := kept } o
    rw [hheld] at hd
    exact ⟨calls ++ closing, hs.trans hc, .accepted hran ho hd⟩
  · exact ⟨calls, hs, .refused hran he⟩

/-- To add a column of a type that is allowed is to look at the catalog and to run the statement
that adds it, if the catalog does not show it. -/
theorem addColumn_eq (t : Table) {type : ColumnType} (hf : type.fault? = none) (column : Ident)
    (default : Option Value) (w : World σ) :
    t.addColumn type column default w =
      match t.columnsIfListed w with
      | (.error e, v) => (.error e, v)
      | (.ok columns, v) =>
        if shows columns column then (.error (.schema t.name (.columnExists column)), v)
        else
          let r := AddColumn.render t.settings.dialect
            ⟨t.name, column, type, default, columns.isNone⟩
          t.runOnce r (v.note (.addingColumn t.name column r.sql)) := by
  unfold addColumn
  rw [hf]
  dsimp only
  generalize t.columnsIfListed w = a
  obtain ⟨answer, v⟩ := a
  cases answer with
  | error e => rfl
  | ok columns => rfl

theorem addColumn_of_fault (t : Table) {type : ColumnType} {f : SchemaFault}
    (hf : type.fault? = some f) (column : Ident) (default : Option Value) (w : World σ) :
    t.addColumn type column default w = (.error (.schema t.name f), w) := by
  unfold addColumn
  rw [hf]

theorem addColumn_adding (t : Table) (type : ColumnType) (column : Ident)
    (default : Option Value) (w : World σ) :
    ∃ calls, w.Said calls (t.addColumn type column default w).2 ∧
      t.Adding type column default (t.addColumn type column default w).1 calls := by
  cases hf : type.fault? with
  | some f =>
    rw [t.addColumn_of_fault hf]
    exact ⟨[], .refl w, .forbidden hf⟩
  | none =>
    obtain ⟨cs, hs, hl⟩ := t.columnsIfListed_looked w
    rw [t.addColumn_eq hf]
    generalize t.columnsIfListed w = a at hs hl ⊢
    obtain ⟨answer, v⟩ := a
    cases answer with
    | error e => exact ⟨cs, hs, .unread hf hl⟩
    | ok columns =>
      dsimp only at hs hl ⊢
      cases hshown : shows columns column with
      | true => exact ⟨cs, hs, .conflict hf hl hshown⟩
      | false =>
        rw [if_neg Bool.false_ne_true]
        obtain ⟨ds, ht, hsent⟩ := t.runOnce_sent
          (AddColumn.render t.settings.dialect ⟨t.name, column, type, default, columns.isNone⟩)
          (v.note (.addingColumn t.name column (AddColumn.render t.settings.dialect
            ⟨t.name, column, type, default, columns.isNone⟩).sql))
        exact ⟨cs ++ ds, hs.trans ht.of_note, .sent hf hl hshown hsent⟩

omit [Connection σ] in
theorem Adding.stage (ha : t.Adding (.forValue p.2) p.1 none result calls) :
    t.Stage p result calls := by
  cases ha with
  | forbidden hf =>
    rw [ColumnType.fault?_forValue] at hf
    cases hf
  | unread _ hl => exact .unread hl
  | conflict _ hl hshown => exact .conflict hl hshown
  | sent _ hl hshown hsent =>
    cases hsent with
    | refused hran he => exact .refused hl hshown hran he
    | accepted hran ho hd =>
      rw [← List.append_assoc]
      exact .added hl hshown hran ho hd

theorem addColumn_stage (t : Table) (p : Ident × Value) (w : World σ) :
    ∃ calls, w.Said calls (t.addColumn (.forValue p.2) p.1 none w).2 ∧
      t.Stage p (t.addColumn (.forValue p.2) p.1 none w).1 calls := by
  obtain ⟨calls, hs, hadding⟩ := t.addColumn_adding (.forValue p.2) p.1 none w
  exact ⟨calls, hs, hadding.stage⟩

/-- The loop, from any point of it on. -/
theorem addMissing_stages (t : Table) (existing : Option Columns) (added : List Ident)
    (pairs : List (Ident × Value)) (w : World σ) :
    ∃ done result calls, w.Said calls (t.addMissing existing added pairs w).2 ∧
      t.Stages (unknownFirsts (fun c => shows existing c || added.contains c) pairs) done result
        calls ∧
      (t.addMissing existing added pairs w).1 = result.map fun _ => added ++ done.map Prod.fst := by
  induction pairs generalizing added w with
  | nil => exact ⟨[], .ok (), [], .refl w, .finished, by simp [addMissing, Except.map]⟩
  | cons p rest ih =>
    by_cases hk : ((existing.any fun c => c.contains p.1.name) || added.contains p.1) = true
    · rw [unknownFirsts_of_known rest hk, addMissing, if_pos hk]
      exact ih added w
    · obtain ⟨cs, hs, hone⟩ := t.addColumn_stage p w
      rw [unknownFirsts_of_unknown rest ((Bool.not_eq_true _).mp hk), addMissing, if_neg hk]
      generalize t.addColumn (.forValue p.2) p.1 none w = a at hs hone ⊢
      obtain ⟨answer, v⟩ := a
      dsimp only at hs hone ⊢
      cases answer with
      | error e => exact ⟨[], .error e, cs, hs, .stopped hone, rfl⟩
      | ok u =>
        obtain ⟨done, result, ds, ht, hmore, hr⟩ := ih (added ++ [p.1]) v
        have hknown : (fun c => shows existing c || (added ++ [p.1]).contains c) =
            fun c => shows existing c || added.contains c || c == p.1 := by
          funext c
          rw [List.contains_append, List.contains_cons, List.contains_nil, Bool.or_false,
            Bool.or_assoc]
        rw [hknown] at hmore
        refine ⟨p :: done, result, cs ++ ds, hs.trans ht, .added hone hmore, ?_⟩
        rw [hr, List.map_cons, List.append_assoc]
        rfl

end Spec

/-- A whole migration: the columns that were found lacking, those of them that have been added, how
it ends, and the calls. -/
inductive Migrating (t : Table) (pairs : List (Ident × Value)) : List (Ident × Value) →
    List (Ident × Value) → Except QueryError Unit → List Exchange → Prop where
  | unread {e calls} : t.Looked (.error e) calls → Migrating t pairs [] [] (.error e) calls
  | staged {columns cs done result ds} : t.Looked (.ok columns) cs →
      t.Stages (unknownFirsts (shows columns) pairs) done result ds →
      Migrating t pairs (unknownFirsts (shows columns) pairs) done result (cs ++ ds)

variable {pairs : List (Ident × Value)}

theorem Migrating.prefix_done (hm : t.Migrating pairs lacking done result calls) :
    done <+: lacking := by
  cases hm with
  | unread => exact List.prefix_refl []
  | staged _ hs => exact hs.prefix_done

theorem Migrating.done_of_ok (hm : t.Migrating pairs lacking done (.ok ()) calls) :
    done = lacking := by
  cases hm with
  | staged _ hs => exact hs.ok_iff.mp rfl

theorem Migrating.defining (hm : t.Migrating pairs lacking done result calls) :
    t.Defining calls := by
  cases hm with
  | unread hl => exact defining_of_outside hl.outside
  | staged hl hs => exact (defining_of_outside hl.outside).append hs.defining

theorem ensureColumns_migrating {σ : Type} [Connection σ] (t : Table)
    (pairs : List (Ident × Value)) (w : World σ) :
    ∃ lacking done result calls, w.Said calls (t.ensureColumns pairs w).2 ∧
      t.Migrating pairs lacking done result calls ∧
      (t.ensureColumns pairs w).1 = result.map fun _ => done.map Prod.fst := by
  obtain ⟨cs, hs, hl⟩ := t.columnsIfListed_looked w
  unfold ensureColumns
  dsimp only
  generalize t.columnsIfListed w = a at hs hl ⊢
  obtain ⟨answer, v⟩ := a
  dsimp only at hs hl ⊢
  cases answer with
  | error e => exact ⟨[], [], .error e, cs, hs, .unread hl, rfl⟩
  | ok columns =>
    obtain ⟨done, result, ds, ht, hstages, hr⟩ := t.addMissing_stages columns [] pairs v
    have hknown : (fun c => shows columns c || ([] : List Ident).contains c) = shows columns := by
      funext c
      rw [List.contains_nil, Bool.or_false]
    rw [hknown] at hstages
    exact ⟨_, done, result, cs ++ ds, hs.trans ht, .staged hl hstages, hr⟩

/-! ## The errors of a migration -/

inductive Refuses (t : Table) : QueryError → Prop where
  | unread (what : CatalogRead) (e : DriverError) : Refuses t (readError what e)
  | conflict (column : Ident) : Refuses t (.schema t.name (.columnExists column))
  | refused (create : Bool) (p : Ident × Value) (e : DriverError) :
      Refuses t (.ofDriver e (t.definition create p))

variable {e : QueryError}

theorem Looked.refuses (hl : t.Looked (.error e) calls) : t.Refuses e := by
  cases hl with
  | unlisted => exact .unread _ _
  | undescribed => exact .unread _ _

theorem Stage.refuses (hs : t.Stage p (.error e) calls) : t.Refuses e := by
  cases hs with
  | unread hl => exact hl.refuses
  | conflict => exact .conflict _
  | refused => exact .refused _ _ _

theorem Stages.refuses (hs : t.Stages lacking done (.error e) calls) : t.Refuses e := by
  generalize hr : (Except.error e : Except QueryError Unit) = result at hs
  induction hs with
  | finished => cases hr
  | stopped hone =>
    cases hr
    exact hone.refuses
  | added _ _ ih => exact ih hr

theorem Migrating.refuses (hm : t.Migrating pairs lacking done (.error e) calls) : t.Refuses e := by
  cases hm with
  | unread hl => exact hl.refuses
  | staged _ hs => exact hs.refuses

end Table

end SqlClient
