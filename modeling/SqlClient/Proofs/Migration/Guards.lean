import SqlClient.Proofs.Migration.Catalog
import SqlClient.Proofs.Migration.Stages
import SqlClient.Proofs.Scanning.Definition
import SqlClient.Scripted

/-! # What stands between a call and its statement

Whether a column is added or dropped, and by which statement, is decided by the catalog and by the
type of the column alone. A call that is refused has prepared nothing.
-/
namespace SqlClient

def Exchange.isRestored : Exchange → Bool
  | reconnect b => b
  | _ => false

/-- An attempt is the first one, or it follows a connection that was made again. Each prepares this
text, and nothing is bound. -/
structure OneTextPerAttempt (sql : String) (calls : List Exchange) : Prop where
  texts : ∀ c ∈ calls, ∀ h, c.handle? = some h → h.text = sql
  prepares : calls.countP Exchange.isPrepare = 1 + calls.countP Exchange.isRestored
  restored : calls.countP Exchange.isRestored ≤ 1
  unbound : ∀ h k v answer, .bind h k v answer ∉ calls

section Runs

variable {r : Rendered} {n m : Nat} {kept : Option Handle} {calls closing : List Exchange}
  {first : Except DriverError Outcome} {back : Option Bool}
  {second : Option (Except DriverError Outcome)}

theorem Execution.Ran.restored (h : Ran r n none first back second kept calls m) :
    calls.countP Exchange.isRestored = second.toList.length := by
  have hprobe : ∀ c : Exchange, c.isRestored = true → c.isProbe = true := by
    intro c hc
    cases c with
    | reconnect b => rfl
    | _ => cases hc
  have hcount : calls.countP Exchange.isRestored =
      (calls.filter Exchange.isProbe).countP Exchange.isRestored := by
    rw [List.countP_filter]
    refine List.countP_congr fun c _ => ?_
    simpa using hprobe c
  have hsecond := h.second_iff
  rw [hcount]
  rcases h.probes with ⟨rfl, hp⟩ | ⟨alive, b, rfl, hp⟩
  · have hnone : second = none := by simpa using hsecond
    rw [hp, hnone]
    rfl
  · rw [hp]
    cases b with
    | false =>
      have hnone : second = none := by simpa using hsecond
      rw [hnone]
      rfl
    | true =>
      obtain ⟨answer, rfl⟩ := Option.isSome_iff_exists.mp (hsecond.mpr rfl)
      rfl

theorem Execution.Ran.oneTextPerAttempt (h : Ran r n none first back second kept calls m)
    (hb : r.binds = []) : OneTextPerAttempt r.sql calls where
  texts := by
    intro c hc k hk
    rcases h.accounted.about c hc k hk with hheld | ⟨htext, -⟩
    · cases hheld
    · exact htext
  prepares := by
    rcases h.prepares with ⟨⟨_, hheld, _⟩, _⟩ | ⟨_, hp⟩
    · cases hheld
    · rw [hp, h.restored]
  restored := by
    rw [h.restored]
    cases second <;> simp
  unbound := by
    intro k p v answer hmem
    obtain ⟨-, hlo, hhi⟩ := h.fits _ hmem k p v answer rfl
    rw [hb, List.length_nil] at hhi
    omega

theorem OneTextPerAttempt.closed (h : Execution.Ran r n none first back second kept calls m)
    (hb : r.binds = []) (hd : Execution.Discarded kept closing) :
    OneTextPerAttempt r.sql (calls ++ closing) := by
  have hone := h.oneTextPerAttempt hb
  cases hd with
  | nothing => rwa [List.append_nil]
  | closed k answer =>
    have htext : k.text = r.sql := by
      rcases h.accounted.keeps k rfl with hheld | ⟨htext, -⟩
      · cases hheld
      · exact htext
    constructor
    · rw [List.forall_mem_append, List.forall_mem_singleton]
      refine ⟨hone.texts, fun l hl => ?_⟩
      cases hl
      exact htext
    · rw [List.countP_append, List.countP_append, hone.prepares]
      rfl
    · rw [List.countP_append]
      exact hone.restored
    · intro l p v a hmem
      exact hone.unbound l p v a (by simpa using hmem)

theorem Table.Sent.oneTextPerAttempt {result : Except QueryError Unit}
    (h : Table.Sent r result calls) (hb : r.binds = []) : OneTextPerAttempt r.sql calls := by
  cases h with
  | refused hran => exact hran.oneTextPerAttempt hb
  | accepted hran _ hd => exact .closed hran hb hd

theorem Execution.ofDriver_ne_schema (e : DriverError) (r : Rendered) (t : Ident)
    (f : SchemaFault) : QueryError.ofDriver e r ≠ .schema t f := by
  rw [ofDriver_eq]
  cases e.kind <;> exact nofun

theorem Table.Sent.ne_schema {result : Except QueryError Unit} (h : Table.Sent r result calls)
    (t : Ident) (f : SchemaFault) : result ≠ .error (.schema t f) := by
  cases h with
  | refused => exact fun heq => Execution.ofDriver_ne_schema _ _ _ _ (Except.error.inj heq)
  | accepted => exact fun heq => by cases heq

end Runs

/-! ## The statements -/

/-- A bounded text without a length or longer than the longest. -/
def ColumnType.Forbidden (type : ColumnType) : Prop :=
  ∃ n : UInt16, type = .varchar n ∧ (n = 0 ∨ 256 < n.toNat)

theorem ColumnType.forbidden_iff {type : ColumnType} :
    type.Forbidden ↔ ∃ f, type.fault? = some f := by
  constructor
  · rintro ⟨n, rfl, hn⟩
    by_cases hzero : n = 0
    · exact ⟨_, if_pos hzero⟩
    · exact ⟨_, (if_neg hzero).trans (if_pos (hn.resolve_left hzero))⟩
  · rintro ⟨f, hf⟩
    cases type with
    | varchar n =>
      refine ⟨n, rfl, Decidable.byContradiction fun hn => ?_⟩
      obtain ⟨hzero, hlong⟩ := not_or.mp hn
      have hnone : (ColumnType.varchar n).fault? = none :=
        (if_neg hzero).trans (if_neg hlong)
      rw [hnone] at hf
      cases hf
    | _ => cases hf

def columnText (d : Dialect) (type : ColumnType) (column : Ident) (default : Option Value) :
    String :=
  column.quoted ++ " " ++ type.sql d ++
    (default.map fun v => " DEFAULT " ++ v.literal).getD ""

theorem AddColumn.sql_definition (a : AddColumn) (d : Dialect) :
    (a.definition d).sql = columnText d a.type a.column a.default := by
  unfold definition columnText
  cases a.default with
  | none => simp [Rendered.ident, Rendered.text, Rendered.empty]
  | some v => simp [Rendered.ident, Rendered.text, String.append_assoc]

theorem AddColumn.render_create {a : AddColumn} (hc : a.create = true) (d : Dialect) :
    a.render d = .text ("CREATE TABLE " ++ a.table.quoted ++ " (" ++
      columnText d a.type a.column a.default ++ ")") := by
  refine Rendered.ext ?_ (a.binds_render d)
  rw [sql_create hc, sql_definition]
  simp only [Rendered.text, String.append_assoc]

theorem AddColumn.render_alter {a : AddColumn} (hc : ¬ a.create = true) (d : Dialect) :
    a.render d = .text ("ALTER TABLE " ++ a.table.quoted ++ " ADD COLUMN " ++
      columnText d a.type a.column a.default) := by
  refine Rendered.ext ?_ (a.binds_render d)
  rw [sql_alter hc, sql_definition]
  simp only [Rendered.text, String.append_assoc]

/-! ## The guards -/

/-- After these reads this statement is run, and the call ends as its run does. -/
def World.Defines {σ : Type} (w : World σ) (reads : List Exchange) (sql : String)
    (a : Except QueryError Unit × World σ) : Prop :=
  ∃ calls, w.Said (reads ++ calls) a.2 ∧ Table.Sent (.text sql) a.1 calls ∧
    OneTextPerAttempt sql calls

namespace Table

variable {σ : Type} [Connection σ]

/-- How a column of a type that is allowed is added where these tables are listed and these columns
are described. -/
structure AddGuarded (t : Table) (w : World σ) (names : List String) (infos : List ColumnInfo)
    (type : ColumnType) (column : Ident) (default : Option Value) : Prop where
  refused_iff : (∃ f, (t.addColumn type column default w).1 = .error (.schema t.name f)) ↔
    names.any t.name.isNamed = true ∧
      (infos.any fun info => Text.sameName info.name column.name) = true
  refused : names.any t.name.isNamed = true →
    (infos.any fun info => Text.sameName info.name column.name) = true →
    (t.addColumn type column default w).1 = .error (.schema t.name (.columnExists column)) ∧
      w.Said [.listTables (.ok names), .describeColumns t.name.name (.ok infos)]
        (t.addColumn type column default w).2
  created : names.any t.name.isNamed = false →
    w.Defines [.listTables (.ok names)]
      ("CREATE TABLE " ++ t.name.quoted ++ " (" ++
        columnText t.settings.dialect type column default ++ ")")
      (t.addColumn type column default w)
  altered : names.any t.name.isNamed = true →
    (infos.any fun info => Text.sameName info.name column.name) = false →
    w.Defines [.listTables (.ok names), .describeColumns t.name.name (.ok infos)]
      ("ALTER TABLE " ++ t.name.quoted ++ " ADD COLUMN " ++
        columnText t.settings.dialect type column default)
      (t.addColumn type column default w)

structure DropGuarded (t : Table) (w : World σ) (infos : List ColumnInfo) (column : Ident) :
    Prop where
  refused : (infos.any fun info => Text.sameName info.name column.name) = false →
    (t.dropColumn column w).1 = .error (.schema t.name (.columnMissing column)) ∧
      w.Said [.describeColumns t.name.name (.ok infos)] (t.dropColumn column w).2
  dropped : (infos.any fun info => Text.sameName info.name column.name) = true →
    w.Defines [.describeColumns t.name.name (.ok infos)]
      ("ALTER TABLE " ++ t.name.quoted ++ " DROP COLUMN " ++ column.quoted)
      (t.dropColumn column w)

theorem runOnce_defines (t : Table) {w v : World σ} {reads : List Exchange} (hs : w.Said reads v)
    {r : Rendered} {sql : String} (hr : r = .text sql) :
    w.Defines reads sql (t.runOnce r v) := by
  subst hr
  obtain ⟨calls, ht, hsent⟩ := t.runOnce_sent (.text sql) v
  exact ⟨calls, hs.trans ht, hsent, hsent.oneTextPerAttempt rfl⟩

section Catalog

variable {t : Table} {w : World σ} {names : List String} {infos : List ColumnInfo}

theorem isListed_of_ok (hn : w.listTables.1 = .ok names) :
    t.isListed w = (.ok (names.any t.name.isNamed), w.listTables.2) := by
  unfold isListed
  rw [read_of_ok hn]
  rfl

theorem load_of_ok {v : World σ} (hi : (v.describeColumns t.name.name).1 = .ok infos) :
    Columns.load t v =
      (.ok (.ofDescribed t infos), (v.describeColumns t.name.name).2) := by
  have hanswer : (Connection.describeColumns t.name.name v.driver).1 = .ok infos := hi
  have hread : t.read .describeColumns (fun w => w.describeColumns t.name.name) v =
      (.ok infos, (v.describeColumns t.name.name).2) := read_of_ok hanswer t .describeColumns
  unfold Columns.load
  rw [hread]
  rfl

theorem said_listTables_of_ok (hn : w.listTables.1 = .ok names) :
    w.Said [.listTables (.ok names)] w.listTables.2 :=
  hn ▸ w.said_listTables

theorem said_describeColumns_of_ok {v : World σ}
    (hi : (v.describeColumns t.name.name).1 = .ok infos) :
    v.Said [.describeColumns t.name.name (.ok infos)] (v.describeColumns t.name.name).2 :=
  hi ▸ v.said_describeColumns t.name.name

theorem columnsIfListed_of_absent (hn : w.listTables.1 = .ok names)
    (hl : names.any t.name.isNamed = false) :
    t.columnsIfListed w = (.ok none, w.listTables.2) := by
  unfold columnsIfListed
  rw [isListed_of_ok hn, hl]

theorem columnsIfListed_of_listed (hn : w.listTables.1 = .ok names)
    (hi : (w.listTables.2.describeColumns t.name.name).1 = .ok infos)
    (hl : names.any t.name.isNamed = true) :
    t.columnsIfListed w = (.ok (some (.ofDescribed t infos)),
      (w.listTables.2.describeColumns t.name.name).2) := by
  unfold columnsIfListed
  rw [isListed_of_ok hn, hl]
  dsimp only
  rw [load_of_ok hi]
  rfl

theorem addColumn_created {type : ColumnType} (hf : type.fault? = none) (column : Ident)
    (default : Option Value) (hn : w.listTables.1 = .ok names)
    (hl : names.any t.name.isNamed = false) :
    w.Defines [.listTables (.ok names)]
      ("CREATE TABLE " ++ t.name.quoted ++ " (" ++
        columnText t.settings.dialect type column default ++ ")")
      (t.addColumn type column default w) := by
  rw [t.addColumn_eq hf, columnsIfListed_of_absent hn hl]
  exact t.runOnce_defines ((said_listTables_of_ok hn).note _) (AddColumn.render_create rfl _)

theorem addColumn_of_listed {type : ColumnType} (hf : type.fault? = none) (column : Ident)
    (default : Option Value) (hn : w.listTables.1 = .ok names)
    (hi : (w.listTables.2.describeColumns t.name.name).1 = .ok infos)
    (hl : names.any t.name.isNamed = true) :
    t.addColumn type column default w =
      if (infos.any fun info => Text.sameName info.name column.name) = true then
        (.error (.schema t.name (.columnExists column)),
          (w.listTables.2.describeColumns t.name.name).2)
      else
        let r := AddColumn.render t.settings.dialect ⟨t.name, column, type, default, false⟩
        t.runOnce r ((w.listTables.2.describeColumns t.name.name).2.note
          (.addingColumn t.name column r.sql)) := by
  have hshows : shows (some (.ofDescribed t infos)) column =
      infos.any fun info => Text.sameName info.name column.name :=
    Columns.contains_ofDescribed t infos column.name
  rw [t.addColumn_eq hf, columnsIfListed_of_listed hn hi hl]
  dsimp only
  rw [hshows]
  rfl

theorem addGuarded_of_ok {type : ColumnType} (hf : type.fault? = none) (column : Ident)
    (default : Option Value) (hn : w.listTables.1 = .ok names)
    (hi : (w.listTables.2.describeColumns t.name.name).1 = .ok infos) :
    t.AddGuarded w names infos type column default := by
  have hreads := (said_listTables_of_ok hn).trans (said_describeColumns_of_ok hi)
  have hcreated := addColumn_created (t := t) hf column default hn
  have hlisted := addColumn_of_listed hf column default hn hi
  have haltered : names.any t.name.isNamed = true →
      (infos.any fun info => Text.sameName info.name column.name) = false →
      w.Defines [.listTables (.ok names), .describeColumns t.name.name (.ok infos)]
        ("ALTER TABLE " ++ t.name.quoted ++ " ADD COLUMN " ++
          columnText t.settings.dialect type column default)
        (t.addColumn type column default w) := by
    intro hl hc
    rw [hlisted hl, if_neg (by simp [hc])]
    exact t.runOnce_defines (hreads.note _) (AddColumn.render_alter Bool.false_ne_true _)
  have hrefused : names.any t.name.isNamed = true →
      (infos.any fun info => Text.sameName info.name column.name) = true →
      (t.addColumn type column default w).1 = .error (.schema t.name (.columnExists column)) ∧
        w.Said [.listTables (.ok names), .describeColumns t.name.name (.ok infos)]
          (t.addColumn type column default w).2 := by
    intro hl hc
    rw [hlisted hl, if_pos hc]
    exact ⟨rfl, hreads⟩
  refine ⟨⟨?_, fun h => ⟨_, (hrefused h.1 h.2).1⟩⟩, hrefused, hcreated, haltered⟩
  rintro ⟨f, hr⟩
  cases hl : names.any t.name.isNamed with
  | false =>
    obtain ⟨_, -, hsent, -⟩ := hcreated hl
    exact absurd hr (hsent.ne_schema _ _)
  | true =>
    cases hc : infos.any fun info => Text.sameName info.name column.name with
    | false =>
      obtain ⟨_, -, hsent, -⟩ := haltered hl hc
      exact absurd hr (hsent.ne_schema _ _)
    | true => exact ⟨rfl, rfl⟩

theorem dropGuarded_of_ok (column : Ident)
    (hi : (w.describeColumns t.name.name).1 = .ok infos) : t.DropGuarded w infos column := by
  have hreads := said_describeColumns_of_ok hi
  have hcontains := Columns.contains_ofDescribed t infos column.name
  constructor
  · intro hc
    unfold dropColumn
    rw [load_of_ok hi]
    dsimp only
    rw [hcontains, hc]
    exact ⟨rfl, hreads⟩
  · intro hc
    unfold dropColumn
    rw [load_of_ok hi]
    dsimp only
    rw [hcontains, hc]
    refine t.runOnce_defines (hreads.note _) (Rendered.ext ?_ rfl)
    simp [DropColumn.render, Rendered.ident, Rendered.text, String.append_assoc]

end Catalog

/-- A column is added unless its type is forbidden or the catalog shows it, and dropped only if the
catalog shows it, each time by the one statement that fits the catalog and the dialect. A call that
is refused for its type says nothing to the driver, and one that is refused for the catalog has only
read it. -/
theorem schema_guards_exact (t : Table) (w : World σ) :
    (∀ type column default, type.Forbidden →
      ∃ f, t.addColumn type column default w = (.error (.schema t.name f), w)) ∧
    (∀ names infos, w.listTables.1 = .ok names →
      (w.listTables.2.describeColumns t.name.name).1 = .ok infos →
      ∀ type column default, ¬ type.Forbidden → t.AddGuarded w names infos type column default) ∧
    (∀ infos, (w.describeColumns t.name.name).1 = .ok infos →
      ∀ column, t.DropGuarded w infos column) ∧
    ∀ n : UInt16, (ColumnType.varchar n).sql t.settings.dialect =
      if t.settings.dialect = .sqlite then "TEXT" else "VARCHAR(" ++ Nat.repr n.toNat ++ ")" := by
  refine ⟨?_, ?_, fun infos hi column => dropGuarded_of_ok column hi, fun n => ?_⟩
  · intro type column default hforbidden
    obtain ⟨f, hf⟩ := ColumnType.forbidden_iff.mp hforbidden
    exact ⟨f, t.addColumn_of_fault hf column default w⟩
  · intro names infos hn hi type column default hallowed
    refine addGuarded_of_ok ?_ column default hn hi
    cases hf : type.fault? with
    | none => rfl
    | some f => exact absurd (ColumnType.forbidden_iff.mpr ⟨f, hf⟩) hallowed
  · cases t.settings.dialect <;> rfl

/-- A table that is listed in another spelling. One of its columns is there in another spelling as
well and can only be dropped, another one can only be added. -/
theorem logs_guarded :
    let infos : List ColumnInfo := [{ name := "Message", type := "TEXT" }]
    let w : World Scripted := { driver := { tables := [("Logs", infos)] } }
    let t : Table := ⟨⟨"logs"⟩, { dialect := .sqlite }⟩
    w.listTables.1 = .ok ["Logs"] ∧
      (w.listTables.2.describeColumns "logs").1 = .ok infos ∧
      (w.describeColumns "logs").1 = .ok infos ∧
      (ColumnType.varchar 257).Forbidden ∧ ¬ (ColumnType.varchar 256).Forbidden ∧
      (∃ f, t.addColumn (.varchar 257) ⟨"level"⟩ none w = (.error (.schema ⟨"logs"⟩ f), w)) ∧
      (t.addColumn (.varchar 256) ⟨"MESSAGE"⟩ none w).1 =
        .error (.schema ⟨"logs"⟩ (.columnExists ⟨"MESSAGE"⟩)) ∧
      w.Defines [.listTables (.ok ["Logs"]), .describeColumns "logs" (.ok infos)]
        "ALTER TABLE \x60logs\x60 ADD COLUMN \x60level\x60 TEXT"
        (t.addColumn (.varchar 256) ⟨"level"⟩ none w) ∧
      w.Defines [.describeColumns "logs" (.ok infos)]
        "ALTER TABLE \x60logs\x60 DROP COLUMN \x60MESSAGE\x60" (t.dropColumn ⟨"MESSAGE"⟩ w) := by
  intro infos w t
  obtain ⟨hforbidden, hadd, hdrop, -⟩ := schema_guards_exact t w
  have hnames : w.listTables.1 = .ok ["Logs"] := rfl
  have hinfos : (w.listTables.2.describeColumns "logs").1 = .ok infos := by
    dsimp only [w, infos]
    rfl
  have hinfos' : (w.describeColumns "logs").1 = .ok infos := by
    dsimp only [w, infos]
    rfl
  have hlong : (ColumnType.varchar 257).Forbidden := ⟨257, rfl, Or.inr (by decide)⟩
  have hallowed : ¬ (ColumnType.varchar 256).Forbidden := by
    rintro ⟨n, hn, hlimit⟩
    cases hn
    exact absurd hlimit (by decide)
  have hguarded := hadd ["Logs"] infos hnames hinfos (.varchar 256)
  have hexists := (hguarded ⟨"MESSAGE"⟩ none hallowed).refused (by decide) (by decide)
  have haltered := (hguarded ⟨"level"⟩ none hallowed).altered (by decide) (by decide)
  have hdropped := (hdrop infos hinfos' ⟨"MESSAGE"⟩).dropped (by decide)
  have hadded : "ALTER TABLE " ++ t.name.quoted ++ " ADD COLUMN " ++
      columnText t.settings.dialect (.varchar 256) ⟨"level"⟩ none =
        "ALTER TABLE \x60logs\x60 ADD COLUMN \x60level\x60 TEXT" := by decide
  have hgone : "ALTER TABLE " ++ t.name.quoted ++ " DROP COLUMN " ++ Ident.quoted ⟨"MESSAGE"⟩ =
      "ALTER TABLE \x60logs\x60 DROP COLUMN \x60MESSAGE\x60" := by decide
  rw [hadded] at haltered
  rw [hgone] at hdropped
  exact ⟨hnames, hinfos, hinfos', hlong, hallowed, hforbidden _ _ _ hlong, hexists.1, haltered,
    hdropped⟩

end Table

end SqlClient
