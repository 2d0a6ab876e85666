import SqlClient.Session.SchemaCall
import SqlClient.Session.StatementCall

/-! # Sessions

Statements, tables, column sets and groups that live in named slots and share one connection. A
session makes calls on them one after the other, in any order.
-/
namespace SqlClient

inductive Slot where
  | statement (s : Statement)
  | table (t : Table)
  | columns (c : Columns)
  | group (g : Conditions)

inductive Opening where
  | table (name : Ident)
  | select (name : Ident)
  | insert (name : Ident)
  | update (name : Ident)
  | delete (name : Ident)
  | query (sql : String)
  | columns (name : Ident)
  | group

inductive Request where
  | statement (c : StatementCall)
  /-- Statements and groups have trees. -/
  | tree (c : TreeCall)
  | table (c : TableCall)
  | columns (c : ColumnsCall)
  | tableName
  /-- Groups only. -/
  | isEmpty
  | clone (target : String)

inductive Op where
  | make (slot : String) (o : Opening)
  | use (slot : String) (r : Request)

structure Session (σ : Type) where
  settings : Settings
  slots : OrderedMap String Slot := {}
  world : World σ

namespace Slot

variable {σ : Type} [Connection σ]

/-- A copied statement starts unexecuted. -/
def clone : Slot → Slot
  | statement s => statement s.clone
  | slot => slot

def tableName? : Slot → Option Ident
  | statement s => s.command.table?
  | table t => some t.name
  | columns c => some c.table.name
  | group _ => none

def call? (groups : String → Option Conditions) (w : World σ) :
    Slot → Request → Option (After σ Slot Answer)
  | slot, .tableName => slot.tableName?.map fun name => ⟨.name name.name, slot, w⟩
  | statement s, .statement c =>
    (s.call? groups w c).map fun a => ⟨a.result, statement a.next, a.world⟩
  | statement s, .tree c =>
    (s.call? groups w (.tree c)).map fun a => ⟨a.result, statement a.next, a.world⟩
  | group g, .tree c =>
    let r := c.reply groups g
    some ⟨r.answer, group (g.edits r.edits), r.events.foldl World.note w⟩
  | group g, .isEmpty => some ⟨.truth g.isEmpty, group g, w⟩
  | table t, .table c =>
    let (answer, w) := t.call w c
    some ⟨answer, table t, w⟩
  | columns cs, .columns c =>
    let a := cs.call w c
    some ⟨a.result, columns a.next, a.world⟩
  | _, _ => none

end Slot

namespace Session

variable {σ : Type}

/-- A session begins with the creation of its database. -/
def start (settings : Settings) (driver : σ) : Session σ :=
  { settings, world := ({ driver : World σ }).note (.created settings) }

def put (s : Session σ) (name : String) (slot : Slot) : Session σ :=
  { s with slots := s.slots.insert name slot }

/-- The groups that a call on the slot `name` can copy: all but itself. -/
def groupsBeside (s : Session σ) (name other : String) : Option Conditions :=
  if other = name then none
  else
    match s.slots.get? other with
    | some (.group g) => some g
    | _ => none

variable [Connection σ]

/-- The new content of a slot. An insert and a column set need the catalog, which may fail. -/
def opened (s : Session σ) : Opening → Except QueryError Slot × World σ
  | .table name => (.ok (.table ⟨name, s.settings⟩), s.world)
  | .select name => (.ok (.statement (Table.select ⟨name, s.settings⟩)), s.world)
  | .insert name =>
    let (r, w) := Table.insert ⟨name, s.settings⟩ s.world
    (r.map .statement, w)
  | .update name => (.ok (.statement (Table.update ⟨name, s.settings⟩)), s.world)
  | .delete name => (.ok (.statement (Table.delete ⟨name, s.settings⟩)), s.world)
  | .query sql => (.ok (.statement (s.settings.query sql)), s.world)
  | .columns name =>
    let (r, w) := Columns.load ⟨name, s.settings⟩ s.world
    (r.map .columns, w)
  | .group => (.ok (.group {}), s.world)

def use (s : Session σ) (name : String) (r : Request) : Answer × Session σ :=
  match s.slots.get? name with
  | none => (.noSlot, s)
  | some slot =>
    match r with
    | .clone target => (.done, s.put target slot.clone)
    | r =>
      match slot.call? (s.groupsBeside name) s.world r with
      | none => (.noSuchCall, s)
      | some a => (a.result, { s.put name a.next with world := a.world })

/-- A slot that cannot be opened keeps what it held. -/
def step (s : Session σ) : Op → Answer × Session σ
  | .make name o =>
    match s.opened o with
    | (.ok slot, w) => (.done, { s.put name slot with world := w })
    | (.error e, w) => (.failed e, { s with world := w })
  | .use name r => s.use name r

def callsSince (before : World σ) (s : Session σ) : List Exchange :=
  (s.world.history.take (s.world.history.length - before.history.length)).reverse

def eventsSince (before : World σ) (s : Session σ) : List Event :=
  (s.world.log.take (s.world.log.length - before.log.length)).reverse

def statement? (s : Session σ) (name : String) : Option Statement :=
  match s.slots.get? name with
  | some (.statement st) => some st
  | _ => none

end Session

end SqlClient
