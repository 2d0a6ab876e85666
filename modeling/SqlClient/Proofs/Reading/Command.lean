import SqlClient.Proofs.Freshness
import SqlClient.Proofs.Reading.Tree
import SqlClient.Scripted

/-! # Reading a command

What a rendering says is read back from it, clause by clause: each clause is known by its keyword,
and what follows a clause is the keyword of a later one. So two statements with the same rendering
say the same.
-/
namespace SqlClient

inductive Content where
  | select (table : Ident) (fields : List Ident) (tree : List Condition) (groupBy : List Ident)
      (order : Option (List Ident × Direction)) (limit offset : Option UInt64)
  | insert (table : Ident) (values : List (Ident × Value))
  | update (table : Ident) (values : List (Ident × Value)) (tree : List Condition)
      (limit : Option UInt64)
  | delete (table : Ident) (tree : List Condition) (limit offset : Option UInt64)

def Select.shown (q : Select) : List Ident := if q.fields.isEmpty then [⟨"*"⟩] else q.fields

/-- The columns to order by with the direction, which means nothing without them. -/
def Select.ordering (q : Select) : Option (List Ident × Direction) :=
  if q.orderBy.isEmpty then none else some (q.orderBy, q.direction)

theorem Select.projection_eq (q : Select) : q.projection = .idents q.shown := by
  unfold projection shown
  split <;> rfl

theorem Select.shown_ne_nil (q : Select) : q.shown ≠ [] := by
  unfold shown
  split
  · simp
  · rename_i hne
    exact fun hnil => hne (List.isEmpty_iff.mpr hnil)

theorem Select.order_eq {p q : Select} (h : p.ordering = q.ordering) : p.order = q.order := by
  unfold ordering at h
  unfold order
  cases hp : p.orderBy.isEmpty <;> cases hq : q.orderBy.isEmpty <;> simp_all

/-- Everything that the calls on a command have put into it, apart from what makes no difference. -/
def Command.content? : Command → Option Content
  | .select q => some (.select q.table q.shown q.conditions.items q.groupBy q.ordering q.limit
      q.offset)
  | .insert q => some (.insert q.target.name q.values.entries)
  | .update q => some (.update q.target.name q.values.entries q.conditions.items q.limit)
  | .delete q => some (.delete q.table q.conditions.items q.limit q.offset)
  | .raw _ => none

/-- All columns are asked for by no field or by a star. -/
def SameFields (fields fields' : List Ident) : Prop :=
  fields = fields' ∨ (fields = [] ∧ fields' = [⟨"*"⟩]) ∨ (fields = [⟨"*"⟩] ∧ fields' = [])

/-- Two commands of one kind that agree in everything that is written. Without an order the direction
does not count. -/
def Command.Alike : Command → Command → Prop
  | .select p, .select q =>
    p.table = q.table ∧ SameFields p.fields q.fields ∧ p.conditions.items = q.conditions.items ∧
      p.groupBy = q.groupBy ∧
      (p.orderBy = q.orderBy ∧ (p.orderBy ≠ [] → p.direction = q.direction)) ∧
      p.limit = q.limit ∧ p.offset = q.offset
  | .insert p, .insert q =>
    p.target.name = q.target.name ∧ p.values.entries = q.values.entries
  | .update p, .update q =>
    p.target.name = q.target.name ∧ p.values.entries = q.values.entries ∧
      p.conditions.items = q.conditions.items ∧ p.limit = q.limit
  | .delete p, .delete q =>
    p.table = q.table ∧ p.conditions.items = q.conditions.items ∧ p.limit = q.limit ∧
      p.offset = q.offset
  | _, _ => False

theorem Select.shown_eq_iff {p q : Select} : p.shown = q.shown ↔ SameFields p.fields q.fields := by
  unfold shown SameFields
  cases p.fields with
  | nil =>
    cases q.fields with
    | nil => simp
    | cons j js => simp [eq_comm]
  | cons i is =>
    cases q.fields with
    | nil => simp
    | cons j js => simp

theorem Select.ordering_eq_iff {p q : Select} : p.ordering = q.ordering ↔
    p.orderBy = q.orderBy ∧ (p.orderBy ≠ [] → p.direction = q.direction) := by
  unfold ordering
  cases p.orderBy with
  | nil =>
    cases q.orderBy with
    | nil => simp
    | cons j js => simp
  | cons i is =>
    cases q.orderBy with
    | nil => simp
    | cons j js => simp

theorem Command.alike_iff {c d : Command} {a b : Content} (hc : c.content? = some a)
    (hd : d.content? = some b) : c.Alike d ↔ a = b := by
  cases c <;> cases hc <;> cases d <;> cases hd <;>
    simp [Alike, Select.shown_eq_iff, Select.ordering_eq_iff]

namespace Reading

def number : Reader UInt64 := fun i =>
  (Integer.natural? (i.text.takeWhile Char.isDigit)).map fun n =>
    (UInt64.ofNat n, { i with text := i.text.dropWhile Char.isDigit })

def names : Reader (List Ident) := separated ", " name

def assignment : Reader (Ident × Value) := do
  let column ← name
  skip " = "
  let v ← value
  return (column, v)

def ordering : Reader (Option (List Ident × Direction)) := do
  let columns ← names
  skip " "
  let d ← oneOf Direction.sql [.ascending, .descending]
  return some (columns, d)

def bounding : Reader (Option UInt64) := do
  let n ← number
  return some n

def select : Reader Content := do
  let fields ← names
  skip " FROM "
  let table ← name
  let cs ← after " WHERE " tree []
  let groupBy ← after " GROUP BY " names []
  let order ← after " ORDER BY " ordering none
  let limit ← after " LIMIT " bounding none
  let offset ← after " OFFSET " bounding none
  return .select table fields cs groupBy order limit offset

def insert : Reader Content := do
  let table ← name
  skip " ("
  if ← taken ") VALUES ()" then return .insert table []
  else
    let columns ← names
    skip ") VALUES ("
    let values ← separated ", " value
    skip ")"
    return .insert table (columns.zip values)

def update : Reader Content := do
  let table ← name
  let values ← after " SET " (separated ", " assignment) []
  let cs ← after " WHERE " tree []
  let limit ← after " LIMIT " bounding none
  return .update table values cs limit

def delete : Reader Content := do
  let table ← name
  let cs ← after " WHERE " tree []
  let limit ← after " LIMIT " bounding none
  let offset ← after " OFFSET " bounding none
  return .delete table cs limit offset

def command : Reader Content := do
  if ← taken "SELECT " then select
  else if ← taken "INSERT INTO " then insert
  else if ← taken "UPDATE " then update
  else
    skip "DELETE FROM "
    delete

/-- What a rendering says, if all of it is understood and every value of it is used. -/
def read (r : Rendered) : Option Content :=
  match command.run ⟨r.sql.toList, r.binds⟩ with
  | some (c, ⟨[], []⟩) => some c
  | _ => none

/-! ## Parts of a clause -/

def notDigit (c : Char) : Bool := !c.isDigit

theorem reads_number (n : UInt64) :
    Reads number (.text (Nat.repr n.toNat)) n (Begins notDigit) := by
  intro i hi
  have hdigits : ∀ c ∈ (Nat.repr n.toNat).toList, c.isDigit = true :=
    fun c hc => Integer.isDigit_of_mem_repr hc
  have htake : i.text.takeWhile Char.isDigit = [] := by
    cases ht : i.text with
    | nil => rfl
    | cons c cs =>
      have hc : c.isDigit = false := by simpa [notDigit] using hi c (by simp [ht])
      rw [List.takeWhile_cons, hc]
      rfl
  have hdrop : i.text.dropWhile Char.isDigit = i.text := by
    have h := List.takeWhile_append_dropWhile (p := Char.isDigit) (l := i.text)
    rwa [htake, List.nil_append] at h
  simp only [number, StateT.run, Input.behind, Rendered.text]
  rw [List.takeWhile_append_of_pos hdigits, List.dropWhile_append_of_pos hdigits, htake, hdrop,
    List.append_nil, Integer.natural?_repr]
  simp

theorem reads_names {columns : List Ident} (hne : columns ≠ []) :
    Reads names (.idents columns) columns
      fun t => Begins endsName t ∧ Unlike ", " t := by
  unfold Rendered.idents
  rw [list_eq_joined]
  exact Reads.separated hne (by decide) (fun i _ => reads_name i) (begins_text (by decide))

theorem unlike_idents {s : String} {columns : List Ident} (hne : columns ≠ [])
    (h : ∀ k ∈ ["*", "\x60"], Clash s k) (r : Rendered) (t : List Char) :
    Unlike s ((.idents columns ++ r).sql.toList ++ t) := by
  obtain ⟨i, is, rfl⟩ := List.exists_cons_of_ne_nil hne
  unfold Rendered.idents
  rw [list_eq_joined, List.map_cons]
  cases is with
  | nil => exact unlike_ident h i r t
  | cons j js =>
    rw [List.map_cons, joined_cons, Rendered.append_assoc]
    exact unlike_ident h i _ t

theorem reads_assignment (e : Ident × Value) :
    Reads assignment (Update.assignment e) e fun _ => True := by
  unfold Update.assignment assignment
  rw [Rendered.append_assoc]
  refine (reads_name e.1).bind ?_ fun t _ => begins_append (by decide) _ t
  refine (Reads.skip " = ").bind_any ?_
  exact (reads_value e.2).map fun v => (e.1, v)

theorem reads_ordering {columns : List Ident} (hne : columns ≠ []) (d : Direction) :
    Reads ordering (.idents columns ++ (.text " " ++ .text d.sql)) (some (columns, d))
      fun _ => True := by
  unfold ordering
  have hd : Reads (oneOf Direction.sql [.ascending, .descending]) (.text d.sql) d
      fun _ => True := by
    refine Reads.oneOf (by cases d <;> decide) ?_
    intro e _ he
    cases e <;> cases d <;> first | exact absurd rfl he | decide
  refine (reads_names hne).bind ?_ fun t _ =>
    ⟨begins_append (by decide) _ t, unlike_append (by decide) _ t⟩
  refine (Reads.skip " ").bind_any ?_
  exact hd.map fun d => some (columns, d)

/-! ## Clauses -/

theorem opens_clause (cs : Conditions) {ks : List String} {t : List Char} (h : Opens ks t) :
    Opens (" WHERE " :: ks) (cs.clause.sql.toList ++ t) := by
  unfold Conditions.clause
  split
  · exact h.mono fun l hl => List.mem_cons_of_mem _ hl
  · rw [Rendered.sql_append, String.toList_append, List.append_assoc]
    exact Or.inr ⟨" WHERE ", List.mem_cons_self, List.prefix_append _ _⟩

theorem reads_clause {cs : Conditions} (h : Condition.FormedLevel cs.items) {ks : List String}
    (hks : ∀ l ∈ ks, Clash " WHERE " l ∧ Clash " AND " l ∧ Clash " OR " l) :
    Reads (after " WHERE " tree []) cs.clause cs.items (Opens ks) := by
  unfold Conditions.clause
  split
  · rename_i hempty
    rw [List.isEmpty_iff.mp hempty]
    exact (Reads.after_nothing []).weaken fun t ht =>
      ht.unlike (by decide) fun l hl => (hks l hl).1
  · rename_i hne
    refine Reads.after_keyword ((reads_tree h fun hnil => ?_).weaken fun t ht => ⟨?_, ?_⟩) []
    · exact hne (List.isEmpty_iff.mpr hnil)
    · exact ht.unlike (by decide) fun l hl => (hks l hl).2.1
    · exact ht.unlike (by decide) fun l hl => (hks l hl).2.2

structure Tail {α : Type} (p : Reader α) (r : Rendered) (a : α) (ks : List String) : Prop where
  reads : Reads p r a (Opens [])
  opens : ∀ t, Opens [] t → Opens ks (r.sql.toList ++ t)

namespace Tail

variable {α β : Type} {p : Reader α} {q : α → Reader β} {r r' : Rendered} {a : α} {b : β}
  {k : String} {ks : List String}

theorem pure (b : β) : Tail (Pure.pure b) .empty b [] where
  reads := .pure b
  opens := fun t ht => by rwa [Rendered.toList_empty]

theorem present (hp : Reads p r a (Opens ks)) {absent : α} (hq : Tail (q a) r' b ks) :
    Tail (after k p absent >>= q) (.text k ++ r ++ r') b (k :: ks) where
  reads := (hp.after_keyword absent).bind hq.reads hq.opens
  opens := by
    intro t _
    rw [Rendered.append_assoc, Rendered.sql_append, String.toList_append, List.append_assoc]
    exact Or.inr ⟨k, List.mem_cons_self, List.prefix_append _ _⟩

theorem absent (hk : k.toList ≠ []) (hks : ∀ l ∈ ks, Clash k l) (hq : Tail (q a) r' b ks) :
    Tail (after k p a >>= q) (.empty ++ r') b (k :: ks) where
  reads := (Reads.after_nothing a).bind hq.reads fun t ht => (hq.opens t ht).unlike hk hks
  opens := by
    intro t ht
    rw [Rendered.empty_append]
    exact (hq.opens t ht).mono fun l hl => List.mem_cons_of_mem k hl

theorem conditions {q : List Condition → Reader β} {cs : Conditions} (h : Condition.FormedLevel cs.items)
    (hq : Tail (q cs.items) r b ks)
    (hks : ∀ l ∈ ks, Clash " WHERE " l ∧ Clash " AND " l ∧ Clash " OR " l) :
    Tail (after " WHERE " tree [] >>= q) (cs.clause ++ r) b (" WHERE " :: ks) where
  reads := (reads_clause h hks).bind hq.reads hq.opens
  opens := by
    intro t ht
    rw [Rendered.sql_append, String.toList_append, List.append_assoc]
    exact opens_clause cs (hq.opens t ht)

theorem bound {q : Option UInt64 → Reader β} {n : Option UInt64} (hq : Tail (q n) r b ks)
    (hk : k.toList ≠ []) (hks : ∀ l ∈ ks, Clash k l ∧ l.toList.head?.any notDigit = true) :
    Tail (after k bounding none >>= q) (.bound k n ++ r) b (k :: ks) := by
  cases n with
  | none => exact absent hk (fun l hl => (hks l hl).1) hq
  | some n =>
    refine present (((reads_number n).map some).weaken ?_) hq
    exact fun t ht => ht.begins fun l hl => (hks l hl).2

theorem grouping {q : List Ident → Reader β} {s : Select} (hq : Tail (q s.groupBy) r b ks)
    (hks : ∀ l ∈ ks, Clash " GROUP BY " l ∧ l.toList.head?.any endsName = true ∧ Clash ", " l) :
    Tail (after " GROUP BY " names [] >>= q) (s.grouping ++ r) b (" GROUP BY " :: ks) := by
  unfold Select.grouping
  split
  · rename_i hempty
    rw [List.isEmpty_iff.mp hempty] at hq
    exact absent (by decide) (fun l hl => (hks l hl).1) hq
  · rename_i hne
    refine present ((reads_names fun hnil => hne (List.isEmpty_iff.mpr hnil)).weaken ?_) hq
    intro t ht
    exact ⟨ht.begins fun l hl => (hks l hl).2.1,
      ht.unlike (by decide) fun l hl => (hks l hl).2.2⟩

theorem order {q : Option (List Ident × Direction) → Reader β} {s : Select}
    (hq : Tail (q s.ordering) r b ks) (hks : ∀ l ∈ ks, Clash " ORDER BY " l) :
    Tail (after " ORDER BY " ordering none >>= q) (s.order ++ r) b (" ORDER BY " :: ks) := by
  unfold Select.order
  unfold Select.ordering at hq
  split
  · rename_i hempty
    rw [if_pos hempty] at hq
    exact absent (by decide) hks hq
  · rename_i hne
    rw [if_neg hne] at hq
    have hread := reads_ordering (fun hnil => hne (List.isEmpty_iff.mpr hnil)) s.direction
    rw [Rendered.append_assoc (.text " ORDER BY "), Rendered.append_assoc (.text " ORDER BY "),
      Rendered.append_assoc (.idents _)]
    exact present (hread.weaken fun _ _ => trivial) hq

theorem assignments {q : List (Ident × Value) → Reader β} {u : Update}
    (hq : Tail (q u.values.entries) r b ks)
    (hks : ∀ l ∈ ks, Clash " SET " l ∧ Clash ", " l) :
    Tail (after " SET " (separated ", " assignment) [] >>= q) (u.assignments ++ r) b
      (" SET " :: ks) := by
  unfold Update.assignments
  split
  · rename_i hempty
    have hnil : u.values.entries = [] := List.isEmpty_iff.mp hempty
    rw [hnil] at hq
    exact absent (by decide) (fun l hl => (hks l hl).1) hq
  · rename_i hne
    have hread := Reads.separated (s := ", ") (fun hnil => hne (List.isEmpty_iff.mpr hnil))
      (by decide) (fun e _ => reads_assignment e) fun _ => trivial
    rw [list_eq_joined]
    refine present (hread.weaken ?_) hq
    exact fun t ht => ⟨trivial, ht.unlike (by decide) fun l hl => (hks l hl).2⟩

theorem named {q : Ident → Reader β} (ks : List String) {i : Ident} (hq : Tail (q i) r b ks)
    (hks : ∀ l ∈ ks, l.toList.head?.any endsName = true) :
    Reads (name >>= q) (.ident i ++ r) b (Opens []) :=
  (reads_name i).bind hq.reads fun t ht => (hq.opens t ht).begins hks

end Tail

/-! ## Commands -/

theorem reads_select {q : Select} (h : Condition.FormedLevel q.conditions.items) :
    Reads select (q.projection ++ (.text " FROM " ++ (.ident q.table ++ (q.conditions.clause ++
        (q.grouping ++ (q.order ++ (.bound " LIMIT " q.limit ++
          (.bound " OFFSET " q.offset ++ .empty))))))))
      (.select q.table q.shown q.conditions.items q.groupBy q.ordering q.limit q.offset)
      (Opens []) := by
  rw [q.projection_eq]
  unfold select
  refine (reads_names q.shown_ne_nil).bind ?_ fun t _ =>
    ⟨begins_append (by decide) _ t, unlike_append (by decide) _ t⟩
  refine (Reads.skip " FROM ").bind_any ?_
  refine Tail.named [" WHERE ", " GROUP BY ", " ORDER BY ", " LIMIT ", " OFFSET "] ?_ (by decide)
  refine Tail.conditions h ?_ (by decide)
  refine Tail.grouping ?_ (by decide)
  refine Tail.order ?_ (by decide)
  refine Tail.bound ?_ (by decide) (by decide)
  exact Tail.bound (.pure _) (by decide) (by decide)

theorem reads_update {q : Update} (h : Condition.FormedLevel q.conditions.items) :
    Reads update (.ident q.target.name ++ (q.assignments ++ (q.conditions.clause ++
        (.bound " LIMIT " q.limit ++ .empty))))
      (.update q.target.name q.values.entries q.conditions.items q.limit) (Opens []) := by
  unfold update
  refine Tail.named [" SET ", " WHERE ", " LIMIT "] ?_ (by decide)
  refine Tail.assignments ?_ (by decide)
  refine Tail.conditions h ?_ (by decide)
  exact Tail.bound (.pure _) (by decide) (by decide)

theorem reads_delete {q : Delete} (h : Condition.FormedLevel q.conditions.items) :
    Reads delete (.ident q.table ++ (q.conditions.clause ++ (.bound " LIMIT " q.limit ++
        (.bound " OFFSET " q.offset ++ .empty))))
      (.delete q.table q.conditions.items q.limit q.offset) (Opens []) := by
  unfold delete
  refine Tail.named [" WHERE ", " LIMIT ", " OFFSET "] ?_ (by decide)
  refine Tail.conditions h ?_ (by decide)
  refine Tail.bound ?_ (by decide) (by decide)
  exact Tail.bound (.pure _) (by decide) (by decide)

theorem reads_insert (q : Insert) :
    Reads insert (.ident q.target.name ++ (.text " (" ++ (.idents q.values.keys ++
        (.text ") VALUES (" ++ (.list (q.values.values.map .value) ++ .text ")")))))
      (.insert q.target.name q.values.entries) (Opens []) := by
  unfold insert
  refine (reads_name q.target.name).bind ?_ fun t _ => begins_append (by decide) _ t
  refine (Reads.skip " (").bind_any ?_
  unfold OrderedMap.keys OrderedMap.values
  by_cases hne : q.values.entries = []
  · have hempty : Rendered.idents [] ++ (.text ") VALUES (" ++ (.list [] ++ .text ")")) =
        .text ") VALUES ()" ++ .empty := by rfl
    rw [hne, List.map_nil, List.map_nil, List.map_nil, hempty]
    exact Reads.taken_then (.pure _)
  · generalize q.values.entries = entries at hne ⊢
    have hcolumns : entries.map Prod.fst ≠ [] := by simpa using hne
    have hvalues : Reads (separated ", " value) (.list ((entries.map Prod.snd).map .value))
        (entries.map Prod.snd) fun t => True ∧ Unlike ", " t := by
      rw [list_eq_joined]
      exact Reads.separated (by simpa using hne) (by decide) (fun v _ => reads_value v)
        fun _ => trivial
    -- Columns and values are read as two lists and put together again.
    have hzip : Content.insert q.target.name entries =
        .insert q.target.name ((entries.map Prod.fst).zip (entries.map Prod.snd)) :=
      congrArg _ (List.zip_of_prod rfl rfl)
    rw [hzip]
    refine Reads.taken_else ?_ fun t _ => unlike_idents hcolumns (by decide) _ t
    refine (reads_names hcolumns).bind ?_ fun t _ =>
      ⟨begins_append (by decide) _ t, unlike_append (by decide) _ t⟩
    refine (Reads.skip ") VALUES (").bind_any ?_
    refine hvalues.bind ?_ fun t _ => ⟨trivial, unlike_text (by decide) t⟩
    exact (Reads.skip ")").map fun _ => Content.insert q.target.name _

theorem reads_command {c : Command} {a : Content} (hc : c.content? = some a)
    (h : Condition.FormedLevel c.tree) : Reads command c.render a (Opens []) := by
  unfold command
  cases c with
  | select q =>
    cases hc
    have hrender : (Command.select q).render = .text "SELECT " ++ (q.projection ++
        (.text " FROM " ++ (.ident q.table ++ (q.conditions.clause ++ (q.grouping ++ (q.order ++
          (.bound " LIMIT " q.limit ++ (.bound " OFFSET " q.offset ++ .empty)))))))) := by
      simp only [Command.render, Select.render, Select.source, Rendered.append_assoc,
        Rendered.append_empty]
    rw [hrender]
    exact Reads.taken_then (reads_select h)
  | insert q =>
    cases hc
    have hrender : (Command.insert q).render = .text "INSERT INTO " ++ (.ident q.target.name ++
        (.text " (" ++ (.idents q.values.keys ++ (.text ") VALUES (" ++
          (.list (q.values.values.map .value) ++ .text ")"))))) := by
      simp only [Command.render, Insert.render, Rendered.append_assoc]
    rw [hrender]
    refine Reads.taken_else ?_ fun t _ => unlike_append (by decide) _ t
    exact Reads.taken_then (reads_insert q)
  | update q =>
    cases hc
    have hrender : (Command.update q).render = .text "UPDATE " ++ (.ident q.target.name ++
        (q.assignments ++ (q.conditions.clause ++ (.bound " LIMIT " q.limit ++ .empty)))) := by
      simp only [Command.render, Update.render, Rendered.append_assoc, Rendered.append_empty]
    rw [hrender]
    refine Reads.taken_else ?_ fun t _ => unlike_append (by decide) _ t
    refine Reads.taken_else ?_ fun t _ => unlike_append (by decide) _ t
    exact Reads.taken_then (reads_update h)
  | delete q =>
    cases hc
    have hrender : (Command.delete q).render = .text "DELETE FROM " ++ (.ident q.table ++
        (q.conditions.clause ++ (.bound " LIMIT " q.limit ++
          (.bound " OFFSET " q.offset ++ .empty)))) := by
      simp only [Command.render, Delete.render, Rendered.append_assoc, Rendered.append_empty]
    rw [hrender]
    refine Reads.taken_else ?_ fun t _ => unlike_append (by decide) _ t
    refine Reads.taken_else ?_ fun t _ => unlike_append (by decide) _ t
    refine Reads.taken_else ?_ fun t _ => unlike_append (by decide) _ t
    exact (Reads.skip "DELETE FROM ").bind_any (reads_delete h)
  | raw q => cases hc

theorem read_render {c : Command} {a : Content} (hc : c.content? = some a)
    (h : Condition.FormedLevel c.tree) : read c.render = some a := by
  have hread := reads_command hc h ⟨[], []⟩ (Or.inl rfl)
  simp only [Input.behind, List.append_nil] at hread
  rw [read, hread]

end Reading

theorem Conditions.clause_eq {p q : Conditions} (h : p.items = q.items) : p.clause = q.clause := by
  unfold clause isEmpty render
  rw [h]

theorem Update.assignments_eq {p q : Update} (h : p.values.entries = q.values.entries) :
    p.assignments = q.assignments := by
  unfold assignments OrderedMap.isEmpty
  rw [h]

theorem Command.render_of_content {c d : Command} {a : Content} (hc : c.content? = some a)
    (hd : d.content? = some a) : c.render = d.render := by
  have h := hc.trans hd.symm
  cases c with
  | select p =>
    cases d with
    | select q =>
      injection Option.some.inj h with htable hshown hitems hgroup hordering hlimit hoffset
      simp only [render, Select.render, Select.source, Select.grouping, Select.projection_eq,
        Select.order_eq hordering, Conditions.clause_eq hitems, htable, hshown, hgroup, hlimit,
        hoffset]
    | _ => simp [content?] at h
  | insert p =>
    cases d with
    | insert q =>
      injection Option.some.inj h with htable hvalues
      simp only [render, Insert.render, OrderedMap.keys, OrderedMap.values, htable, hvalues]
    | _ => simp [content?] at h
  | update p =>
    cases d with
    | update q =>
      injection Option.some.inj h with htable hvalues hitems hlimit
      simp only [render, Update.render, Update.assignments_eq hvalues,
        Conditions.clause_eq hitems, htable, hlimit]
    | _ => simp [content?] at h
  | delete p =>
    cases d with
    | delete q =>
      injection Option.some.inj h with htable hitems hlimit hoffset
      simp only [render, Delete.render, Conditions.clause_eq hitems, htable, hlimit, hoffset]
    | _ => simp [content?] at h
  | raw p => cases hc

namespace Reading

/-- The content of a statement made by calls is read back from its rendering, so only statements
that are alike have the same rendering. -/
theorem rendering_loses_nothing {calls calls' : List StatementCall} {s t : Statement}
    {a b : Content} (hs : Statement.Reached calls s) (ht : Statement.Reached calls' t)
    (ha : s.command.content? = some a) (hb : t.command.content? = some b) :
    read s.rendered = some a ∧ read t.rendered = some b ∧
      (s.rendered = t.rendered ↔ s.command.Alike t.command) := by
  have hsr := (Statement.reached_current hs).rendered
  have htr := (Statement.reached_current ht).rendered
  have hsread := read_render ha (Statement.reached_made hs).formed_tree
  have htread := read_render hb (Statement.reached_made ht).formed_tree
  rw [hsr, htr, Command.alike_iff ha hb]
  refine ⟨hsread, htread, ?_, ?_⟩
  · intro h
    rw [h, htread] at hsread
    exact (Option.some.inj hsread).symm
  · intro h
    exact Command.render_of_content ha (h ▸ hb)

/-- A star says the same as no field, and without an order its direction says nothing. The same
group stands in both trees. -/
theorem star_reads_as_no_field :
    let group : StatementCall := .tree (.group [.compare ⟨"a"⟩ .equal (.int 1), .join .or,
      .compare ⟨"b\x60.?"⟩ .like .null])
    ∃ s t a, Statement.Reached [group] s ∧
      Statement.Reached [group, .change (.direction .descending), .change (.fields [⟨"*"⟩])] t ∧
      read s.rendered = some a ∧ read t.rendered = some a ∧
      (s.rendered = t.rendered ↔ s.command.Alike t.command) ∧ s.rendered = t.rendered := by
  intro group
  let noGroup : String → Option Conditions := fun _ => none
  let w : World Scripted := { driver := {} }
  have hg : ∀ name g, noGroup name = some g → g.Built := fun _ _ h => by cases h
  have hnew := Statement.Reached.select ⟨⟨"t"⟩, {}⟩
  have hs := hnew.call hg (rfl : Statement.call? noGroup _ w group = some _)
  have hfields := hnew.call hg
    (rfl : Statement.call? noGroup _ w (.change (.fields [⟨"*"⟩])) = some _)
  have hdirection := hfields.call hg
    (rfl : Statement.call? noGroup _ w (.change (.direction .descending)) = some _)
  have ht := hdirection.call hg (rfl : Statement.call? noGroup _ w group = some _)
  obtain ⟨hread, hread', halike⟩ := rendering_loses_nothing hs ht rfl rfl
  have hfields : SameFields [] [⟨"*"⟩] := Or.inr (Or.inl ⟨rfl, rfl⟩)
  refine ⟨_, _, _, hs, ht, hread, hread', halike, halike.mpr ⟨rfl, hfields, rfl, rfl, ?_, rfl, rfl⟩⟩
  exact ⟨rfl, fun h => absurd rfl h⟩

end Reading

end SqlClient
