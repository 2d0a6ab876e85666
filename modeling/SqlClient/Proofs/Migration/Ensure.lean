import SqlClient.Proofs.Migration.CatalogOnly

/-! # Columns for values

Adding the columns that a table lacks, on a connection whose catalog follows: the loop decides by
the catalog as it was before, while every statement that it sends decides by the catalog as it is
then. Each column is added once, and a second time nothing is left to do.
-/
namespace SqlClient

open Connection

section Firsts

variable {known : Ident → Bool} {p : Ident × Value} (pairs : List (Ident × Value))

theorem unknownFirsts_eq_nil (h : ∀ p ∈ pairs, known p.1 = true) :
    unknownFirsts known pairs = [] := by
  induction pairs with
  | nil => rfl
  | cons p pairs ih =>
    rw [unknownFirsts_of_known pairs (h p List.mem_cons_self)]
    exact ih fun q hq => h q (List.mem_cons_of_mem p hq)

theorem any_unknownFirsts (f : Ident → Bool) (hf : ∀ c, known c = true → f c = false) :
    (unknownFirsts known pairs).any (fun p => f p.1) = pairs.any fun p => f p.1 := by
  induction pairs generalizing known with
  | nil => rfl
  | cons p pairs ih =>
    rw [List.any_cons]
    cases hk : known p.1 with
    | true => rw [unknownFirsts_of_known pairs hk, ih hf, hf p.1 hk, Bool.false_or]
    | false =>
      rw [unknownFirsts_of_unknown pairs hk, List.any_cons]
      cases hp : f p.1 with
      | true => rfl
      | false =>
        rw [ih]
        intro c hc
        rcases Bool.or_eq_true_iff.mp hc with hc | hc
        · exact hf c hc
        · rw [eq_of_beq hc]
          exact hp

end Firsts

variable {σ : Type} [Connection σ]

namespace Table

/-- No two of the names are equal up to ASCII case only. -/
def Distinct (names : List Ident) : Prop :=
  ∀ a ∈ names, ∀ b ∈ names, Text.sameName a.name b.name = true → a = b

/-- The catalog once columns have been added: the table is there, with them and with what it had. -/
structure Grown (t : Table) (d : σ) (added : List Ident) (e : σ) : Prop where
  lists : lists e t.name = (lists d t.name || !added.isEmpty)
  has : ∀ column, has e t.name column =
    (has d t.name column || added.any fun a => Text.sameName a.name column.name)

theorem Grown.refl (t : Table) {d e : σ} (h : SameCatalog d e) : t.Grown d [] e := by
  constructor
  · rw [h.lists, List.isEmpty_nil, Bool.not_true, Bool.or_false]
  · intro column
    rw [h.has, List.any_nil, Bool.or_false]

theorem Grown.snoc {t : Table} {d e f : σ} {added : List Ident} {column : Ident}
    (h : t.Grown d added e) (hlists : Connection.lists f t.name = true)
    (hhas : ∀ c, Connection.has f t.name c =
      (Connection.has e t.name c || Text.sameName column.name c.name)) :
    t.Grown d (added ++ [column]) f := by
  constructor
  · rw [hlists]
    cases added <;> simp
  · intro c
    rw [hhas, h.has, List.any_append, List.any_cons, List.any_nil, Bool.or_false, Bool.or_assoc]

theorem Grown.creates {t : Table} {d e : σ} {added : List Ident} (h : t.Grown d added e) :
    (!Connection.lists e t.name) = (!Connection.lists d t.name && added.length == 0) := by
  rw [h.lists, Bool.not_or, Bool.not_not]
  cases added <;> rfl

theorem Grown.has_eq_false {t : Table} {d e : σ} {added names : List Ident} {column : Ident}
    (h : t.Grown d added e) (hd : Distinct names) (hadded : added ⊆ names)
    (hcolumn : column ∈ names)
    (hk : (Connection.has d t.name column || added.contains column) = false) :
    Connection.has e t.name column = false := by
  obtain ⟨hunknown, hfresh⟩ := Bool.or_eq_false_iff.mp hk
  rw [h.has, hunknown, Bool.false_or, List.any_eq_false]
  intro a ha hsame
  rw [hd a (hadded ha) column hcolumn hsame] at ha
  rw [List.contains_iff_mem.mpr ha] at hfresh
  cases hfresh

/-- The statements that add columns, when so many have been added before. Only the very first one
creates the table, if it is not listed. -/
def additions (t : Table) (listed : Bool) (n : Nat) (pairs : List (Ident × Value)) : List String :=
  pairs.mapIdx fun i p => t.addition (!listed && n + i == 0) p

theorem additions_cons (t : Table) (listed : Bool) (n : Nat) (p : Ident × Value)
    (pairs : List (Ident × Value)) : t.additions listed n (p :: pairs) =
      t.addition (!listed && n == 0) p :: t.additions listed (n + 1) pairs := by
  unfold additions
  rw [List.mapIdx_cons, Nat.add_zero]
  congr 2
  funext i q
  rw [Nat.add_assoc, Nat.add_comm 1 i]

/-- The loop, from any point of it on: the snapshot in `existing` is of the catalog of `d`, and the
columns in `added` have been added to that. -/
theorem addMissing_grows {t : Table} (hr : Reflects σ t.settings.dialect) {d : σ}
    {existing : Option Columns} {names : List Ident} (hd : Distinct names)
    (hexisting : ∀ c : Ident, existing.any (fun cs => cs.contains c.name) = has d t.name c)
    {added : List Ident} {pairs : List (Ident × Value)} {w : World σ}
    (hadded : added ⊆ names) (hpairs : pairs.map Prod.fst ⊆ names)
    (hw : t.Grown d added w.driver) :
    let new := unknownFirsts (fun c => has d t.name c || added.contains c) pairs
    let a := t.addMissing existing added pairs w
    a.1 = .ok (added ++ new.map Prod.fst) ∧
      w.Sends (t.additions (lists d t.name) added.length new) a.2 ∧
      t.Grown d (added ++ new.map Prod.fst) a.2.driver := by
  -- The snapshot stays while `added` and the catalog grow together.
  induction pairs generalizing added w with
  | nil =>
    dsimp only
    rw [show unknownFirsts (fun c => has d t.name c || added.contains c) [] = [] from rfl,
      List.map_nil, List.append_nil]
    exact ⟨rfl, (World.HandsOff.refl w).sends, hw⟩
  | cons p pairs ih =>
    obtain ⟨column, v⟩ := p
    rw [List.map_cons, List.cons_subset] at hpairs
    obtain ⟨hcolumn, hrest⟩ := hpairs
    dsimp only at hcolumn ⊢
    rw [addMissing, hexisting]
    cases hk : has d t.name column || added.contains column with
    | true =>
      rw [unknownFirsts_of_known pairs hk, if_pos rfl]
      exact ih hadded hrest hw
    | false =>
      rw [unknownFirsts_of_unknown pairs hk, if_neg (by decide)]
      -- The live catalog agrees with the snapshot here, so the column is not refused as existing.
      have hno : has w.driver t.name column = false := hw.has_eq_false hd hadded hcolumn hk
      obtain ⟨hok, hsends, hlisted, hhas⟩ := t.addColumn_reflects hr v hno
      have hadded' : added ++ [column] ⊆ names :=
        List.append_subset.mpr ⟨hadded, List.cons_subset.mpr ⟨hcolumn, List.nil_subset _⟩⟩
      obtain ⟨hresult, hmore, hgrown⟩ := ih hadded' hrest (hw.snoc hlisted hhas)
      have hknown : (fun c => has d t.name c || (added ++ [column]).contains c) =
          fun c => has d t.name c || added.contains c || c == column := by
        funext c
        rw [List.contains_append, List.contains_cons, List.contains_nil, Bool.or_false,
          Bool.or_assoc]
      rw [hknown, List.append_assoc] at hresult hgrown
      rw [hknown, List.length_append] at hmore
      rw [hw.creates] at hsends
      dsimp only
      rw [hok, additions_cons]
      exact ⟨hresult, hsends.trans hmore, hgrown⟩

theorem has_congr (d : σ) (t : Ident) {a b : Ident} (h : Text.sameName a.name b.name = true) :
    has d t a = has d t b := by
  have hsame : ∀ name, Text.sameName name a.name = Text.sameName name b.name := by
    intro name
    rw [Bool.eq_iff_iff]
    rw [Text.sameName_iff] at h
    rw [Text.sameName_iff, Text.sameName_iff, h]
  unfold has
  simp only [hsame]

theorem Grown.has_pairs {t : Table} {d e : σ} {pairs : List (Ident × Value)}
    (h : t.Grown d ((unknownFirsts (Connection.has d t.name) pairs).map Prod.fst) e)
    (column : Ident) :
    Connection.has e t.name column = (Connection.has d t.name column ||
      pairs.any fun p => Text.sameName p.1.name column.name) := by
  rw [h.has, List.any_map]
  cases hk : Connection.has d t.name column with
  | true => rfl
  | false =>
    congr 1
    apply any_unknownFirsts pairs (fun c => Text.sameName c.name column.name)
    intro c hc
    rw [← Bool.not_eq_true]
    intro hsame
    rw [has_congr _ _ hsame, hk] at hc
    cases hc

theorem ensureColumns_grows {t : Table} (hr : Reflects σ t.settings.dialect)
    {pairs : List (Ident × Value)} (hd : Distinct (pairs.map Prod.fst)) (w : World σ) :
    let new := unknownFirsts (has w.driver t.name) pairs
    let a := t.ensureColumns pairs w
    a.1 = .ok (new.map Prod.fst) ∧ w.Sends (t.additions (lists w.driver t.name) 0 new) a.2 ∧
      t.Grown w.driver (new.map Prod.fst) a.2.driver := by
  intro new a
  obtain ⟨existing, hexisting, -, hany, hsame⟩ := t.columnsIfListed_reflects hr w
  obtain ⟨hresult, hsends, hgrown⟩ := addMissing_grows hr hd hany (List.nil_subset _)
    (List.Subset.refl _) (Grown.refl t hsame)
  have ha : a = t.addMissing existing [] pairs (t.columnsIfListed w).2 := by
    unfold a ensureColumns
    dsimp only
    rw [hexisting]
  have hknown : (fun c => has w.driver t.name c || ([] : List Ident).contains c) =
      has w.driver t.name := by
    funext c
    rw [List.contains_nil, Bool.or_false]
  rw [hknown, List.nil_append] at hresult hgrown
  rw [hknown] at hsends
  rw [ha]
  exact ⟨hresult, (t.columnsIfListed_handsOff w).sends.trans hsends, hgrown⟩

/-- On a connection whose catalog follows, the columns that a table lacks are added, one statement
for each in the order in which they occur first, and only a table that is not listed is created, by
the first of them. Then the table has all the columns besides those it had, and doing the same again
sends nothing. -/
theorem ensureColumns_completes (t : Table) (hr : Reflects σ t.settings.dialect)
    (pairs : List (Ident × Value))
    (hd : ∀ p ∈ pairs, ∀ q ∈ pairs, Text.sameName p.1.name q.1.name = true → p.1 = q.1)
    (w : World σ) :
    let lacking := (pairs.filter fun p => !has w.driver t.name p.1).eraseDupsBy
      fun p q => p.1 == q.1
    let a := t.ensureColumns pairs w
    a.1 = .ok (lacking.map Prod.fst) ∧
      w.Sends (lacking.mapIdx fun i p => Rendered.sql <| AddColumn.render t.settings.dialect
        { table := t.name, column := p.1, type := .forValue p.2, default := none,
          create := !lists w.driver t.name && i == 0 }) a.2 ∧
      (∀ column, has a.2.driver t.name column =
        (has w.driver t.name column ||
          pairs.any fun p => Text.sameName p.1.name column.name)) ∧
      (t.ensureColumns pairs a.2).1 = .ok [] ∧ a.2.Sends [] (t.ensureColumns pairs a.2).2 := by
  intro lacking a
  have hnames : Distinct (pairs.map Prod.fst) := by
    intro b hb c hc
    obtain ⟨p, hp, rfl⟩ := List.mem_map.mp hb
    obtain ⟨q, hq, rfl⟩ := List.mem_map.mp hc
    exact hd p hp q hq
  obtain ⟨hresult, hsends, hgrown⟩ := ensureColumns_grows hr hnames w
  have hall : unknownFirsts (has a.2.driver t.name) pairs = [] := by
    apply unknownFirsts_eq_nil
    intro p hp
    rw [hgrown.has_pairs, Bool.or_eq_true_iff]
    exact Or.inr (List.any_eq_true.mpr ⟨p, hp, Text.sameName_refl _⟩)
  obtain ⟨hagain, hnothing, -⟩ := ensureColumns_grows hr hnames a.2
  rw [hall] at hagain hnothing
  refine ⟨hresult, ?_, hgrown.has_pairs, hagain, hnothing⟩
  unfold additions addition at hsends
  simp only [Nat.zero_add] at hsends
  exact hsends

/-- A table is created with the first of its columns, and a repeated one is left out. -/
theorem teams_created_with_city :
    let w : World CatalogOnly := { driver := {} }
    let a := Table.ensureColumns ⟨⟨"teams"⟩, {}⟩
      [(⟨"city"⟩, .text "Rome"), (⟨"size"⟩, .int 3), (⟨"city"⟩, .null)] w
    a.1 = .ok [⟨"city"⟩, ⟨"size"⟩] ∧
      w.Sends ["CREATE TABLE `teams` (`city` VARCHAR(256))",
        "ALTER TABLE `teams` ADD COLUMN `size` BIGINT"] a.2 ∧
      has a.2.driver ⟨"teams"⟩ ⟨"Size"⟩ = true := by
  intro w a
  obtain ⟨hresult, hsends, hhas, -⟩ := ensureColumns_completes ⟨⟨"teams"⟩, {}⟩
    (CatalogOnly.reflects _)
    [(⟨"city"⟩, .text "Rome"), (⟨"size"⟩, .int 3), (⟨"city"⟩, .null)] (by decide) w
  refine ⟨hresult.trans (congrArg Except.ok ?_), ?_, ?_⟩
  · decide
  · refine Eq.mp (congrArg (fun texts => w.Sends texts a.2) ?_) hsends
    decide
  · refine (hhas ⟨"Size"⟩).trans ?_
    decide

end Table

end SqlClient
