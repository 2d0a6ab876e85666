import SqlClient.Proofs.Freshness
import SqlClient.Scripted
import Mathlib.Data.List.Pairwise

/-! # Columns that are written

An insert or update lists each column that calls have written since its values were last cleared
once, where it was first written and with the value that was written last. Two spellings of a name
that differ in the case of ASCII letters are two columns here, although the required columns and the
catalog take them for one.
-/
namespace SqlClient

/-- The pairs written so far, in order, after another change. -/
def Change.writes (pairs : List (Ident × Value)) : Change → List (Ident × Value)
  | value column v => pairs ++ [(column, v)]
  | values more => pairs ++ more
  | clearValues => []
  | _ => pairs

namespace Command

theorem assigned?_edit (c : Command) (e : Edit) : (c.edit e).assigned? = c.assigned? := by
  cases c <;> rfl

theorem assigned?_edits (c : Command) (es : List Edit) :
    (es.foldl (fun c e => c.edit e) c).assigned? = c.assigned? := by
  induction es generalizing c with
  | nil => rfl
  | cons e es ih => rw [List.foldl_cons, ih, assigned?_edit]

theorem assigned?_change? {c d : Command} {change : Change} {pairs : List (Ident × Value)}
    (hd : c.change? change = some d)
    (hc : ∀ m, c.assigned? = some m → m = OrderedMap.ofList pairs) :
    ∀ m, d.assigned? = some m → m = OrderedMap.ofList (change.writes pairs) := by
  intro m hm
  cases c with
  | select q =>
    obtain ⟨q', -, rfl⟩ := Option.map_eq_some_iff.mp hd
    cases hm
  | delete q =>
    obtain ⟨q', -, rfl⟩ := Option.map_eq_some_iff.mp hd
    cases hm
  | raw q =>
    obtain ⟨q', -, rfl⟩ := Option.map_eq_some_iff.mp hd
    cases hm
  | insert q =>
    have hq : q.values = OrderedMap.ofList pairs := hc q.values rfl
    obtain ⟨q', hq', rfl⟩ := Option.map_eq_some_iff.mp hd
    cases change <;> cases hq' <;> cases hm
    · rw [hq, Change.writes, OrderedMap.ofList_append]
      rfl
    · rw [hq, Change.writes, OrderedMap.ofList_append]
    · rfl
  | update q =>
    have hq : q.values = OrderedMap.ofList pairs := hc q.values rfl
    obtain ⟨q', hq', rfl⟩ := Option.map_eq_some_iff.mp hd
    cases change <;> cases hq' <;> cases hm
    · exact hq
    · rw [hq, Change.writes, OrderedMap.ofList_append]
      rfl
    · rw [hq, Change.writes, OrderedMap.ofList_append]
    · rfl

theorem assigned?_after {groups : String → Option Conditions} {c : Command} {call : StatementCall}
    (hcall : ∀ change, call ≠ .change change) :
    (c.after groups call).assigned? = c.assigned? := by
  cases call with
  | change change => exact absurd rfl (hcall change)
  | tree t =>
    unfold after
    dsimp only
    cases c.conditions? with
    | none => rfl
    | some here => exact c.assigned?_edits _
  | first => cases c <;> rfl
  | autoMigrate b => cases c <;> rfl
  | _ => rfl

end Command

namespace Statement

/-- The pairs written since the values were last cleared, in order. Calls are listed last call
first. -/
def written : List StatementCall → List (Ident × Value)
  | [] => []
  | .change c :: calls => c.writes (written calls)
  | _ :: calls => written calls

variable {s : Statement} {calls : List StatementCall}

theorem reached_assigned (h : Reached calls s) :
    ∀ m, s.command.assigned? = some m → m = OrderedMap.ofList (written calls) := by
  induction h with
  | select t =>
    intro m hm
    cases hm
  | update t =>
    intro m hm
    cases hm
    rfl
  | delete t =>
    intro m hm
    cases hm
  | @insert _ _ t w s h =>
    intro m hm
    obtain ⟨required, rfl⟩ := Table.eq_of_insert_ok h
    cases hm
    rfl
  | query settings sql =>
    intro m hm
    cases hm
  | clone _ ih => exact ih
  | @call _ _ calls s groups w c a _ _ hc ih =>
    have hcommand := call?_command hc
    cases c with
    | change change =>
      obtain ⟨p, hp, -⟩ := Option.map_eq_some_iff.mp hc
      obtain ⟨d, hd, -⟩ := Option.map_eq_some_iff.mp hp
      have hafter : a.next.command = d := by
        rw [hcommand]
        simp [Command.after, hd]
      rw [hafter]
      exact Command.assigned?_change? hd ih
    | _ =>
      rw [hcommand, Command.assigned?_after (by simp)]
      exact ih

/-- Whatever has been called, the columns that a statement lists are those that have been written
since its values were last cleared, each once, where it was first written, and with the value that
was written last. They also differ beyond the case of their letters exactly if no column has been
written in two spellings. -/
theorem assigned_columns_once (h : Reached calls s) {m : OrderedMap Ident Value}
    (hm : s.command.assigned? = some m) :
    s.rendered = s.command.render ∧
      m.keys = ((written calls).map Prod.fst).eraseDups ∧
      m.keys.Nodup ∧
      (∀ column, m.get? column =
        ((written calls).filter fun e => e.1 = column).getLast?.map Prod.snd) ∧
      (m.keys.Pairwise (fun a b => Text.sameName a.name b.name = false) ↔
        ∀ a ∈ (written calls).map Prod.fst, ∀ b ∈ (written calls).map Prod.fst,
          Text.sameName a.name b.name = true → a = b) := by
  have hassigned := reached_assigned h m hm
  have hkeys := OrderedMap.keys_ofList (written calls)
  have hnodup := OrderedMap.nodup_keys_ofList (written calls)
  rw [← hassigned] at hkeys hnodup
  have hmem : ∀ column, column ∈ m.keys ↔ column ∈ (written calls).map Prod.fst := by
    intro column
    rw [hkeys, List.mem_eraseDups]
  refine ⟨(reached_current h).rendered, hkeys, hnodup, fun column => ?_, ?_⟩
  · rw [hassigned, OrderedMap.get?_ofList]
  · constructor
    · intro hpair a ha b hb hab
      by_contra hne
      have hsymm : Std.Symm fun a b : Ident => Text.sameName a.name b.name = false := by
        constructor
        intro a b hd
        rw [Text.sameName_comm]
        exact hd
      have hdiffer := hpair.forall ((hmem a).mpr ha) ((hmem b).mpr hb) hne
      rw [hab] at hdiffer
      cases hdiffer
    · intro hspelled
      refine hnodup.imp_of_mem ?_
      intro a b ha hb hne
      by_contra hab
      rw [Bool.not_eq_false] at hab
      exact hne (hspelled a ((hmem a).mp ha) b ((hmem b).mp hb) hab)

/-- A column is written again after another one. It keeps its place. -/
theorem repeated_column_keeps_place :
    let calls : List StatementCall :=
      [.change (.value ⟨"a"⟩ (.int 3)), .change (.values [(⟨"a"⟩, .int 1), (⟨"b"⟩, .int 2)])]
    let m : OrderedMap Ident Value := ⟨[(⟨"a"⟩, .int 3), (⟨"b"⟩, .int 2)]⟩
    ∃ s, Reached calls s ∧ s.command.assigned? = some m ∧
      s.rendered.sql = "UPDATE `t` SET `a` = ?, `b` = ?" ∧ m.keys.Nodup ∧
      m.get? ⟨"a"⟩ = some (.int 3) ∧
      m.keys.Pairwise fun a b => Text.sameName a.name b.name = false := by
  intro calls m
  let w : World Scripted := { driver := {} }
  have hmade : Reached [] (Table.update ⟨⟨"t"⟩, {}⟩) := .update _
  have hfirst := hmade.changed (c := .values [(⟨"a"⟩, .int 1), (⟨"b"⟩, .int 2)]) rfl w
  have hsecond := hfirst.changed (c := .value ⟨"a"⟩ (.int 3)) rfl w
  obtain ⟨-, -, hnodup, hlast, hdiffer⟩ := assigned_columns_once hsecond (m := m) rfl
  refine ⟨_, hsecond, rfl, rfl, hnodup, hlast ⟨"a"⟩, hdiffer.mpr ?_⟩
  have hnamed : ∀ a ∈ (written calls).map Prod.fst, a = ⟨"a"⟩ ∨ a = ⟨"b"⟩ := by
    simp [calls, written, Change.writes]
  intro a ha b hb hab
  rcases hnamed a ha with rfl | rfl <;> rcases hnamed b hb with rfl | rfl
  · rfl
  · exact absurd hab (by decide)
  · exact absurd hab (by decide)
  · rfl

/-- An insert takes `NAME` for the column `name` that it has to give, and still lists both when
`name` is written as well. -/
theorem column_in_two_spellings_listed_twice :
    ∃ (s t : Statement) (p q : Insert),
      Reached [.change (.value ⟨"NAME"⟩ (.int 1))] s ∧ s.command = .insert p ∧
      p.required = ["name"] ∧ p.missing = [] ∧
      Reached [.change (.value ⟨"name"⟩ (.int 2)), .change (.value ⟨"NAME"⟩ (.int 1))] t ∧
      t.command = .insert q ∧
      t.rendered.sql = "INSERT INTO `t` (`NAME`, `name`) VALUES (?, ?)" ∧
      q.values.keys = [⟨"NAME"⟩, ⟨"name"⟩] ∧ Text.sameName "NAME" "name" = true := by
  let w : World Scripted :=
    { driver := { tables := [("t", [{ name := "name", type := "TEXT", nullable := false }])] } }
  obtain ⟨s, hs, rfl⟩ : ∃ s, ((⟨⟨"t"⟩, {}⟩ : Table).insert w).1 = .ok s ∧
      s = ⟨.insert { target := ⟨⟨"t"⟩, {}⟩, required := ["name"] }, none, { settings := {} }⟩ :=
    ⟨_, rfl, rfl⟩
  have hmade := Reached.insert hs
  have hfirst := hmade.changed (c := .value ⟨"NAME"⟩ (.int 1)) rfl w
  have hsecond := hfirst.changed (c := .value ⟨"name"⟩ (.int 2)) rfl w
  exact ⟨_, _, _, _, hfirst, rfl, rfl, rfl, hsecond, rfl, rfl, rfl, rfl⟩

end Statement

end SqlClient
