import SqlClient.Proofs.Formed
import SqlClient.Proofs.Separator.Level
import SqlClient.Scripted

/-! # How elements are joined

How an element of a tree is joined follows from the calls on its level alone: from its own call, or
from what was asked for last since the element before it. Calls that append nothing leave no trace.
-/
namespace SqlClient

namespace LevelCall

open Conditions (ofCalls)

variable {groups : String → Option Conditions}

/-! ## Calls that append nothing -/

mutual

theorem entry_eq_nil_iff (key : String) (c : Clause) :
    entry groups (key, c) = [] ↔ c.hasValue = false := by
  cases c with
  | value v => simp [entry, Clause.hasValue]
  | nested entries =>
    rw [entry, Element.group_eq_nil_iff, items_inside_eq_nil_iff, List.forall_mem_singleton,
      Clause.hasValue]
    exact entries_eq_nil_iff entries

theorem entries_eq_nil_iff (entries : List (String × Clause)) :
    entries.flatMap (entry groups) = [] ↔ Clause.anyValue entries = false := by
  cases entries with
  | nil => simp [Clause.anyValue]
  | cons e entries =>
    rw [List.flatMap_cons, List.append_eq_nil_iff, Clause.anyValue, Bool.or_eq_false_iff,
      entry_eq_nil_iff e.1 e.2, entries_eq_nil_iff entries]

end

theorem matched_eq_nil_iff (pairs : List (Ident × Value)) :
    matched groups pairs = [] ↔ pairs = [] := by
  unfold matched
  rw [Element.group_eq_nil_iff, items_inside_eq_nil_iff]
  cases pairs <;> simp [elements]

mutual

theorem elements_eq_nil_iff (c : TreeCall) :
    (LevelCall.mk groups c).elements = [] ↔ c.appends groups = false := by
  unfold elements TreeCall.appends
  cases c with
  | group body =>
    dsimp only
    rw [Element.group_eq_nil_iff, items_inside_eq_nil_iff]
    exact all_elements_eq_nil_iff body
  | groupOf slot =>
    dsimp only
    cases groups slot with
    | none => simp
    | some g => simpa [Conditions.isEmpty] using Element.group_eq_nil_iff
  | matching pairs => simpa using matched_eq_nil_iff pairs
  | matchingColumns columns values =>
    dsimp only
    rw [matched_eq_nil_iff]
    cases columns <;> cases values <;> simp
  | filter f => exact entries_eq_nil_iff f.entries
  | filterDocument d =>
    dsimp only
    cases Filter.ofDocument d with
    | ok f => exact entries_eq_nil_iff f.entries
    | error e => simp
  | _ => simp

theorem all_elements_eq_nil_iff (cs : List TreeCall) :
    (∀ c ∈ cs, (LevelCall.mk groups c).elements = []) ↔ TreeCall.anyAppends groups cs = false := by
  cases cs with
  | nil => simp [TreeCall.anyAppends]
  | cons c cs =>
    rw [List.forall_mem_cons, TreeCall.anyAppends, Bool.or_eq_false_iff, elements_eq_nil_iff c,
      all_elements_eq_nil_iff cs]

end

theorem wish_ofCalls (h : List LevelCall) : (ofCalls h).wish = asked h := by
  induction h with
  | nil => rfl
  | cons p h ih =>
    unfold asked
    split
    · next c hc =>
      rw [ofCalls, hc]
      rfl
    · next hp =>
      unfold Conditions.wish at ih ⊢
      rw [next_ofCalls_cons hp]
      by_cases he : p.elements = []
      · have hap : p.appends = false := (elements_eq_nil_iff p.call).mp he
        rw [if_pos he, hap, ih]
        rfl
      · have hap : p.appends = true := by
          by_contra hfalse
          exact he ((elements_eq_nil_iff p.call).mpr (eq_false_of_ne_true hfalse))
        rw [if_neg he, hap]
        rfl

theorem ofCalls_of_not_appends {p : LevelCall} (hp : ∀ c, p.call ≠ .join c)
    (ha : p.appends = false) (h : List LevelCall) : ofCalls (p :: h) = ofCalls h := by
  have he : p.elements = [] := (elements_eq_nil_iff p.call).mpr ha
  rw [ofCalls, reply_edits p hp, he]
  rfl

def Grown (h : List LevelCall) : Prop :=
  ∀ p ∈ h, ∀ name g, p.groups name = some g → g.Built

theorem Grown.built {h : List LevelCall} (hg : Grown h) : (ofCalls h).Built := by
  induction h with
  | nil => exact .empty
  | cons p h ih =>
    obtain ⟨hp, hrest⟩ := List.forall_mem_cons.mp hg
    exact .call p.groups p.call hp (ih hrest)

end LevelCall

theorem Conditions.Built.grown {g : Conditions} (hb : g.Built) :
    ∃ h, LevelCall.Grown h ∧ g = Conditions.ofCalls h := by
  induction hb with
  | empty => exact ⟨[], by simp [LevelCall.Grown], rfl⟩
  | call groups c hg _ _ ih =>
    obtain ⟨h, hh, rfl⟩ := ih
    exact ⟨⟨groups, c⟩ :: h, List.forall_mem_cons.mpr ⟨hg, hh⟩, rfl⟩

/-! ## Calls on a statement -/

def StatementCall.tree? : StatementCall → Option TreeCall
  | tree c => some c
  | _ => none

namespace Statement

open LevelCall (Grown asked)
open Conditions (ofCalls)

/-- The tree of a statement is made by the calls on it alone. -/
theorem reached_ofCalls {calls : List StatementCall} {s : Statement} (hs : Reached calls s)
    {cs : Conditions} (hcs : s.command.conditions? = some cs) :
    ∃ h, Grown h ∧ h.map LevelCall.call = calls.filterMap StatementCall.tree? ∧
      cs = ofCalls h := by
  have new : ∀ cs : Conditions, cs = {} → ∃ h, Grown h ∧ h.map LevelCall.call = [] ∧
      cs = ofCalls h := fun cs hcs => ⟨[], by simp [Grown], rfl, hcs⟩
  induction hs generalizing cs with
  | select t => exact new cs (Option.some.inj hcs).symm
  | update t => exact new cs (Option.some.inj hcs).symm
  | delete t => exact new cs (Option.some.inj hcs).symm
  | @insert _ _ t w s h =>
    obtain ⟨required, rfl⟩ := Table.eq_of_insert_ok h
    cases hcs
  | query => cases hcs
  | clone _ ih => exact ih hcs
  | @call _ _ calls s groups w c a hg _ hc ih =>
    rw [call?_command hc, Command.conditions?_after] at hcs
    cases c with
    | tree t =>
      obtain ⟨here, hhere, rfl⟩ := Option.map_eq_some_iff.mp hcs
      obtain ⟨h, hh, hcalls, rfl⟩ := ih hhere
      refine ⟨⟨groups, t⟩ :: h, List.forall_mem_cons.mpr ⟨hg, hh⟩, ?_, rfl⟩
      rw [List.map_cons, hcalls]
      rfl
    | _ => exact ih hcs

end Statement

open LevelCall (Grown asked)
open Conditions (ofCalls)

/-- On every level of a group or of the tree of a statement the first element joins nothing and every
other one something, and no group in it is empty. A call puts its elements behind those of its level:
each joined as the call itself decides, or else as the last connective since the element before has
asked for. A call without an element leaves the level alone, and what has been asked for. -/
theorem elements_joined_as_asked :
    (∀ h : List LevelCall, Grown h →
      Condition.FormedLevel (ofCalls h).items ∧
      ∀ p : LevelCall,
        (ofCalls (p :: h)).items =
          (ofCalls h).items ++
            p.elements.mapIdx (fun i e =>
              e.term.joinedBy
                (if (ofCalls h).items.length + i = 0 then .none
                else (e.joint.getD (asked h)).separator)) ∧
        (p.elements = [] ↔ p.appends = false) ∧
        (p.appends = false → (∀ c, p.call ≠ .join c) → ofCalls (p :: h) = ofCalls h)) ∧
    (∀ g : Conditions, g.Built → ∃ h, Grown h ∧ g = ofCalls h) ∧
    ∀ calls s cs, Statement.Reached calls s → s.command.conditions? = some cs →
      ∃ h, Grown h ∧ h.map LevelCall.call = calls.filterMap StatementCall.tree? ∧
        cs = ofCalls h := by
  refine ⟨fun h hg => ⟨hg.built.formed, fun p => ⟨?_, ?_, ?_⟩⟩, fun g hb => hb.grown,
    fun calls s cs hs hcs => Statement.reached_ofCalls hs hcs⟩
  · rw [LevelCall.items_ofCalls_cons, LevelCall.wish_ofCalls]
    rfl
  · exact LevelCall.elements_eq_nil_iff p.call
  · exact fun ha hp => LevelCall.ofCalls_of_not_appends hp ha h

/-- An OR waits through a dropped comparison, an empty group and a filter without a value. A delete
that was asked for it has it too. -/
theorem or_waits_for_element :
    let groups : String → Option Conditions := fun _ => some {}
    let call : TreeCall → LevelCall := LevelCall.mk groups
    let h : List LevelCall :=
      [call (.filter ⟨[("&x", .nested [])]⟩), call (.groupOf "g"), call .dropped,
        call (.join .or), call (.compare ⟨"a"⟩ .equal (.int 1))]
    let p : LevelCall := call (.compare ⟨"b"⟩ .equal (.int 2))
    let w : World Scripted := { driver := {} }
    let a : After Scripted Statement Answer :=
      ⟨.done, ((Table.delete ⟨⟨"t"⟩, {}⟩).edits [.join .or] w).1, w⟩
    Grown h ∧ Condition.FormedLevel (ofCalls h).items ∧
      (ofCalls (p :: h)).items =
        [.comparison .none ⟨⟨"a"⟩, .equal, .int 1⟩, .comparison .or ⟨⟨"b"⟩, .equal, .int 2⟩] ∧
      Statement.Reached [.tree (.join .or)] a.next ∧
      ∃ h', Grown h' ∧ h'.map LevelCall.call = [.join .or] ∧
        a.next.command.conditions? = some (ofCalls h') := by
  intro groups call h p w a
  obtain ⟨hlevels, -, hstatements⟩ := elements_joined_as_asked
  have empty_built : ∀ name g, groups name = some g → g.Built := by
    intro name g hg
    cases hg
    exact .empty
  have hgrown : Grown h := by
    intro q hq
    have hgroups : q.groups = groups := by
      simp only [h, List.mem_cons, List.not_mem_nil, or_false] at hq
      rcases hq with rfl | rfl | rfl | rfl | rfl <;> rfl
    rw [hgroups]
    exact empty_built
  obtain ⟨hformed, hcall⟩ := hlevels h hgrown
  have hc : (Table.delete ⟨⟨"t"⟩, {}⟩).call? groups w (.tree (.join .or)) = some a := rfl
  have hs : Statement.Reached [.tree (.join .or)] a.next := .call empty_built (.delete _) hc
  obtain ⟨h', hg, hmap, hcs⟩ := hstatements _ _ _ hs rfl
  exact ⟨hgrown, hformed, (hcall p).1, hs, h', hg, hmap, congrArg some hcs⟩

end SqlClient