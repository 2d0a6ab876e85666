import SqlClient.Proofs.Reached

/-! # Well-formed trees

At every level of a tree only the first element joins nothing, and no group is empty. Every edit
that a call makes appends a well-formed element, so every tree made by calls is well formed.
-/
namespace SqlClient

namespace Condition

mutual

def Formed : Condition → Prop
  | comparison _ _ => True
  | group _ items => items ≠ [] ∧ FormedLevel items

def FormedLevel : List Condition → Prop
  | [] => True
  | c :: cs => c.separator = .none ∧ c.Formed ∧ FormedRest cs

def FormedRest : List Condition → Prop
  | [] => True
  | c :: cs => c.separator ≠ .none ∧ c.Formed ∧ FormedRest cs

end

theorem FormedRest.snoc {cs : List Condition} {c : Condition} (h : FormedRest cs)
    (hs : c.separator ≠ .none) (hc : c.Formed) : FormedRest (cs ++ [c]) := by
  induction cs with
  | nil => exact ⟨hs, hc, trivial⟩
  | cons d ds ih => exact ⟨h.1, h.2.1, ih h.2.2⟩

end Condition

open Condition (FormedLevel FormedRest)

def Term.Formed : Term → Prop
  | comparison _ => True
  | group items => items ≠ [] ∧ FormedLevel items

def Edit.Formed : Edit → Prop
  | join _ => True
  | append t => t.Formed

theorem Term.separator_joinedBy (t : Term) (s : Separator) : (t.joinedBy s).separator = s := by
  cases t <;> rfl

theorem Term.Formed.joinedBy {t : Term} (h : t.Formed) (s : Separator) :
    (t.joinedBy s).Formed := by
  cases t with
  | comparison c => trivial
  | group items => exact h

theorem Connective.separator_ne_none (c : Connective) : c.separator ≠ .none := by
  cases c <;> simp [separator]

namespace Conditions

theorem formed_empty : FormedLevel ({} : Conditions).items := trivial

theorem formed_append {cs : Conditions} {t : Term} (h : FormedLevel cs.items) (ht : t.Formed) :
    FormedLevel (cs.append t).items := by
  rcases cs with ⟨items, next⟩
  cases items with
  | nil => exact ⟨t.separator_joinedBy _, ht.joinedBy _, trivial⟩
  | cons c cs =>
    refine ⟨h.1, h.2.1, h.2.2.snoc ?_ (ht.joinedBy _)⟩
    rw [t.separator_joinedBy]
    exact Connective.separator_ne_none _

theorem formed_edit {cs : Conditions} {e : Edit} (h : FormedLevel cs.items) (he : e.Formed) :
    FormedLevel (cs.edit e).items := by
  cases e with
  | join c => exact h
  | append t => exact formed_append h he

theorem formed_edits {cs : Conditions} {es : List Edit} (h : FormedLevel cs.items)
    (hes : ∀ e ∈ es, e.Formed) : FormedLevel (cs.edits es).items := by
  unfold edits
  induction es generalizing cs with
  | nil => exact h
  | cons e es ih =>
    exact ih (formed_edit h (hes e List.mem_cons_self))
      fun e' he => hes e' (List.mem_cons_of_mem e he)

end Conditions

/-! ## The edits of calls -/

namespace Edit

theorem formed_compare (column : Ident) (operator : Operator) (v : Value) :
    ∀ e ∈ compare column operator v, e.Formed := by
  intro e he
  cases List.mem_singleton.mp he
  trivial

theorem formed_group {g : Conditions} (h : FormedLevel g.items) : ∀ e ∈ group g, e.Formed := by
  intro e he
  unfold group at he
  split at he
  · cases he
  · rename_i hne
    cases List.mem_singleton.mp he
    exact ⟨fun hnil => hne (List.isEmpty_iff.mpr hnil), h⟩

theorem formed_matching (pairs : List (Ident × Value)) : ∀ e ∈ matching pairs, e.Formed := by
  intro e he
  unfold matching at he
  split at he
  · cases he
  · have hlevel : FormedLevel (equalities pairs).items := by
      refine Conditions.formed_edits Conditions.formed_empty fun e he => ?_
      obtain ⟨p, -, hp⟩ := List.mem_flatMap.mp he
      exact formed_compare _ _ _ e hp
    rcases List.mem_cons.mp he with rfl | he
    · trivial
    · exact formed_group hlevel e he

end Edit

namespace Filter

theorem formed_editsOf {terms : List (Connective × Term)} (h : ∀ t ∈ terms, t.2.Formed) :
    ∀ e ∈ editsOf terms, e.Formed := by
  intro e he
  obtain ⟨t, ht, he⟩ := List.mem_flatMap.mp he
  rcases List.mem_cons.mp he with rfl | he
  · trivial
  · cases List.mem_singleton.mp he
    exact h t ht

mutual

theorem formed_termOf? (column : Ident) (c : Clause) :
    ∀ t, termOf? column c = some t → t.Formed := by
  intro t ht
  cases c with
  | value v =>
    unfold termOf? at ht
    cases ht
    trivial
  | nested entries =>
    have hlevel := Conditions.formed_edits Conditions.formed_empty
      (formed_editsOf (formed_normalize entries))
    unfold termOf? at ht
    dsimp only at ht
    split at ht
    · cases ht
    · rename_i hne
      cases ht
      exact ⟨fun hnil => hne (List.isEmpty_iff.mpr hnil), hlevel⟩

theorem formed_normalize (entries : List (String × Clause)) :
    ∀ t ∈ normalize entries, t.2.Formed := by
  intro t ht
  cases entries with
  | nil =>
    unfold normalize at ht
    cases ht
  | cons e rest =>
    obtain ⟨key, clause⟩ := e
    unfold normalize at ht
    dsimp only at ht
    split at ht
    · rename_i t' ht'
      rcases List.mem_cons.mp ht with rfl | ht
      · exact formed_termOf? _ clause _ ht'
      · exact formed_normalize rest t ht
    · exact formed_normalize rest t ht

end

end Filter

namespace TreeCall

variable {groups : String → Option Conditions}

mutual

theorem formed_reply (hg : ∀ name g, groups name = some g → FormedLevel g.items)
    (here : Conditions) (c : TreeCall) : ∀ e ∈ (c.reply groups here).edits, e.Formed := by
  intro e he
  cases c with
  | join k =>
    unfold reply at he
    cases List.mem_singleton.mp he
    trivial
  | compare column operator v =>
    unfold reply at he
    exact Edit.formed_compare column operator v e he
  | group body =>
    unfold reply at he
    exact Edit.formed_group (formed_replies hg Conditions.formed_empty body) e he
  | groupOf slot =>
    unfold reply at he
    split at he
    · next g hslot => exact Edit.formed_group (hg slot g hslot) e he
    · cases he
  | matching pairs =>
    unfold reply at he
    exact Edit.formed_matching pairs e he
  | matchingColumns columns values =>
    unfold reply at he
    exact Edit.formed_matching _ e he
  | filter f =>
    unfold reply at he
    exact Filter.formed_editsOf (Filter.formed_normalize f.entries) e he
  | filterDocument d =>
    unfold reply at he
    cases hd : Filter.ofDocument d with
    | ok f =>
      rw [hd] at he
      exact Filter.formed_editsOf (Filter.formed_normalize f.entries) e he
    | error fault =>
      rw [hd] at he
      cases he
  | dropped => unfold reply at he; cases he
  | hasConditions => unfold reply at he; cases he
  | view => unfold reply at he; cases he

theorem formed_replies (hg : ∀ name g, groups name = some g → FormedLevel g.items)
    {here : Conditions} (h : FormedLevel here.items) (cs : List TreeCall) :
    FormedLevel (replies groups here cs).2.1.items := by
  cases cs with
  | nil =>
    unfold replies
    exact h
  | cons c cs =>
    have hnext := Conditions.formed_edits h (formed_reply hg here c)
    unfold replies
    exact formed_replies hg hnext cs

end

end TreeCall

theorem Conditions.Built.formed {cs : Conditions} (h : cs.Built) : FormedLevel cs.items := by
  induction h with
  | empty => trivial
  | call groups c hg h ihg ih =>
    exact Conditions.formed_edits ih (TreeCall.formed_reply ihg _ c)

namespace Command

def tree (c : Command) : List Condition := (c.conditions?.map Conditions.items).getD []

theorem conditions?_edits (c : Command) (es : List Edit) :
    (es.foldl (fun c e => c.edit e) c).conditions? = c.conditions?.map fun cs => cs.edits es := by
  induction es generalizing c with
  | nil => exact Option.map_id.symm ▸ rfl
  | cons e es ih =>
    rw [List.foldl_cons, ih]
    cases c <;> rfl

theorem conditions?_change? {c d : Command} {change : Change} (h : c.change? change = some d) :
    d.conditions? = c.conditions? := by
  cases c with
  | select q =>
    obtain ⟨q', hq, rfl⟩ := Option.map_eq_some_iff.mp h
    cases change <;> cases hq <;> rfl
  | insert q =>
    obtain ⟨q', hq, rfl⟩ := Option.map_eq_some_iff.mp h
    rfl
  | update q =>
    obtain ⟨q', hq, rfl⟩ := Option.map_eq_some_iff.mp h
    cases change <;> cases hq <;> rfl
  | delete q =>
    obtain ⟨q', hq, rfl⟩ := Option.map_eq_some_iff.mp h
    cases change <;> cases hq <;> rfl
  | raw q =>
    obtain ⟨q', hq, rfl⟩ := Option.map_eq_some_iff.mp h
    rfl

theorem conditions?_after (groups : String → Option Conditions) (c : Command)
    (call : StatementCall) :
    (c.after groups call).conditions? =
      match call with
      | .tree t => c.conditions?.map fun here => here.edits (t.reply groups here).edits
      | _ => c.conditions? := by
  cases call with
  | change change =>
    unfold after
    dsimp only
    cases hc : c.change? change with
    | none => rfl
    | some d => exact conditions?_change? hc
  | tree t =>
    unfold after
    dsimp only
    cases hc : c.conditions? with
    | none => exact hc
    | some here =>
      dsimp only
      rw [conditions?_edits, hc]
      rfl
  | first => cases c <;> rfl
  | autoMigrate b => cases c <;> rfl
  | _ => rfl

theorem formed_tree_after {groups : String → Option Conditions} {c : Command}
    (hg : ∀ name g, groups name = some g → g.Built) (h : FormedLevel c.tree)
    (call : StatementCall) : FormedLevel (c.after groups call).tree := by
  unfold tree at h ⊢
  rw [conditions?_after]
  cases call with
  | tree t =>
    dsimp only
    cases hc : c.conditions? with
    | none => trivial
    | some here =>
      rw [hc] at h
      have hgroups : ∀ name g, groups name = some g → FormedLevel g.items :=
        fun name g hs => (hg name g hs).formed
      exact Conditions.formed_edits h (TreeCall.formed_reply hgroups here t)
  | _ => exact h

theorem Made.formed_tree {c : Command} (h : c.Made) : FormedLevel c.tree := by
  induction h with
  | select => trivial
  | insert => trivial
  | update => trivial
  | delete => trivial
  | raw => trivial
  | after groups call hg _ ih => exact formed_tree_after hg ih call

end Command

end SqlClient
