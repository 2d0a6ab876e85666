import Mathlib.Data.List.Induction
import SqlClient.Proofs.Separator.Element
import SqlClient.Session.TreeCall

/-! # Calls on a level

The elements of every call on a level of a tree, and where they are placed on the level that earlier
calls have made.
-/
namespace SqlClient

/-- A call on a level, with the groups that could be copied when it was made. -/
structure LevelCall where
  groups : String → Option Conditions
  call : TreeCall

/-- The level that calls make of an empty one, the last call first. -/
def Conditions.ofCalls : List LevelCall → Conditions
  | [] => {}
  | p :: earlier => (ofCalls earlier).edits (p.call.reply p.groups (ofCalls earlier)).edits

mutual

def Clause.hasValue : Clause → Bool
  | .value _ => true
  | .nested entries => Clause.anyValue entries

def Clause.anyValue : List (String × Clause) → Bool
  | [] => false
  | (_, c) :: rest => c.hasValue || anyValue rest

end

mutual

/-- Whether a call appends anything: a comparison, a group that is not empty, pairs, or a filter with
a value in it. -/
def TreeCall.appends (groups : String → Option Conditions) : TreeCall → Bool
  | .compare .. => true
  | .group body => anyAppends groups body
  | .groupOf slot => (groups slot).any fun g => !g.isEmpty
  | .matching pairs => !pairs.isEmpty
  | .matchingColumns columns values => !columns.isEmpty && !values.isEmpty
  | .filter f => Clause.anyValue f.entries
  | .filterDocument d =>
    match Filter.ofDocument d with
    | .ok f => Clause.anyValue f.entries
    | .error _ => false
  | .join _ => false
  | .dropped => false
  | .hasConditions => false
  | .view => false

def TreeCall.anyAppends (groups : String → Option Conditions) : List TreeCall → Bool
  | [] => false
  | c :: cs => c.appends groups || anyAppends groups cs

end

namespace LevelCall

open Conditions (ofCalls)

def appends (p : LevelCall) : Bool := p.call.appends p.groups

/-- What the last connective on the level has asked for since an element was appended, and AND if
there was none. -/
def asked : List LevelCall → Connective
  | [] => .and
  | p :: earlier =>
    match p.call with
    | .join c => c
    | _ => if p.appends then .and else asked earlier

def inside (groups : String → Option Conditions) (body : List TreeCall) : Conditions :=
  ofCalls (body.map (LevelCall.mk groups)).reverse

def matched (groups : String → Option Conditions) (pairs : List (Ident × Value)) : List Element :=
  Element.group (some .or) (inside groups (pairs.map fun p => .compare p.1 .equal p.2))

/-- An entry of a filter, joined as its key says. A filter in it is a group of its own. -/
def entry (groups : String → Option Conditions) : String × Clause → List Element
  | (key, .value v) =>
    [⟨some (Filter.splitKey key).1, .comparison ⟨(Filter.splitKey key).2, .equal, v⟩⟩]
  | (key, .nested entries) =>
    Element.group (some (Filter.splitKey key).1) (inside groups [.filter ⟨entries⟩])

/-- What a call appends. Comparisons and groups are joined as has been asked for; equalities by OR,
and the entries of a filter by their keys. -/
def elements (p : LevelCall) : List Element :=
  match p.call with
  | .compare column operator v => [⟨none, .comparison ⟨column, operator, v⟩⟩]
  | .group body => Element.group none (inside p.groups body)
  | .groupOf slot => ((p.groups slot).map (Element.group none)).getD []
  | .matching pairs => matched p.groups pairs
  | .matchingColumns columns values => matched p.groups (columns.zip values)
  | .filter f => f.entries.flatMap (entry p.groups)
  | .filterDocument d =>
    match Filter.ofDocument d with
    | .ok f => f.entries.flatMap (entry p.groups)
    | .error _ => []
  | .join _ => []
  | .dropped => []
  | .hasConditions => []
  | .view => []

variable {groups : String → Option Conditions}

/-! ## The edits of a call -/

theorem ofCalls_replies (h : List LevelCall) (cs : List TreeCall) :
    (TreeCall.replies groups (ofCalls h) cs).2.1 =
      ofCalls ((cs.map (LevelCall.mk groups)).reverse ++ h) := by
  induction cs generalizing h with
  | nil =>
    unfold TreeCall.replies
    rfl
  | cons c cs ih =>
    unfold TreeCall.replies
    rw [List.map_cons, List.reverse_cons, List.append_assoc, List.singleton_append]
    exact ih (⟨groups, c⟩ :: h)

theorem replies_inside (body : List TreeCall) :
    (TreeCall.replies groups {} body).2.1 = inside groups body := by
  rw [inside, ← List.append_nil (body.map (LevelCall.mk groups)).reverse]
  exact ofCalls_replies [] body

theorem reply_edits_level (c : TreeCall) (here there : Conditions) :
    (c.reply groups here).edits = (c.reply groups there).edits := by
  cases c <;> rfl

theorem inside_edits (body : List TreeCall) :
    inside groups body = Conditions.edits {} (body.flatMap fun c => (c.reply groups {}).edits) := by
  induction body using List.reverseRecOn with
  | nil => rfl
  | append_singleton body c ih =>
    have hsnoc : inside groups (body ++ [c]) =
        (inside groups body).edits (c.reply groups (inside groups body)).edits := by
      simp [inside, ofCalls]
    rw [hsnoc, reply_edits_level c _ {}, ih, List.flatMap_append, Conditions.edits_append]
    simp

theorem inside_equalities (pairs : List (Ident × Value)) :
    inside groups (pairs.map fun p => .compare p.1 .equal p.2) = Edit.equalities pairs := by
  rw [inside_edits, List.flatMap_map]
  rfl

theorem inside_filter (entries : List (String × Clause)) :
    inside groups [.filter ⟨entries⟩] =
      Conditions.edits {} (Filter.editsOf (Filter.normalize entries)) := by
  rw [inside_edits, List.flatMap_singleton]
  rfl

theorem isEmpty_compare (column : Ident) (operator : Operator) (v : Value) (es : List Edit) :
    (Conditions.edits {} (Edit.compare column operator v ++ es)).isEmpty = false := by
  have hfirst : (Conditions.edits {} (Edit.compare column operator v)).items ≠ [] :=
    List.cons_ne_nil _ _
  have hne := Conditions.edits_ne_nil hfirst es
  rw [Conditions.edits_append]
  unfold Conditions.isEmpty
  simpa using hne

theorem matched_edits (pairs : List (Ident × Value)) :
    (matched groups pairs).flatMap Element.edits = Edit.matching pairs := by
  unfold matched Edit.matching
  rw [Element.edits_group, inside_equalities]
  cases pairs with
  | nil => rfl
  | cons p pairs =>
    have hne : (Edit.equalities (p :: pairs)).isEmpty = false := isEmpty_compare p.1 .equal p.2 _
    rw [hne]
    rfl

theorem entries_edits (entries : List (String × Clause)) :
    (entries.flatMap (entry groups)).flatMap Element.edits =
      Filter.editsOf (Filter.normalize entries) := by
  induction entries with
  | nil => rw [Filter.normalize]; rfl
  | cons e entries ih =>
    obtain ⟨key, clause⟩ := e
    rw [List.flatMap_cons, List.flatMap_append, ih, Filter.normalize]
    dsimp only
    cases clause with
    | value v =>
      rw [Filter.termOf?]
      rfl
    | nested inner =>
      rw [Filter.termOf?, entry, Element.edits_group, inside_filter]
      unfold Edit.group
      cases (Conditions.edits {} (Filter.editsOf (Filter.normalize inner))).isEmpty <;> rfl

/-- Apart from connectives a call appends its elements and does nothing else. -/
theorem reply_edits (p : LevelCall) (hp : ∀ c, p.call ≠ .join c) (here : Conditions) :
    (p.call.reply p.groups here).edits = p.elements.flatMap Element.edits := by
  obtain ⟨groups, call⟩ := p
  unfold elements
  cases call with
  | join c => exact absurd rfl (hp c)
  | compare column operator v =>
    unfold TreeCall.reply
    rfl
  | group body =>
    unfold TreeCall.reply
    dsimp only
    rw [Element.edits_group, replies_inside]
    unfold Edit.group
    split <;> rfl
  | groupOf slot =>
    unfold TreeCall.reply
    dsimp only
    cases groups slot with
    | none => rfl
    | some g =>
      dsimp only [Option.map_some, Option.getD_some]
      rw [Element.edits_group]
      unfold Edit.group
      split <;> rfl
  | matching pairs =>
    unfold TreeCall.reply
    exact (matched_edits pairs).symm
  | matchingColumns columns values =>
    unfold TreeCall.reply
    exact (matched_edits (columns.zip values)).symm
  | filter f =>
    unfold TreeCall.reply
    exact (entries_edits f.entries).symm
  | filterDocument d =>
    unfold TreeCall.reply
    dsimp only
    cases Filter.ofDocument d with
    | ok f => exact (entries_edits f.entries).symm
    | error e => rfl
  | dropped => unfold TreeCall.reply; rfl
  | hasConditions => unfold TreeCall.reply; rfl
  | view => unfold TreeCall.reply; rfl

/-! ## The level after a call -/

theorem settled_elements (p : LevelCall) : Element.Settled p.elements := by
  have filtered : ∀ entries : List (String × Clause),
      Element.Settled (entries.flatMap (entry p.groups)) := by
    intro entries
    apply Element.settled_of_forall
    intro e he
    obtain ⟨⟨key, clause⟩, -, he⟩ := List.mem_flatMap.mp he
    cases clause with
    | value v =>
      cases List.mem_singleton.mp he
      rfl
    | nested inner => exact Element.joint_of_mem_group he
  unfold elements
  cases p.call with
  | compare column operator v => exact Element.settled_of_length_le (Nat.le_refl 1)
  | group body => exact Element.settled_group _ _
  | groupOf slot =>
    dsimp only
    cases p.groups slot with
    | none => exact Element.settled_of_length_le (Nat.zero_le 1)
    | some g => exact Element.settled_group none g
  | matching pairs => exact Element.settled_group _ _
  | matchingColumns columns values => exact Element.settled_group _ _
  | filter f => exact filtered f.entries
  | filterDocument d =>
    dsimp only
    cases Filter.ofDocument d with
    | ok f => exact filtered f.entries
    | error e => exact Element.settled_of_length_le (Nat.zero_le 1)
  | _ => exact Element.settled_of_length_le (Nat.zero_le 1)

theorem items_ofCalls_cons (p : LevelCall) (h : List LevelCall) :
    (ofCalls (p :: h)).items =
      (ofCalls h).items ++
        p.elements.mapIdx fun i e => e.place (ofCalls h).wish ((ofCalls h).items.length + i) := by
  rw [ofCalls]
  by_cases hp : ∃ c, p.call = .join c
  · obtain ⟨c, hc⟩ := hp
    unfold elements
    rw [hc]
    exact (List.append_nil _).symm
  · rw [reply_edits p (fun c hc => hp ⟨c, hc⟩)]
    exact (Conditions.edits_elements p.settled_elements _).1

theorem next_ofCalls_cons {p : LevelCall} (hp : ∀ c, p.call ≠ .join c) (h : List LevelCall) :
    (ofCalls (p :: h)).next = if p.elements = [] then (ofCalls h).next else none := by
  rw [ofCalls, reply_edits p hp]
  exact (Conditions.edits_elements p.settled_elements _).2

theorem items_ofCalls_eq_nil_iff (h : List LevelCall) :
    (ofCalls h).items = [] ↔ ∀ p ∈ h, p.elements = [] := by
  induction h with
  | nil => simp [ofCalls]
  | cons p h ih =>
    rw [items_ofCalls_cons, List.append_eq_nil_iff, ih, List.mapIdx_eq_nil_iff,
      List.forall_mem_cons]
    exact and_comm

theorem items_inside_eq_nil_iff (body : List TreeCall) :
    (inside groups body).items = [] ↔ ∀ c ∈ body, (LevelCall.mk groups c).elements = [] := by
  unfold inside
  rw [items_ofCalls_eq_nil_iff]
  simp

end LevelCall

end SqlClient
