import SqlClient.Where.Edit

/-! # Elements of a level

What a call puts on a level of a tree: terms, each with the way in which it is to be joined, if the
call decides that. Elements are placed one behind the other.
-/
namespace SqlClient

/-- What a call appends: a term, and how it is to be joined if the call decides that itself. -/
structure Element where
  joint : Option Connective
  term : Term

namespace Element

def group (joint : Option Connective) (g : Conditions) : List Element :=
  if g.isEmpty then [] else [⟨joint, .group g.items⟩]

/-- The element behind `n` others, when `w` is what has been asked for. -/
def place (w : Connective) (n : Nat) (e : Element) : Condition :=
  e.term.joinedBy (if n = 0 then .none else (e.joint.getD w).separator)

def edits (e : Element) : List Edit :=
  match e.joint with
  | some c => [.join c, .append e.term]
  | none => [.append e.term]

/-- No element but the first leaves open how it is joined. -/
def Settled (es : List Element) : Prop := ∀ e ∈ es.tail, e.joint.isSome

theorem group_eq_nil_iff {joint : Option Connective} {g : Conditions} :
    group joint g = [] ↔ g.items = [] := by
  unfold group Conditions.isEmpty
  by_cases h : g.items = [] <;> simp [h]

theorem settled_of_length_le {es : List Element} (h : es.length ≤ 1) : Settled es := by
  have hnil : es.tail = [] := List.eq_nil_of_length_eq_zero (by rw [List.length_tail]; omega)
  unfold Settled
  simp [hnil]

theorem settled_group (joint : Option Connective) (g : Conditions) : Settled (group joint g) := by
  apply settled_of_length_le
  unfold group
  split <;> simp

theorem joint_of_mem_group {c : Connective} {g : Conditions} {e : Element}
    (he : e ∈ group (some c) g) : e.joint.isSome := by
  unfold group at he
  split at he
  · cases he
  · cases List.mem_singleton.mp he
    rfl

theorem settled_of_forall {es : List Element} (h : ∀ e ∈ es, e.joint.isSome) : Settled es :=
  fun e he => h e (List.mem_of_mem_tail he)

theorem edits_group (joint : Option Connective) (g : Conditions) :
    (group joint g).flatMap edits =
      if g.isEmpty then [] else (joint.map Edit.join).toList ++ Edit.group g := by
  unfold group Edit.group
  split
  · rfl
  · cases joint <;> rfl

theorem place_of_joint {e : Element} (h : e.joint.isSome) (w v : Connective) (n : Nat) :
    e.place w n = e.place v n := by
  obtain ⟨c, hc⟩ := Option.isSome_iff_exists.mp h
  unfold place
  rw [hc]
  rfl

end Element

namespace Conditions

/-- What has been asked for to join the next element, which is AND if nothing has been. -/
def wish (cs : Conditions) : Connective := cs.next.getD .and

theorem edits_append (cs : Conditions) (es fs : List Edit) :
    cs.edits (es ++ fs) = (cs.edits es).edits fs :=
  List.foldl_append

theorem edits_element (cs : Conditions) (e : Element) :
    cs.edits e.edits = ⟨cs.items ++ [e.place cs.wish cs.items.length], none⟩ := by
  have hfirst : cs.items.isEmpty = decide (cs.items.length = 0) := by
    cases cs.items <;> simp
  unfold Element.edits Element.place
  cases hj : e.joint <;> simp [edits, edit, join, append, wish, hfirst]

theorem edits_ne_nil {cs : Conditions} (h : cs.items ≠ []) (es : List Edit) :
    (cs.edits es).items ≠ [] := by
  induction es generalizing cs with
  | nil => exact h
  | cons e es ih =>
    apply ih
    cases e with
    | join c => exact h
    | append t => exact List.append_ne_nil_of_right_ne_nil _ (List.cons_ne_nil _ _)

/-- Elements are placed one behind the other; afterwards nothing is asked for. -/
theorem edits_elements {es : List Element} (hs : Element.Settled es) (cs : Conditions) :
    (cs.edits (es.flatMap Element.edits)).items =
        cs.items ++ es.mapIdx (fun i e => e.place cs.wish (cs.items.length + i)) ∧
      (cs.edits (es.flatMap Element.edits)).next = if es = [] then cs.next else none := by
  induction es generalizing cs with
  | nil => exact ⟨(List.append_nil _).symm, rfl⟩
  | cons e es ih =>
    have htail : Element.Settled es := Element.settled_of_forall hs
    obtain ⟨hi, hn⟩ := ih htail (cs.edits e.edits)
    rw [List.flatMap_cons, edits_append, edits_element] at *
    constructor
    · rw [hi, List.append_assoc, List.mapIdx_cons, List.singleton_append]
      congr 2
      apply List.mapIdx_eq_mapIdx_iff.mpr
      intro i hlt
      rw [List.length_append, List.length_singleton, Nat.add_assoc, Nat.add_comm 1 i]
      exact Element.place_of_joint (hs _ (List.getElem_mem hlt)) _ _ _
    · rw [hn]
      split <;> rfl

end Conditions

end SqlClient
