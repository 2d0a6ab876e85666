import SqlClient.Proofs.Formed
import SqlClient.Proofs.Parallel.Debug
import SqlClient.Proofs.Separator.Level
import SqlClient.Scripted

/-! # Calls that stand for others

Calls on the tree of a group or a statement, made one after the other. A call stands for others when
its edits are theirs: it then leaves the same tree, and a statement that executes automatically runs
just as often. Pairs of columns and values stand for a group of equalities joined by OR.
-/
namespace SqlClient

def Slot.conditions? : Slot → Option Conditions
  | statement s => s.command.conditions?
  | group g => some g
  | _ => none

/-- Makes calls on the tree in a slot, one after the other. -/
def Slot.trees? {σ : Type} [Connection σ] (groups : String → Option Conditions) :
    List TreeCall → Slot → World σ → Option (Slot × World σ)
  | [], slot, w => some (slot, w)
  | c :: cs, slot, w =>
    (slot.call? groups w (.tree c)).bind fun a => trees? groups cs a.next a.world

namespace TreeCall

variable {groups : String → Option Conditions} {c : TreeCall} {cs : List TreeCall}

/-- What calls edit when they are made one after the other. It does not depend on the tree. -/
def editsOf (groups : String → Option Conditions) (cs : List TreeCall) : List Edit :=
  cs.flatMap fun c => (c.reply groups {}).edits

def Silent (groups : String → Option Conditions) (cs : List TreeCall) : Prop :=
  ∀ c ∈ cs, (c.reply groups {}).events = []

/-- A call that edits what others edit. -/
structure StandsFor (groups : String → Option Conditions) (c : TreeCall) (cs : List TreeCall) :
    Prop where
  edits : (c.reply groups {}).edits = editsOf groups cs
  silent : Silent groups (c :: cs)

theorem reply_events_level (c : TreeCall) (here there : Conditions) :
    (c.reply groups here).events = (c.reply groups there).events := by
  cases c <;> rfl

theorem editsOf_cons : editsOf groups (c :: cs) = (c.reply groups {}).edits ++ editsOf groups cs :=
  List.flatMap_cons

theorem Silent.head (h : Silent groups (c :: cs)) (here : Conditions) :
    (c.reply groups here).events = [] :=
  (c.reply_events_level here {}).trans (h c List.mem_cons_self)

theorem Silent.tail (h : Silent groups (c :: cs)) : Silent groups cs :=
  (List.forall_mem_cons.mp h).2

theorem Silent.replies (h : Silent groups cs) (here : Conditions) :
    (TreeCall.replies groups here cs).2 = (here.edits (editsOf groups cs), []) := by
  induction cs generalizing here with
  | nil =>
    rw [TreeCall.replies]
    rfl
  | cons c cs ih =>
    have hrest := ih h.tail (here.edits (c.reply groups here).edits)
    rw [TreeCall.replies, editsOf_cons, Conditions.edits_append]
    dsimp only
    generalize TreeCall.replies groups (here.edits (c.reply groups here).edits) cs = r at hrest ⊢
    obtain ⟨answers, g, events⟩ := r
    cases hrest
    rw [h.head, LevelCall.reply_edits_level c here {}]
    rfl

theorem Silent.reply_group (h : Silent groups cs) :
    ((TreeCall.group cs).reply groups {}).edits =
        Edit.group (Conditions.edits {} (editsOf groups cs)) ∧
      ((TreeCall.group cs).reply groups {}).events = [] := by
  obtain ⟨htree, hevents⟩ := Prod.ext_iff.mp (h.replies {})
  rw [reply]
  exact ⟨congrArg Edit.group htree, hevents⟩

namespace StandsFor

variable (h : c.StandsFor groups cs)
include h

theorem silent_one : Silent groups [c] := by
  intro d hd
  cases List.mem_singleton.mp hd
  exact h.silent.head {}

theorem editsOf_one : editsOf groups [c] = editsOf groups cs :=
  (List.flatMap_singleton _ _).trans h.edits

theorem replies (here : Conditions) :
    (TreeCall.replies groups here [c]).2 = (TreeCall.replies groups here cs).2 := by
  rw [h.silent_one.replies, h.silent.tail.replies, h.editsOf_one]

end StandsFor

end TreeCall

namespace Slot

open TreeCall (editsOf Silent StandsFor)

variable {σ : Type} [Connection σ] {groups : String → Option Conditions} {c : TreeCall}
  {cs : List TreeCall} {slot : Slot} {here : Conditions} {es : List Edit}

/-- Edits of the tree in a slot. Only a statement says something to the driver because of them. -/
def edits (es : List Edit) (w : World σ) : Slot → Slot × World σ
  | statement s => (statement (s.edits es w).1, (s.edits es w).2)
  | group g => (group (g.edits es), w)
  | slot => (slot, w)

theorem edits_append (es fs : List Edit) (w : World σ) (slot : Slot) :
    slot.edits (es ++ fs) w = (slot.edits es w).1.edits fs (slot.edits es w).2 := by
  cases slot with
  | statement s =>
    have happend : s.edits (es ++ fs) w = (s.edits es w).1.edits fs (s.edits es w).2 :=
      List.foldl_append
    dsimp only [edits]
    rw [happend]
  | group g => exact congrArg (fun g => (Slot.group g, w)) (g.edits_append es fs)
  | table t => rfl
  | columns c => rfl

theorem conditions?_edits (es : List Edit) (w : World σ) (slot : Slot) :
    (slot.edits es w).1.conditions? = slot.conditions?.map fun here => here.edits es := by
  cases slot with
  | statement s =>
    dsimp only [edits, conditions?]
    rw [Statement.edits_command, Command.conditions?_edits]
  | _ => rfl

theorem call?_tree (h : slot.conditions? = some here) (w : World σ) :
    slot.call? groups w (.tree c) =
      let after := slot.edits (c.reply groups {}).edits
        ((c.reply groups here).events.foldl World.note w)
      some ⟨(c.reply groups here).answer, after.1, after.2⟩ := by
  rw [← LevelCall.reply_edits_level c here {}]
  cases slot with
  | statement s =>
    have hs : s.command.conditions? = some here := h
    unfold call? Statement.call? Statement.tree?
    dsimp only
    rw [hs]
    rfl
  | group g =>
    cases h
    rfl
  | table t => cases h
  | columns c => cases h

theorem trees?_one (h : slot.conditions? = some here) (w : World σ) :
    slot.trees? groups [c] w = some (slot.edits (c.reply groups {}).edits
      ((c.reply groups here).events.foldl World.note w)) := by
  rw [trees?, call?_tree h]
  rfl

theorem trees?_of_silent (h : slot.conditions? = some here) (hs : Silent groups cs) (w : World σ) :
    slot.trees? groups cs w = some (slot.edits (editsOf groups cs) w) := by
  induction cs generalizing slot here w with
  | nil => cases slot <;> rfl
  | cons c cs ih =>
    have hnext : (slot.edits (c.reply groups {}).edits w).1.conditions? =
        some (here.edits (c.reply groups {}).edits) := by
      rw [conditions?_edits, h]
      rfl
    rw [TreeCall.editsOf_cons, edits_append, trees?, call?_tree h, hs.head here]
    -- The later calls meet another tree, but their edits do not depend on it.
    exact ih hnext hs.tail _

/-- A call that stands for others leaves what they leave, in the slot and in the world. -/
theorem trees?_of_standsFor (h : slot.conditions? = some here) (hc : c.StandsFor groups cs)
    (w : World σ) :
    ∃ after v, slot.trees? groups [c] w = some (after, v) ∧
      slot.trees? groups cs w = some (after, v) ∧
      after.conditions? = some (here.edits (c.reply groups {}).edits) := by
  have hone := trees?_of_silent h hc.silent_one w
  have hmany := trees?_of_silent h hc.silent.tail w
  have hafter := conditions?_edits (editsOf groups cs) w slot
  rw [hc.editsOf_one] at hone
  rw [h, ← hc.edits] at hafter
  rw [← hc.edits] at hone hmany
  exact ⟨_, _, hone, hmany, hafter⟩

end Slot

/-! ## What is logged -/

def World.unlogged {σ : Type} (w : World σ) : World σ := { w with log := [] }

theorem World.unlogged_notes {σ : Type} (es : List Event) (w : World σ) :
    (es.foldl World.note w).unlogged = w.unlogged := by
  induction es generalizing w with
  | nil => rfl
  | cons e es ih => exact ih (w.note e)

theorem World.eq_withLog {σ : Type} {w v : World σ} (h : w.unlogged = v.unlogged) :
    w = { v with log := w.log } := by
  cases w
  cases h
  rfl

theorem likeness_unlogged {σ : Type} [Connection σ] :
    Likeness Eq (fun w v : World σ => w.unlogged = v.unlogged) where
  text hk := by rw [hk]
  note_left h _ := h
  note_right h _ := h
  prepare {w v} h sql := by
    rw [World.eq_withLog h]
    refine ⟨?_, rfl⟩
    have hsame : ∀ r : Except DriverError Handle, Matches Eq r r := by
      intro r
      cases r with
      | error e => exact .error e
      | ok k => exact .ok rfl
    exact hsame _
  bind h _ _ hk _ _ := by
    rw [World.eq_withLog h, hk]
    exact ⟨rfl, rfl⟩
  execute h _ _ hk := by
    rw [World.eq_withLog h, hk]
    exact ⟨rfl, rfl⟩
  close h _ _ hk := by
    rw [World.eq_withLog h, hk]
    rfl
  isAlive h := by
    rw [World.eq_withLog h]
    rfl
  reconnect h := by
    rw [World.eq_withLog h]
    exact ⟨rfl, rfl⟩
  listTables h := by
    rw [World.eq_withLog h]
    exact ⟨rfl, rfl⟩
  describeColumns h _ := by
    rw [World.eq_withLog h]
    exact ⟨rfl, rfl⟩

theorem Execution.alike_id_iff {x y : Execution} : x.Alike id Eq y ↔ y = x := by
  constructor
  · intro h
    cases h with
    | recast hk =>
      rw [← rel_eq_iff.mp hk]
      rfl
  · rintro rfl
    exact .recast (rel_eq_iff.mpr rfl)

theorem Statement.alike_id_iff {s t : Statement} : s.Alike id Eq t ↔ t = s := by
  have hcommand : s.command.mapDebug id = s.command := by
    cases s.command <;> rfl
  constructor
  · intro h
    cases h with
    | recast hx =>
      rw [Execution.alike_id_iff.mp hx, hcommand]
  · rintro rfl
    have hs := Statement.Alike.recast (g := id) (K := Eq) (s := t)
      (Execution.alike_id_iff.mpr rfl)
    rwa [hcommand] at hs

namespace Slot

theorem edits_unlogged {σ : Type} [Connection σ] {w v : World σ} (h : w.unlogged = v.unlogged)
    (es : List Edit) (slot : Slot) :
    (slot.edits es w).1 = (slot.edits es v).1 ∧
      (slot.edits es w).2.unlogged = (slot.edits es v).2.unlogged := by
  cases slot with
  | statement s =>
    have hs : s.Alike id Eq s := Statement.alike_id_iff.mpr rfl
    have he := Statement.edits_alike likeness_unlogged h hs es
    exact ⟨congrArg Slot.statement (Statement.alike_id_iff.mp he.answer).symm, he.world⟩
  | _ => exact ⟨rfl, h⟩

end Slot

/-! ## Pairs of columns and values -/

namespace Edit

theorem equalities_eq (pairs : List (Ident × Value)) :
    equalities pairs =
      ⟨pairs.mapIdx fun i p => .comparison (if i = 0 then .none else .and) ⟨p.1, .equal, p.2⟩,
        none⟩ := by
  induction pairs using List.reverseRecOn with
  | nil => rfl
  | append_singleton pairs p ih =>
    have hsnoc : equalities (pairs ++ [p]) =
        (equalities pairs).append (.comparison ⟨p.1, .equal, p.2⟩) := by
      simp [equalities, compare, Conditions.edits, Conditions.edit]
    rw [hsnoc, ih, List.mapIdx_concat]
    cases pairs <;> simp [Conditions.append, Term.joinedBy, Connective.separator]

end Edit

namespace TreeCall

variable {groups : String → Option Conditions}

def orEqualities (pairs : List (Ident × Value)) : List TreeCall :=
  [.join .or, .group (pairs.map fun p => .compare p.1 .equal p.2)]

theorem silent_equalities (pairs : List (Ident × Value)) :
    Silent groups (pairs.map fun p => .compare p.1 .equal p.2) := by
  intro c hc
  obtain ⟨p, -, rfl⟩ := List.mem_map.mp hc
  rfl

theorem editsOf_equalities (pairs : List (Ident × Value)) :
    Conditions.edits {} (editsOf groups (pairs.map fun p => .compare p.1 .equal p.2)) =
      Edit.equalities pairs := by
  rw [editsOf, List.flatMap_map]
  rfl

theorem matching_standsFor {pairs : List (Ident × Value)} (hp : pairs ≠ []) :
    (TreeCall.matching pairs).StandsFor groups (orEqualities pairs) := by
  have hsilent : Silent groups (pairs.map fun p => .compare p.1 .equal p.2) :=
    silent_equalities pairs
  constructor
  · have hpairs : pairs.isEmpty = false := by simpa using hp
    rw [orEqualities, editsOf_cons, editsOf_cons, hsilent.reply_group.1, editsOf_equalities]
    unfold reply Edit.matching
    rw [hpairs]
    simp [editsOf]
  · intro c hc
    simp only [orEqualities, List.mem_cons, List.not_mem_nil, or_false] at hc
    rcases hc with rfl | rfl | rfl
    · rfl
    · rfl
    · exact hsilent.reply_group.2

theorem matching_nil_standsFor : (TreeCall.matching []).StandsFor groups [] := by
  constructor
  · rfl
  · intro c hc
    cases List.mem_singleton.mp hc
    rfl

end TreeCall

theorem Conditions.edits_matching (here : Conditions) {pairs : List (Ident × Value)}
    (hp : pairs ≠ []) :
    here.edits (Edit.matching pairs) =
      ⟨here.items ++
        [.group (if here.items = [] then .none else .or)
          (pairs.mapIdx fun i p =>
            .comparison (if i = 0 then .none else .and) ⟨p.1, .equal, p.2⟩)], none⟩ := by
  have hpairs : pairs.isEmpty = false := by simpa using hp
  unfold Edit.matching Edit.group
  rw [hpairs, Edit.equalities_eq]
  cases hi : here.items <;>
    simp [edits, edit, join, append, isEmpty, hp, hi, Term.joinedBy, Connective.separator]

/-- Two lists are matched as their pairs are. That they differ in length is only logged. -/
theorem Slot.trees?_matchingColumns {σ : Type} [Connection σ]
    {groups : String → Option Conditions} {slot : Slot} {here : Conditions}
    (h : slot.conditions? = some here) (columns : List Ident) (values : List Value) (w : World σ) :
    ∃ after v u, slot.trees? groups [.matchingColumns columns values] w = some (after, v) ∧
      slot.trees? groups [.matching (columns.zip values)] w = some (after, u) ∧
      v.unlogged = u.unlogged := by
  have hlog := World.unlogged_notes
    ((TreeCall.matchingColumns columns values).reply groups here).events w
  have hsame := slot.edits_unlogged hlog (Edit.matching (columns.zip values))
  refine ⟨_, _, _, trees?_one h w, (trees?_one h w).trans ?_, hsame.2⟩
  exact congrArg some (Prod.ext hsame.1.symm rfl)

open TreeCall (orEqualities replies)

/-- Pairs that are matched leave the tree, the pending connective, the rendering and everything else
in a slot and in the world as a group of equalities joined by OR does, in the order of the pairs.
Without a pair nothing changes. Two lists are matched as their pairs, the longer one cut. -/
theorem matching_is_group_of_equalities (groups : String → Option Conditions)
    (pairs : List (Ident × Value)) :
    (pairs ≠ [] →
      (∀ here, (replies groups here [.matching pairs]).2 =
        (replies groups here (orEqualities pairs)).2) ∧
      ∀ {σ : Type} [Connection σ] (slot : Slot) (here : Conditions) (w : World σ),
        slot.conditions? = some here →
          ∃ after v, slot.trees? groups [.matching pairs] w = some (after, v) ∧
            slot.trees? groups (orEqualities pairs) w = some (after, v) ∧
            after.conditions? = some ⟨here.items ++
              [.group (if here.items = [] then .none else .or)
                (pairs.mapIdx fun i p =>
                  .comparison (if i = 0 then .none else .and) ⟨p.1, .equal, p.2⟩)], none⟩) ∧
    (pairs = [] →
      (∀ here, replies groups here [.matching pairs] = ([.done], here, [])) ∧
      ∀ {σ : Type} [Connection σ] (slot : Slot) (here : Conditions) (w : World σ),
        slot.conditions? = some here →
          slot.trees? groups [.matching pairs] w = some (slot, w)) ∧
    ∀ columns values,
      (∀ here, (replies groups here [.matchingColumns columns values]).2.1 =
        (replies groups here [.matching (columns.zip values)]).2.1) ∧
      ∀ {σ : Type} [Connection σ] (slot : Slot) (here : Conditions) (w : World σ),
        slot.conditions? = some here →
          ∃ after v u, slot.trees? groups [.matchingColumns columns values] w = some (after, v) ∧
            slot.trees? groups [.matching (columns.zip values)] w = some (after, u) ∧
            v.unlogged = u.unlogged := by
  refine ⟨fun hp => ⟨?_, ?_⟩, ?_, ?_⟩
  · exact (TreeCall.matching_standsFor hp).replies
  · intro σ _ slot here w h
    obtain ⟨after, v, hone, hmany, htree⟩ :=
      Slot.trees?_of_standsFor h (TreeCall.matching_standsFor hp) w
    exact ⟨after, v, hone, hmany, htree.trans (congrArg some (here.edits_matching hp))⟩
  · rintro rfl
    refine ⟨fun here => rfl, fun slot here w h => ?_⟩
    have hnil : (TreeCall.matching []).StandsFor groups [] := TreeCall.matching_nil_standsFor
    obtain ⟨after, v, hone, hnone, -⟩ := Slot.trees?_of_standsFor h hnil w
    cases hnone
    exact hone
  · intro columns values
    exact ⟨fun here => rfl, fun slot here w h => Slot.trees?_matchingColumns h columns values w⟩

/-- A column is given twice to a delete that is to join its next element by AND, and that runs after
every change. -/
theorem repeated_column_matched :
    let w : World Scripted := { driver := {} }
    let here : Conditions := ⟨[.comparison .none ⟨⟨"a"⟩, .equal, .int 1⟩], some .and⟩
    let x : Execution := { settings := { autoExecute := true } }
    let s : Slot := .statement ⟨.delete { table := ⟨"t"⟩, conditions := here }, none, x⟩
    let pairs : List (Ident × Value) := [(⟨"b"⟩, .int 2), (⟨"b"⟩, .int 3)]
    pairs ≠ [] ∧ s.conditions? = some here ∧
      (∃ after v, s.trees? (fun _ => none) [.matching pairs] w = some (after, v) ∧
        s.trees? (fun _ => none) (orEqualities pairs) w = some (after, v) ∧
        after.conditions? = some ⟨[.comparison .none ⟨⟨"a"⟩, .equal, .int 1⟩,
          .group .or [.comparison .none ⟨⟨"b"⟩, .equal, .int 2⟩,
            .comparison .and ⟨⟨"b"⟩, .equal, .int 3⟩]], none⟩) ∧
      s.trees? (fun _ => none) [.matching []] w = some (s, w) := by
  intro w here x s pairs
  have hp : pairs ≠ [] := List.cons_ne_nil _ _
  have hs : s.conditions? = some here := rfl
  have hmatched := (matching_is_group_of_equalities (fun _ => none) pairs).1 hp
  have hnothing := (matching_is_group_of_equalities (fun _ => none) []).2.1 rfl
  exact ⟨hp, hs, hmatched.2 s here w hs, hnothing.2 s here w hs⟩

end SqlClient
