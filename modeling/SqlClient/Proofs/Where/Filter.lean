import SqlClient.Proofs.Where.Calls

/-! # Filters as calls

What a filter appends, read off its entries alone: an element for every entry with a value in it,
joined by what its key starts with. The same elements come of comparisons and groups that are asked
for one by one.
-/
namespace SqlClient

namespace Filter

/-- What joins the element of a key to the one before it. -/
def joint (key : String) : Connective :=
  if key.toList.head? = some '|' then .or else .and

/-- The column of a key, which begins behind one sign. -/
def column (key : String) : Ident :=
  match key.toList with
  | [] => ⟨key⟩
  | c :: cs => if c = '|' ∨ c = '&' then ⟨String.ofList cs⟩ else ⟨key⟩

theorem splitKey_eq (key : String) : splitKey key = (joint key, column key) := by
  unfold splitKey joint column
  split
  next cs h => simp [h]
  next cs h => simp [h]
  next hor hand =>
    cases h : key.toList with
    | nil => rfl
    | cons c cs =>
      have hc : c ≠ '|' := fun hc => hor cs (by rw [h, hc])
      have hc' : c ≠ '&' := fun hc => hand cs (by rw [h, hc])
      simp [hc, hc']

end Filter

namespace Clause

mutual

/-- The element of an entry: an equality, or a group of the elements of the filter in it. -/
def term (column : Ident) : Clause → Term
  | value v => .comparison ⟨column, .equal, v⟩
  | nested entries => .group (placed true entries)

/-- The elements of the entries with a value in them, the first of which may be the first of its
level. -/
def placed (first : Bool) : List (String × Clause) → List Condition
  | [] => []
  | (key, c) :: rest =>
    if c.hasValue then
      (c.term (Filter.column key)).joinedBy
        (if first then .none else (Filter.joint key).separator) :: placed false rest
    else placed first rest

end

mutual

def call (column : Ident) : Clause → TreeCall
  | value v => .compare column .equal v
  | nested entries => .group (calls entries)

def calls : List (String × Clause) → List TreeCall
  | [] => []
  | (key, c) :: rest =>
    if c.hasValue then .join (Filter.joint key) :: c.call (Filter.column key) :: calls rest
    else calls rest

end

theorem isEmpty_placed (first : Bool) (entries : List (String × Clause)) :
    Conditions.isEmpty ⟨placed first entries, none⟩ = !anyValue entries := by
  induction entries generalizing first with
  | nil => rw [placed, anyValue]; rfl
  | cons e entries ih =>
    obtain ⟨key, c⟩ := e
    rw [placed, anyValue]
    cases hc : c.hasValue with
    | true => rfl
    | false => exact ih first

theorem placed_alone (entries : List (String × Clause)) :
    (⟨[] ++ placed true entries, if anyValue entries then none else none⟩ : Conditions) =
      ⟨placed true entries, none⟩ := by
  rw [ite_self]
  rfl

theorem isEmpty_snoc (items : List Condition) (c : Condition) (next : Option Connective) :
    Conditions.isEmpty ⟨items ++ [c], next⟩ = false := by
  cases items <;> rfl

theorem edits_editsOf_cons (here : Conditions) (c : Connective) (t : Term)
    (terms : List (Connective × Term)) :
    here.edits (Filter.editsOf ((c, t) :: terms)) =
      Conditions.edits
        ⟨here.items ++ [t.joinedBy (if here.isEmpty then .none else c.separator)], none⟩
        (Filter.editsOf terms) := rfl

mutual

theorem termOf?_eq (column : Ident) (c : Clause) :
    Filter.termOf? column c = if c.hasValue then some (c.term column) else none := by
  cases c with
  | value v => rw [Filter.termOf?, hasValue, term]; rfl
  | nested entries =>
    have hinner := (edits_normalize entries {}).trans (placed_alone entries)
    rw [Filter.termOf?, hasValue, term, hinner]
    dsimp only
    rw [isEmpty_placed]
    cases anyValue entries <;> rfl

/-- The edits of a filter place the elements of its entries behind those of the level. -/
theorem edits_normalize (entries : List (String × Clause)) (here : Conditions) :
    here.edits (Filter.editsOf (Filter.normalize entries)) =
      ⟨here.items ++ placed here.isEmpty entries,
        if anyValue entries then none else here.next⟩ := by
  match entries with
  | [] =>
    rw [Filter.normalize, placed, anyValue, List.append_nil]
    rfl
  | (key, c) :: rest =>
    rw [Filter.normalize, placed, anyValue, Filter.splitKey_eq]
    dsimp only
    rw [termOf?_eq (Filter.column key) c]
    cases hc : c.hasValue with
    | false => exact edits_normalize rest here
    | true =>
      -- Behind this element the level is not empty, and nothing is asked for on it.
      refine (edits_editsOf_cons here _ (c.term (Filter.column key)) _).trans ?_
      rw [edits_normalize rest, isEmpty_snoc, List.append_assoc]
      cases anyValue rest <;> rfl

end

section Calls

variable {groups : String → Option Conditions}

mutual

theorem reply_call {c : Clause} (h : c.hasValue = true) (column : Ident) :
    ((c.call column).reply groups {}).edits = [.append (c.term column)] ∧
      ((c.call column).reply groups {}).events = [] := by
  match c with
  | value v => exact ⟨rfl, rfl⟩
  | nested entries =>
    obtain ⟨hedits, hsilent⟩ := editsOf_calls entries
    have hany : anyValue entries = true := h
    have hinner := (edits_normalize entries {}).trans (placed_alone entries)
    rw [call, hsilent.reply_group.1, hedits, hinner, term]
    refine ⟨if_neg ?_, hsilent.reply_group.2⟩
    rw [isEmpty_placed, hany]
    exact Bool.false_ne_true

theorem editsOf_calls (entries : List (String × Clause)) :
    TreeCall.editsOf groups (calls entries) = Filter.editsOf (Filter.normalize entries) ∧
      TreeCall.Silent groups (calls entries) := by
  match entries with
  | [] =>
    rw [calls, Filter.normalize]
    exact ⟨rfl, fun c hc => absurd hc List.not_mem_nil⟩
  | (key, c) :: rest =>
    obtain ⟨hedits, hsilent⟩ := editsOf_calls rest
    rw [calls, Filter.normalize, Filter.splitKey_eq]
    dsimp only
    rw [termOf?_eq (Filter.column key) c]
    cases hc : c.hasValue with
    | false => exact ⟨hedits, hsilent⟩
    | true =>
      obtain ⟨hcall, hquiet⟩ := reply_call hc (Filter.column key)
      rw [if_pos rfl, if_pos rfl]
      constructor
      · rw [TreeCall.editsOf_cons, TreeCall.editsOf_cons, hcall, hedits]
        rfl
      · exact List.forall_mem_cons.mpr ⟨rfl, List.forall_mem_cons.mpr ⟨hquiet, hsilent⟩⟩

end

end Calls

/-- A filter stands for the calls that ask for its entries. -/
theorem filter_standsFor (groups : String → Option Conditions) (f : Filter) :
    (TreeCall.filter f).StandsFor groups (calls f.entries) := by
  obtain ⟨hedits, hsilent⟩ := editsOf_calls f.entries
  exact ⟨hedits.symm, List.forall_mem_cons.mpr ⟨rfl, hsilent⟩⟩

end Clause

open TreeCall (replies)

/-- A filter appends an element for every entry with a value in it, in their order. The connective
that has been asked for before joins none of them, and is forgotten if there is one. The calls that
ask for the entries one by one leave the same in a slot and in the world. -/
theorem filter_is_calls_for_entries (groups : String → Option Conditions) (f : Filter) :
    (∀ here, (replies groups here [.filter f]).2 =
      (replies groups here (Clause.calls f.entries)).2) ∧
    ∀ {σ : Type} [Connection σ] (slot : Slot) (here : Conditions) (w : World σ),
      slot.conditions? = some here →
        ∃ after v, slot.trees? groups [.filter f] w = some (after, v) ∧
          slot.trees? groups (Clause.calls f.entries) w = some (after, v) ∧
          after.conditions? = some ⟨here.items ++ Clause.placed here.isEmpty f.entries,
            if Clause.anyValue f.entries then none else here.next⟩ := by
  have hstands := Clause.filter_standsFor groups f
  refine ⟨hstands.replies, fun slot here w h => ?_⟩
  obtain ⟨after, v, hone, hmany, htree⟩ := Slot.trees?_of_standsFor h hstands w
  have hplaced := Clause.edits_normalize f.entries here
  exact ⟨after, v, hone, hmany, htree.trans (congrArg some hplaced)⟩

/-- An entry without a value in it does not matter, and only the first sign of a key does. -/
theorem second_sign_belongs_to_column :
    let here : Conditions := ⟨[.comparison .none ⟨⟨"a"⟩, .equal, .int 1⟩], some .and⟩
    let f : Filter := ⟨[("&b", .nested [("c", .nested [])]),
      ("|d", .nested [("|e", .value (.int 2)), ("||e", .value (.int 3))]), ("f", .value (.int 4))]⟩
    let w : World Scripted := { driver := {} }
    (Slot.group here).conditions? = some here ∧
      ∃ after v, (Slot.group here).trees? (fun _ => none) [.filter f] w = some (after, v) ∧
        (Slot.group here).trees? (fun _ => none) [.join .or,
          .group [.join .or, .compare ⟨"e"⟩ .equal (.int 2), .join .or,
            .compare ⟨"|e"⟩ .equal (.int 3)],
          .join .and, .compare ⟨"f"⟩ .equal (.int 4)] w = some (after, v) ∧
        after.conditions? = some ⟨[.comparison .none ⟨⟨"a"⟩, .equal, .int 1⟩,
          .group .or [.comparison .none ⟨⟨"e"⟩, .equal, .int 2⟩,
            .comparison .or ⟨⟨"|e"⟩, .equal, .int 3⟩],
          .comparison .and ⟨⟨"f"⟩, .equal, .int 4⟩], none⟩ := by
  intro here f w
  have hhere : (Slot.group here).conditions? = some here := rfl
  exact ⟨hhere, (filter_is_calls_for_entries (fun _ => none) f).2 (.group here) here w hhere⟩

end SqlClient
