import SqlClient.Number.Integer
import SqlClient.Session.TreeCall

/-! # Documents as filters

Which documents are filters, what the filter of such a document is, and which key the error names
for any other object.
-/
namespace SqlClient

def DocumentNumber.integer? : DocumentNumber → Option Int
  | signed i => some i.toInt
  | unsigned u => some u.toNat
  | float _ => none

/-- A number gives a value: a signed integer if it is one in that range, else one without a sign,
and a float only if it is no integer. -/
def DocumentNumber.Gives (n : DocumentNumber) : Value → Prop
  | .int i => n.integer? = some i.toInt
  | .uint u => n.integer? = some (u.toNat : Int) ∧ Int64.maxValue.toInt < u.toNat
  | .float x => n = .float x ∧ n.integer? = none
  | _ => False

theorem DocumentNumber.gives_value (n : DocumentNumber) : n.Gives n.value := by
  cases n with
  | signed i => exact rfl
  | float x => exact ⟨rfl, rfl⟩
  | unsigned u =>
    unfold value
    dsimp only
    cases h : Integer.toInt64? u.toNat with
    | some i => exact congrArg some (Integer.toInt_of_toInt64? h).symm
    | none =>
      have hrange : ¬(Int64.minValue.toInt ≤ u.toNat ∧ (u.toNat : Int) ≤ Int64.maxValue.toInt) := by
        unfold Integer.toInt64? at h
        simpa using h
      have hmin : Int64.minValue.toInt ≤ 0 := by decide
      exact ⟨rfl, by omega⟩

namespace Document

inductive Within : Document → List String → Document → Prop where
  | here (d : Document) : Within d [] d
  | member {members : List (String × Document)} {key : String} {d e : Document}
      {path : List String} (hm : (key, d) ∈ members) (h : Within d path e) :
      Within (object members) (key :: path) e

def Listless (d : Document) : Prop := ∀ path items, ¬ d.Within path (.array items)

/-- In every object that is reached the members are sorted by key, and a key occurs once. -/
def Sorted (d : Document) : Prop :=
  ∀ path members, d.Within path (.object members) → members.Pairwise fun m n => m.1 < n.1

/-- The path leads to a list, and the paths to all others come later. -/
structure FirstList (d : Document) (path : List String) : Prop where
  list : ∃ items, d.Within path (.array items)
  first : ∀ other items, d.Within other (.array items) → other ≠ path → path < other

mutual

/-- A document gives an entry of a filter: a scalar the value that it is, an object a filter with
the same keys in the same order. -/
inductive Gives : Document → Clause → Prop where
  | null : Gives .null (.value .null)
  | bool (b : Bool) : Gives (.bool b) (.value (.bool b))
  | number {n : DocumentNumber} {v : Value} (h : n.Gives v) : Gives (.number n) (.value v)
  | text (s : String) : Gives (.text s) (.value (.text s))
  | object {members : List (String × Document)} {entries : List (String × Clause)}
      (h : GiveAll members entries) : Gives (.object members) (.nested entries)

inductive GiveAll : List (String × Document) → List (String × Clause) → Prop where
  | nil : GiveAll [] []
  | cons {d : Document} {c : Clause} {members : List (String × Document)}
      {entries : List (String × Clause)} (key : String) (h : d.Gives c)
      (hs : GiveAll members entries) : GiveAll ((key, d) :: members) ((key, c) :: entries)

end

theorem Sorted.of_not_object {d : Document} (h : ∀ members, d ≠ object members) : d.Sorted := by
  intro path members hi
  cases hi with
  | here => exact absurd rfl (h members)
  | member hm hi => exact absurd rfl (h _)

theorem Sorted.of_members {members : List (String × Document)}
    (hk : members.Pairwise fun m n => m.1 < n.1) (h : ∀ m ∈ members, m.2.Sorted) :
    (object members).Sorted := by
  intro path inner hi
  cases hi with
  | here => exact hk
  | member hm hi => exact h _ hm _ inner hi

theorem Sorted.member {members : List (String × Document)} (h : (object members).Sorted)
    {key : String} {d : Document} (hm : (key, d) ∈ members) : d.Sorted :=
  fun path inner hi => h (key :: path) inner (.member hm hi)

theorem Sorted.tail {m : String × Document} {members : List (String × Document)}
    (h : (object (m :: members)).Sorted) : (object members).Sorted := by
  intro path inner hi
  cases hi with
  | here => exact (List.pairwise_cons.mp (h [] _ (.here _))).2
  | member hm hi => exact h _ inner (.member (List.mem_cons_of_mem m hm) hi)

section Members

variable {key : String} {d : Document} {members : List (String × Document)} {path : List String}

theorem FirstList.of_array (items : List Document) : (array items).FirstList [] := by
  refine ⟨⟨items, .here _⟩, ?_⟩
  intro other inner h hne
  cases h
  exact absurd rfl hne

theorem list_within_cons {items : List Document}
    (h : (object ((key, d) :: members)).Within path (.array items)) :
    (∃ rest, path = key :: rest ∧ d.Within rest (.array items)) ∨
      (object members).Within path (.array items) := by
  cases h with
  | member hm h =>
    rcases List.mem_cons.mp hm with hm | hm
    · cases hm
      exact .inl ⟨_, rfl, h⟩
    · exact .inr (.member hm h)

theorem list_within_of_tail {m : String × Document} {items : List Document}
    (h : (object members).Within path (.array items)) :
    (object (m :: members)).Within path (.array items) := by
  cases h with
  | member hm h => exact .member (List.mem_cons_of_mem m hm) h

theorem Listless.empty : (object []).Listless := by
  intro path items h
  cases h with
  | member hm h => cases hm

theorem Listless.cons (hd : d.Listless) (h : (object members).Listless) :
    (object ((key, d) :: members)).Listless := by
  intro path items hl
  rcases list_within_cons hl with ⟨rest, -, hl⟩ | hl
  · exact hd rest items hl
  · exact h path items hl

theorem FirstList.head (hs : (object ((key, d) :: members)).Sorted) (hf : d.FirstList path) :
    (object ((key, d) :: members)).FirstList (key :: path) := by
  obtain ⟨⟨items, hl⟩, hfirst⟩ := hf
  refine ⟨⟨items, .member List.mem_cons_self hl⟩, ?_⟩
  intro other inner ho hne
  rcases list_within_cons ho with ⟨rest, rfl, hr⟩ | hr
  -- Under the same key the order of the rests decides, and else that of the keys.
  · have hlater : path < rest := hfirst rest inner hr fun h => hne (congrArg (key :: ·) h)
    exact List.cons_lt_cons_iff.mpr (.inr ⟨rfl, hlater⟩)
  · cases hr with
    | member hm _ =>
      have hlater := (List.pairwise_cons.mp (hs [] _ (.here _))).1 _ hm
      exact List.cons_lt_cons_iff.mpr (.inl hlater)

theorem FirstList.tail (hd : d.Listless) (hf : (object members).FirstList path) :
    (object ((key, d) :: members)).FirstList path := by
  obtain ⟨⟨items, hl⟩, hfirst⟩ := hf
  refine ⟨⟨items, list_within_of_tail hl⟩, ?_⟩
  intro other inner ho hne
  rcases list_within_cons ho with ⟨rest, -, ho⟩ | ho
  · exact absurd ho (hd rest inner)
  · exact hfirst other inner ho hne

end Members

end Document

namespace Filter

open Document (Gives GiveAll)

mutual

/-- An entry is read, or a list is met in it and the last key on the way there is named. -/
theorem clauseOf_cases (key : String) {d : Document} (hd : d.Sorted) :
    (∃ c, clauseOf key d = .ok c ∧ d.Gives c ∧ d.Listless) ∨
      ∃ path front last, d.FirstList path ∧ key :: path = front ++ [last] ∧
        clauseOf key d = .error (.unsupported last) := by
  match d with
  | .null => exact .inl ⟨_, by rw [clauseOf], .null, fun path items h => nomatch h⟩
  | .bool b => exact .inl ⟨_, by rw [clauseOf], .bool b, fun path items h => nomatch h⟩
  | .number n =>
    exact .inl ⟨_, by rw [clauseOf], .number n.gives_value, fun path items h => nomatch h⟩
  | .text s => exact .inl ⟨_, by rw [clauseOf], .text s, fun path items h => nomatch h⟩
  | .array items => exact .inr ⟨[], [], key, .of_array items, rfl, by rw [clauseOf]⟩
  | .object members =>
    rw [clauseOf]
    rcases entriesOf_cases hd with ⟨entries, hok, hgive, hless⟩ | ⟨front, last, hfirst, herror⟩
    · rw [hok]
      exact .inl ⟨_, rfl, .object hgive, hless⟩
    · rw [herror]
      exact .inr ⟨_, key :: front, last, hfirst, rfl, rfl⟩

theorem entriesOf_cases {members : List (String × Document)}
    (hd : (Document.object members).Sorted) :
    (∃ entries, entriesOf members = .ok entries ∧ GiveAll members entries ∧
      (Document.object members).Listless) ∨
      ∃ front last, (Document.object members).FirstList (front ++ [last]) ∧
        entriesOf members = .error (.unsupported last) := by
  match members with
  | [] => exact .inl ⟨[], by rw [entriesOf], .nil, .empty⟩
  | (key, d) :: rest =>
    rw [entriesOf]
    rcases clauseOf_cases key (hd.member List.mem_cons_self) with
      ⟨c, hok, hgive, hless⟩ | ⟨path, front, last, hfirst, hpath, herror⟩
    · rw [hok]
      rcases entriesOf_cases hd.tail with
        ⟨entries, hrest, hgiveAll, hlessAll⟩ | ⟨front, last, hfirst, herror⟩
      · rw [hrest]
        exact .inl ⟨_, rfl, .cons key hgive hgiveAll, hless.cons hlessAll⟩
      · rw [herror]
        exact .inr ⟨front, last, .tail hless hfirst, rfl⟩
    · rw [herror]
      refine .inr ⟨front, last, ?_, rfl⟩
      rw [← hpath]
      exact hfirst.head hd

end

theorem ofDocument_cases {d : Document} (hd : d.Sorted) :
    (∃ members f, d = .object members ∧ ofDocument d = .ok f ∧ GiveAll members f.entries ∧
        d.Listless) ∨
      (∃ members front last, d = .object members ∧ ofDocument d = .error (.unsupported last) ∧
        d.FirstList (front ++ [last])) ∨
      (∀ members, d ≠ .object members) ∧ ofDocument d = .error .notObject := by
  cases d with
  | object members =>
    rw [ofDocument]
    rcases entriesOf_cases hd with ⟨entries, hok, hgive, hless⟩ | ⟨front, last, hfirst, herror⟩
    · rw [hok]
      exact .inl ⟨members, ⟨entries⟩, rfl, rfl, hgive, hless⟩
    · rw [herror]
      exact .inr (.inl ⟨members, front, last, rfl, rfl, hfirst⟩)
  | _ => exact .inr (.inr ⟨nofun, rfl⟩)

/-- A document is a filter exactly if it is an object from which no list is reached, and the filter
then has its keys and its scalars. Any other object is refused for the key of the first list on the
way through its members, in the order of their keys. -/
theorem ofDocument_reads_objects_without_lists {d : Document} (hd : d.Sorted) :
    ((∃ f, ofDocument d = .ok f) ↔ (∃ members, d = .object members) ∧ d.Listless) ∧
    (∀ f, ofDocument d = .ok f → d.Gives (.nested f.entries)) ∧
    ∀ fault, ofDocument d = .error fault →
      (∀ groups here, (TreeCall.filterDocument d).reply groups here =
        { answer := .failed (.filter fault) }) ∧
      ((∀ members, d ≠ .object members) ∧ fault = .notObject ∧
          (QueryError.filter fault).message = "Filter error: a filter must be a JSON object" ∨
        ∃ members front last, d = .object members ∧ d.FirstList (front ++ [last]) ∧
          fault = .unsupported last ∧ (QueryError.filter fault).message =
            "Filter error: unsupported value for filter key `" ++ last ++ "`") := by
  have hreply : ∀ fault, ofDocument d = .error fault → ∀ groups here,
      (TreeCall.filterDocument d).reply groups here = { answer := .failed (.filter fault) } := by
    intro fault h groups here
    rw [TreeCall.reply, h]
    rfl
  rcases ofDocument_cases hd with ⟨members, f, rfl, hok, hgive, hless⟩ |
    ⟨members, front, last, rfl, herror, hfirst⟩ | ⟨hobject, herror⟩
  · refine ⟨⟨fun _ => ⟨⟨members, rfl⟩, hless⟩, fun _ => ⟨f, hok⟩⟩, ?_, ?_⟩
    · intro g hg
      cases hok.symm.trans hg
      exact .object hgive
    · intro fault hf
      cases hok.symm.trans hf
  · obtain ⟨items, hlist⟩ := hfirst.list
    have hfails : ∀ f, ofDocument (.object members) ≠ .ok f :=
      fun f hf => nomatch herror.symm.trans hf
    refine ⟨⟨fun ⟨f, hf⟩ => absurd hf (hfails f), fun h => absurd hlist (h.2 _ items)⟩,
      fun f hf => absurd hf (hfails f), fun fault hf => ?_⟩
    cases herror.symm.trans hf
    exact ⟨hreply _ herror, .inr ⟨members, front, last, rfl, hfirst, rfl, rfl⟩⟩
  · have hfails : ∀ f, ofDocument d ≠ .ok f := fun f hf => nomatch herror.symm.trans hf
    refine ⟨⟨fun ⟨f, hf⟩ => absurd hf (hfails f), fun ⟨⟨ms, h⟩, _⟩ => absurd h (hobject ms)⟩,
      fun f hf => absurd hf (hfails f), fun fault hf => ?_⟩
    cases herror.symm.trans hf
    exact ⟨hreply _ herror, .inl ⟨hobject, rfl, rfl⟩⟩

/-- Of two lists the one that is nested is met first. -/
theorem nested_list_named :
    let inner : List (String × Document) := [("c", .number (.unsigned 1)), ("d", .array [.null])]
    let d : Document := .object [("b", .object inner), ("e", .array [])]
    d.Sorted ∧ ofDocument d = .error (.unsupported "d") ∧ ¬ d.Listless ∧
      ∀ groups here, (TreeCall.filterDocument d).reply groups here =
        { answer := .failed (.filter (.unsupported "d")) } := by
  intro inner d
  have hinner : (Document.object inner).Sorted :=
    .of_members (by decide) (by simp [inner, Document.Sorted.of_not_object])
  have hd : d.Sorted := .of_members (by decide) (by simp [hinner, Document.Sorted.of_not_object])
  have hfault : ofDocument d = .error (.unsupported "d") := rfl
  obtain ⟨haccepted, -, hrefused⟩ := ofDocument_reads_objects_without_lists hd
  refine ⟨hd, hfault, fun hless => ?_, (hrefused _ hfault).1⟩
  obtain ⟨f, hf⟩ := haccepted.mpr ⟨⟨_, rfl⟩, hless⟩
  cases hfault.symm.trans hf

end Filter

end SqlClient
