import SqlClient.Proofs.Freshness
import SqlClient.Proofs.Placeholder.Gathering

/-! # Placeholders and values

A reader of a rendering goes over its text from left to right and passes by what stands between
backticks. What it then finds are the placeholders of the values, each right behind the text that
was written for it, whatever the names contain.
-/
namespace SqlClient

namespace Placeholder

/-- The question marks outside quoted text, and whether the text ends inside it. A doubled mark in
quoted text does not end it. -/
def scan : Bool → List Char → Nat × Bool
  | quoted, [] => (0, quoted)
  | false, c :: cs =>
    if c = Ident.mark then scan true cs
    else if c = '?' then ((scan false cs).1 + 1, (scan false cs).2)
    else scan false cs
  | true, [c] => (0, decide (c ≠ Ident.mark))
  | true, c :: d :: cs =>
    if c ≠ Ident.mark then scan true (d :: cs)
    else if d = Ident.mark then scan true cs
    else scan false (d :: cs)

def step (s : Nat × Bool) (c : Char) : Nat × Bool :=
  if c = Ident.mark then (s.1, !s.2)
  else if c = '?' ∧ s.2 = false then (s.1 + 1, s.2)
  else s

theorem step_mark (n : Nat) (q : Bool) : step (n, q) Ident.mark = (n, !q) := by
  simp [step]

theorem step_plain {c : Char} (hm : c ≠ Ident.mark) (hp : c ≠ '?') (s : Nat × Bool) :
    step s c = s := by
  simp [step, hm, hp]

theorem step_quoted {c : Char} (hm : c ≠ Ident.mark) (n : Nat) : step (n, true) c = (n, true) := by
  simp [step, hm]

theorem foldl_step (n : Nat) (q : Bool) (cs : List Char) :
    cs.foldl step (n, q) = (n + (scan q cs).1, (scan q cs).2) := by
  induction q, cs using scan.induct generalizing n with
  | case1 q => simp [scan]
  | case2 cs ih => rw [List.foldl_cons, step_mark, scan, if_pos rfl]; exact ih n
  | case3 cs hm ih =>
    have hs : step (n, false) '?' = (n + 1, false) := by simp [step, hm]
    rw [List.foldl_cons, hs, ih (n + 1), scan, if_neg hm, if_pos rfl]
    ext
    · simp only
      omega
    · rfl
  | case4 c cs hm hp ih =>
    rw [List.foldl_cons, step_plain hm hp, scan, if_neg hm, if_neg hp]
    exact ih n
  | case5 c =>
    by_cases hm : c = Ident.mark
    · simp [scan, hm, step_mark]
    · simp [scan, hm, step_quoted hm]
  | case6 c d cs hm ih =>
    rw [List.foldl_cons, step_quoted hm, scan, if_pos hm]
    exact ih n
  | case7 c cs hm ih =>
    -- A doubled mark read as an end and a new start leaves the same state.
    rw [Decidable.not_not.mp hm, List.foldl_cons, List.foldl_cons, step_mark, step_mark, scan,
      if_neg (by simp), if_pos rfl]
    exact ih n
  | case8 c d cs hm hd ih =>
    rw [Decidable.not_not.mp hm, List.foldl_cons, step_mark, scan, if_neg (by simp), if_neg hd]
    exact ih n

/-- Text that is passed by: the scan ends outside and has found this many placeholders. -/
def Holds (t : String) (n : Nat) : Prop := scan false t.toList = (n, false)

instance (t : String) (n : Nat) : Decidable (Holds t n) := inferInstanceAs (Decidable (_ = _))

theorem holds_iff {t : String} {n : Nat} :
    Holds t n ↔ ∀ m, t.toList.foldl step (m, false) = (m + n, false) := by
  constructor
  · intro h m
    rw [foldl_step, h]
  · intro h
    have h0 := h 0
    rw [foldl_step, Nat.zero_add, Nat.zero_add] at h0
    exact h0

theorem Holds.append {t u : String} {n m : Nat} (ht : Holds t n) (hu : Holds u m) :
    Holds (t ++ u) (n + m) := by
  rw [holds_iff] at *
  intro k
  rw [String.toList_append, List.foldl_append, ht k, hu (k + n), Nat.add_assoc]

theorem foldl_step_plain {cs : List Char} (h : ∀ c ∈ cs, c ≠ Ident.mark ∧ c ≠ '?')
    (s : Nat × Bool) : cs.foldl step s = s := by
  induction cs generalizing s with
  | nil => rfl
  | cons c cs ih =>
    have hc := h c List.mem_cons_self
    rw [List.foldl_cons, step_plain hc.1 hc.2]
    exact ih (fun d hd => h d (List.mem_cons_of_mem c hd)) s

theorem holds_plain {t : String} (h : Plain t) : Holds t 0 :=
  holds_iff.mpr fun _ => foldl_step_plain h.ne _

theorem foldl_step_doubleMarks (n : Nat) (cs : List Char) :
    (Ident.doubleMarks cs).foldl step (n, true) = (n, true) := by
  induction cs with
  | nil => rfl
  | cons c cs ih =>
    rw [Ident.doubleMarks, List.flatMap_cons, List.foldl_append]
    by_cases hm : c = Ident.mark
    · rw [if_pos hm, List.foldl_cons, List.foldl_cons, List.foldl_nil, step_mark, step_mark]
      exact ih
    · rw [if_neg hm, List.foldl_cons, List.foldl_nil, step_quoted hm]
      exact ih

theorem foldl_step_quotePart (n : Nat) (part : List Char) :
    (Ident.quotePart part).foldl step (n, false) = (n, false) := by
  unfold Ident.quotePart
  split
  · rename_i hp
    subst hp
    exact foldl_step_plain (by simp [Ident.mark]) _
  · rw [List.cons_append, List.foldl_cons, step_mark, List.foldl_append, Bool.not_false,
      foldl_step_doubleMarks, List.foldl_cons, List.foldl_nil, step_mark, Bool.not_true]

theorem foldl_step_dotted (n : Nat) (parts : List (List Char)) :
    (List.intercalate ['.'] (parts.map Ident.quotePart)).foldl step (n, false) = (n, false) := by
  induction parts with
  | nil => rfl
  | cons p ps ih =>
    cases ps with
    | nil => simpa [List.intercalate] using foldl_step_quotePart n p
    | cons p' ps =>
      have hdot : step (n, false) '.' = (n, false) := step_plain (by decide) (by decide) _
      rw [List.map_cons, List.map_cons, List.intercalate_cons_cons, List.foldl_append,
        List.foldl_append, foldl_step_quotePart, List.foldl_cons, List.foldl_nil, hdot]
      exact ih

/-- No name can look like a placeholder or leave its quotes. -/
theorem holds_quoted (i : Ident) : Holds i.quoted 0 := by
  rw [holds_iff]
  intro m
  rw [Ident.quoted, String.toList_ofList]
  exact foldl_step_dotted m _

/-- A place of a command where a value is written, with the text right before it. -/
structure Site where
  lead : String
  value : Value

namespace Site

def slot (s : Site) : String := if s.value.isNull then "null" else "?"

def bind? (s : Site) : Option Value := if s.value.isNull then none else some s.value

def binds (sites : List Site) : List Value := sites.filterMap bind?

@[simp] theorem binds_append (a b : List Site) : binds (a ++ b) = binds a ++ binds b :=
  List.filterMap_append

end Site

/-- The text and the values of a rendering are in step with the places of a command: in order, each
with what is written for it right behind its text and as many placeholders before it as there are
values to bind. -/
structure Aligned (r : Rendered) (sites : List Site) : Prop where
  holds : Holds r.sql r.binds.length
  binds : r.binds = Site.binds sites
  placed : ∀ before s after, sites = before ++ s :: after →
    ∃ t u, r.sql = t ++ s.lead ++ s.slot ++ u ∧ Holds (t ++ s.lead) (Site.binds before).length

theorem sql_value (lead : String) (v : Value) : (Rendered.value v).sql = Site.slot ⟨lead, v⟩ := by
  unfold Rendered.value Site.slot
  split <;> rfl

theorem binds_value {lead : String} (v : Value) :
    (Rendered.value v).binds = Site.binds [⟨lead, v⟩] := by
  unfold Rendered.value
  cases hv : v.isNull <;> simp [Site.binds, Site.bind?, hv, Rendered.text]

theorem holds_value (v : Value) :
    Holds (Rendered.value v).sql (Rendered.value v).binds.length := by
  unfold Rendered.value
  split
  · exact (by decide : Holds "null" 0)
  · exact (by decide : Holds "?" 1)

namespace Aligned

variable {a b : Rendered} {as bs : List Site}

theorem split_append {as bs before after : List Site} {s : Site}
    (h : as ++ bs = before ++ s :: after) :
    (∃ mid, before = as ++ mid ∧ bs = mid ++ s :: after) ∨
      ∃ mid, as = before ++ s :: mid ∧ after = mid ++ bs := by
  rcases List.append_eq_append_iff.mp h with h | ⟨mid, has, hmid⟩
  · exact .inl h
  · cases mid with
    | nil => exact .inl ⟨[], by simp_all, by simpa using hmid.symm⟩
    | cons s' mid =>
      obtain ⟨rfl, rfl⟩ := List.cons.inj hmid
      exact .inr ⟨mid, has, rfl⟩

theorem text (t : String) (h : Holds t 0) : Aligned (.text t) [] where
  holds := h
  binds := rfl
  placed := fun before s after hs => by simp at hs

theorem empty : Aligned .empty [] := text "" rfl

theorem append (ha : Aligned a as) (hb : Aligned b bs) : Aligned (a ++ b) (as ++ bs) where
  holds := by
    rw [Rendered.sql_append, Rendered.binds_append, List.length_append]
    exact ha.holds.append hb.holds
  binds := by rw [Rendered.binds_append, Site.binds_append, ha.binds, hb.binds]
  placed := by
    intro before s after hs
    rcases split_append hs with ⟨mid, rfl, hmid⟩ | ⟨mid, hmid, -⟩
    · obtain ⟨t, u, hsql, ht⟩ := hb.placed mid s after hmid
      refine ⟨a.sql ++ t, u, ?_, ?_⟩
      · simp only [Rendered.sql_append, hsql, String.append_assoc]
      · rw [Site.binds_append, List.length_append, ← ha.binds, String.append_assoc]
        exact ha.holds.append ht
    · obtain ⟨t, u, hsql, ht⟩ := ha.placed before s mid hmid
      refine ⟨t, u ++ b.sql, ?_, ht⟩
      simp only [Rendered.sql_append, hsql, String.append_assoc]

theorem ident (i : Ident) : Aligned (.ident i) [] := text _ (holds_quoted i)

/-- A value right behind a rendering, whose last part is the text that leads to it. -/
theorem snoc (ha : Aligned a as) {t lead : String} (ht : a.sql = t ++ lead) (v : Value) :
    Aligned (a ++ .value v) (as ++ [⟨lead, v⟩]) where
  holds := by
    rw [Rendered.sql_append, Rendered.binds_append, List.length_append]
    exact ha.holds.append (holds_value v)
  binds := by rw [Rendered.binds_append, Site.binds_append, ha.binds, binds_value v]
  placed := by
    intro before s after hs
    rcases split_append hs with ⟨mid, rfl, hmid⟩ | ⟨mid, hmid, -⟩
    · obtain ⟨rfl, rfl, rfl⟩ : mid = [] ∧ s = ⟨lead, v⟩ ∧ after = [] := by
        cases mid <;> simp_all
      refine ⟨t, "", ?_, ?_⟩
      · rw [Rendered.sql_append, sql_value lead, ht, String.append_empty]
      · rw [← ht, List.append_nil, ← ha.binds]
        exact ha.holds
    · obtain ⟨u, w, hsql, hu⟩ := ha.placed before s mid hmid
      refine ⟨u, w ++ (Rendered.value v).sql, ?_, hu⟩
      simp only [Rendered.sql_append, hsql, String.append_assoc]

end Aligned

def comparisonSite (c : Comparison) : Site :=
  ⟨c.column.quoted ++ " " ++ c.operator.sql ++ " ", c.value⟩

def assignmentSite (e : Ident × Value) : Site := ⟨e.1.quoted ++ " = ", e.2⟩

/-- The values of a list in parentheses: before each stands the list up to it. -/
def listSites (lead : String) : List Value → List Site
  | [] => []
  | v :: vs => ⟨lead, v⟩ :: listSites (lead ++ (Rendered.value v).sql ++ ", ") vs

mutual

/-- The comparisons of a tree, depth first and from left to right. -/
def treeSites : Condition → List Site
  | .comparison _ c => [comparisonSite c]
  | .group _ items => levelSites items

def levelSites : List Condition → List Site
  | [] => []
  | c :: cs => treeSites c ++ levelSites cs

end

/-- The places of a command that is not written by hand: the values of an INSERT or the new values
of an UPDATE in the order of their map, then those of the conditions. -/
def sites? : Command → Option (List Site)
  | .select q => some (levelSites q.conditions.items)
  | .insert q => some (listSites ") VALUES (" q.values.values)
  | .update q =>
    some (q.values.entries.map assignmentSite ++ levelSites q.conditions.items)
  | .delete q => some (levelSites q.conditions.items)
  | .raw _ => none

namespace Aligned

theorem comparison (c : Comparison) : Aligned c.render [comparisonSite c] := by
  have hoperator : Holds c.operator.sql 0 := by
    cases c.operator <;> decide
  have hlead := (((ident c.column).append (text " " (by decide))).append
    (text _ hoperator)).append (text " " (by decide))
  exact hlead.snoc (t := "") (by simp [Rendered.ident, Rendered.text]) c.value

theorem assignment (e : Ident × Value) : Aligned (Update.assignment e) [assignmentSite e] := by
  have hlead := (ident e.1).append (text " = " (by decide))
  exact hlead.snoc (t := "") (by simp [Rendered.ident, Rendered.text]) e.2

theorem listed {r : Rendered} {ss : List Site} (hr : Aligned r ss) {t lead : String}
    (ht : r.sql = t ++ lead) (vs : List Value) :
    Aligned (r ++ .list (vs.map .value)) (ss ++ listSites lead vs) := by
  -- The rendering grows with the list, so that each value is led to by all before it.
  induction vs generalizing r ss lead with
  | nil => exact hr.append empty
  | cons v vs ih =>
    have hv := hr.snoc ht v
    cases vs with
    | nil => exact hv
    | cons v' vs =>
      have hsql : (r ++ .value v ++ .text ", ").sql =
          t ++ (lead ++ (Rendered.value v).sql ++ ", ") := by
        simp [ht, Rendered.text, String.append_assoc]
      have hnext := ih (hv.append (text ", " (by decide))) hsql
      simpa [listSites, Rendered.list, Rendered.append_assoc] using hnext

/-- What is aligned is gathered part by part. Names have no place for a value. -/
def gathering : Gathering Site where
  Gathers := Aligned
  name _ := []
  comparison c := [comparisonSite c]
  assignment e := [assignmentSite e]
  tree := treeSites
  level := levelSites
  gathers_append := append
  text t h := text t (holds_plain h)
  gathers_name := ident
  gathers_comparison := comparison
  gathers_assignment := assignment
  tree_comparison _ _ := by rw [treeSites]
  tree_group _ _ := by rw [treeSites]
  level_nil := by rw [levelSites]
  level_cons _ _ := by rw [levelSites]

theorem gathering_names (columns : List Ident) : columns.flatMap gathering.name = [] :=
  List.flatMap_eq_nil_iff.mpr fun _ _ => rfl

theorem select (q : Select) : Aligned q.render (levelSites q.conditions.items) := by
  have h := gathering.select q
  simp only [gathering_names, List.nil_append, List.append_nil] at h
  exact h

theorem insert (q : Insert) : Aligned q.render (listSites ") VALUES (" q.values.values) := by
  have hcolumns := gathering.columns q
  rw [gathering_names] at hcolumns
  have hall := (listed hcolumns rfl q.values.values).append (text ")" (by decide))
  rw [List.append_nil] at hall
  exact hall

theorem update (q : Update) : Aligned q.render
    (q.values.entries.map assignmentSite ++ levelSites q.conditions.items) := by
  have h := gathering.update q
  rw [List.map_eq_flatMap]
  exact h

theorem delete (q : Delete) : Aligned q.render (levelSites q.conditions.items) :=
  gathering.delete q

end Aligned

theorem aligned_render {c : Command} {ss : List Site} (h : sites? c = some ss) :
    Aligned c.render ss := by
  cases c with
  | select q => cases h; exact .select q
  | insert q => cases h; exact .insert q
  | update q => cases h; exact .update q
  | delete q => cases h; exact .delete q
  | raw q => cases h

/-- Placeholders and values are in step in every command, and so in what is run for a statement
that has been made by calls. -/
theorem placeholders_aligned {c : Command} {ss : List Site} (h : sites? c = some ss) :
    Aligned c.render ss ∧
      ∀ {calls : List StatementCall} {s : Statement}, Statement.Reached calls s → s.command = c →
        Aligned s.rendered ss := by
  have hc := aligned_render h
  refine ⟨hc, ?_⟩
  intro calls s hs hcommand
  rw [(Statement.reached_current hs).rendered, hcommand]
  exact hc

/-- Names with marks and question marks in them, and a null between two values. -/
theorem marked_names_aligned :
    let c := Command.update
      { target := ⟨⟨"a\x60?"⟩, {}⟩
        values := ⟨[(⟨"?.\x60\x60"⟩, .bool true), (⟨"b"⟩, .null)]⟩
        conditions := ⟨[.group .none [.comparison .none ⟨⟨"\x60 = ?"⟩, .equal, .uint 1⟩]], none⟩ }
    let ss := [⟨"\x60?\x60.\x60\x60\x60\x60\x60\x60 = ", .bool true⟩, ⟨"\x60b\x60 = ", .null⟩,
      ⟨"\x60\x60\x60 = ?\x60 = ", .uint 1⟩]
    sites? c = some ss ∧ Aligned c.render ss := by
  intro c ss
  have hs : sites? c = some ss := by rfl
  exact ⟨hs, (placeholders_aligned hs).1⟩

end Placeholder

end SqlClient
