import Mathlib.Logic.Function.Basic
import SqlClient.Proofs.Execution.Trace
import SqlClient.Proofs.Execution.Work

/-! # Who keeps which handle

Of a history in which every call is known with the execution that made it: a handle belongs to the
execution that prepared it, until it is closed, and of an execution at most one handle is not closed.
What holds between two calls is carried through the calls of an attempt and of a run.
-/
namespace SqlClient

namespace Exchange

/-- The handle that a call makes use of. To prepare a handle is not to use it. -/
def uses? : Exchange → Option Handle
  | bind h _ _ _ => some h
  | execute h _ => some h
  | close h _ => some h
  | _ => none

def broken? : Exchange → Option Handle
  | bind h _ _ (.error _) => some h
  | execute h (.error _) => some h
  | _ => none

variable {c : Exchange} {h : Handle}

theorem handle?_of_uses? (hu : c.uses? = some h) : c.handle? = some h := by
  cases c <;> first | exact hu | cases hu

theorem uses?_of_broken? (hb : c.broken? = some h) : c.uses? = some h := by
  cases c with
  | bind k p v answer =>
    cases answer with
    | ok a => cases hb
    | error e => exact hb
  | execute k answer =>
    cases answer with
    | ok a => cases hb
    | error e => exact hb
  | prepare => cases hb
  | close => cases hb
  | isAlive => cases hb
  | reconnect => cases hb
  | listTables => cases hb
  | describeColumns => cases hb

end Exchange

/-- A call with the execution that made it and what that execution was running. Executions are told
apart by a number; a call about no handle may be made by none of them. -/
structure Deed where
  doer : Option Nat
  run : Option Rendered
  call : Exchange

/-! ## Histories of deeds -/

section History

variable {ds : List Deed} {d : Deed} {h : Handle} {i : Nat}

def Opened (ds : List Deed) (h : Handle) : Prop := ∃ d ∈ ds, d.call = .prepare h (.ok ())

def Closed (ds : List Deed) (h : Handle) : Prop := ∃ d ∈ ds, ∃ answer, d.call = .close h answer

def Broken (ds : List Deed) (h : Handle) : Prop := ∃ d ∈ ds, d.call.broken? = some h

def OnlyBy (i : Nat) (ds : List Deed) (h : Handle) : Prop :=
  ∀ d ∈ ds, d.call.handle? = some h → d.doer = some i

theorem exists_mem_snoc {p : Deed → Prop} : (∃ e ∈ ds ++ [d], p e) ↔ (∃ e ∈ ds, p e) ∨ p d := by
  simp only [List.mem_append, List.mem_singleton, or_and_right, exists_or, exists_eq_left]

theorem opened_snoc : Opened (ds ++ [d]) h ↔ Opened ds h ∨ d.call = .prepare h (.ok ()) :=
  exists_mem_snoc

theorem closed_snoc :
    Closed (ds ++ [d]) h ↔ Closed ds h ∨ ∃ answer, d.call = .close h answer :=
  exists_mem_snoc

theorem broken_snoc : Broken (ds ++ [d]) h ↔ Broken ds h ∨ d.call.broken? = some h :=
  exists_mem_snoc

theorem onlyBy_snoc :
    OnlyBy i (ds ++ [d]) h ↔ OnlyBy i ds h ∧ (d.call.handle? = some h → d.doer = some i) := by
  simp only [OnlyBy, List.forall_mem_append, List.forall_mem_singleton]

theorem OnlyBy.unique {j : Nat} (ho : Opened ds h) (hi : OnlyBy i ds h) (hj : OnlyBy j ds h) :
    i = j := by
  obtain ⟨d, hd, hc⟩ := ho
  have hh : d.call.handle? = some h := by
    rw [hc]
    rfl
  exact Option.some.inj ((hi d hd hh).symm.trans (hj d hd hh))

end History

/-- What a call has to observe, given the calls before it. -/
structure Deed.Proper (before : List Deed) (d : Deed) : Prop where
  owned : ∀ h, d.call.uses? = some h →
    Opened before h ∧ ∃ i, d.doer = some i ∧ OnlyBy i before h
  unclosed : ∀ h, d.call.uses? = some h → ¬ Closed before h
  /-- What has failed can only be closed. -/
  unbroken : ∀ h, d.call.uses? = some h → Broken before h → ∃ answer, d.call = .close h answer
  ready : ∀ h answer, d.call = .execute h answer →
    ∃ r earlier, d.run = some r ∧ h.text = r.sql ∧
      before = earlier ++ (h.bound 1 r.binds).map (Deed.mk d.doer d.run)
  fresh : ∀ h answer, d.call = .prepare h answer → ∀ e ∈ before, e.call.handle? ≠ some h
  /-- A handle is asked for when all earlier ones of the same execution have been closed. -/
  single : ∀ h answer, d.call = .prepare h answer →
    ∃ i, d.doer = some i ∧ ∀ k, Opened before k → OnlyBy i before k → Closed before k

namespace Deed

variable {before : List Deed} {d : Deed} {k : Handle} {i : Nat}

theorem proper_of_outside (hd : d.call.handle? = none) : d.Proper before := by
  have hu : ∀ h, d.call.uses? ≠ some h := by
    intro h hh
    rw [Exchange.handle?_of_uses? hh] at hd
    cases hd
  have hc : ∀ c : Exchange, c.handle? ≠ none → d.call ≠ c := by
    intro c hc hh
    rw [hh] at hd
    exact hc hd
  constructor
  · intro h hh
    exact absurd hh (hu h)
  · intro h hh
    exact absurd hh (hu h)
  · intro h hh
    exact absurd hh (hu h)
  · intro h answer hh
    exact absurd hh (hc _ (by simp [Exchange.handle?]))
  · intro h answer hh
    exact absurd hh (hc _ (by simp [Exchange.handle?]))
  · intro h answer hh
    exact absurd hh (hc _ (by simp [Exchange.handle?]))

theorem proper_of_uses (hu : d.call.uses? = some k) (hi : d.doer = some i) (ho : Opened before k)
    (honly : OnlyBy i before k) (hn : ¬ Closed before k)
    (hb : Broken before k → ∃ answer, d.call = .close k answer)
    (hr : ∀ h answer, d.call = .execute h answer →
      ∃ r earlier, d.run = some r ∧ h.text = r.sql ∧
        before = earlier ++ (h.bound 1 r.binds).map (Deed.mk d.doer d.run)) :
    d.Proper before := by
  have hprepare : ∀ h answer, d.call ≠ .prepare h answer := by
    intro h answer hh
    rw [hh] at hu
    cases hu
  constructor
  · intro h hh
    cases hu.symm.trans hh
    exact ⟨ho, i, hi, honly⟩
  · intro h hh
    cases hu.symm.trans hh
    exact hn
  · intro h hh
    cases hu.symm.trans hh
    exact hb
  · exact hr
  · intro h answer hh
    exact absurd hh (hprepare h answer)
  · intro h answer hh
    exact absurd hh (hprepare h answer)

theorem proper_of_prepare {answer : Except DriverError Unit} (hc : d.call = .prepare k answer)
    (hi : d.doer = some i) (hfresh : ∀ e ∈ before, e.call.handle? ≠ some k)
    (hclosed : ∀ h, Opened before h → OnlyBy i before h → Closed before h) : d.Proper before := by
  have hu : ∀ h, d.call.uses? ≠ some h := by
    intro h hh
    rw [hc] at hh
    cases hh
  constructor
  · intro h hh
    exact absurd hh (hu h)
  · intro h hh
    exact absurd hh (hu h)
  · intro h hh
    exact absurd hh (hu h)
  · intro h a hh
    cases hc.symm.trans hh
  · intro h a hh
    cases hc.symm.trans hh
    exact hfresh
  · intro h a hh
    exact ⟨i, hi, hclosed⟩

end Deed

/-! ## Between two calls -/

/-- What is known of one handle: it is held by its owner or has been closed, and if it is not
`spoilt`, it has not failed unless it has been closed. -/
structure Kept (held : Nat → Option Handle) (spoilt : Option Handle) (ds : List Deed)
    (h : Handle) : Prop where
  owner : ∀ i, held i = some h → Opened ds h ∧ OnlyBy i ds h ∧ ¬ Closed ds h
  holder : ∀ i, Opened ds h → OnlyBy i ds h → held i = some h ∨ Closed ds h
  sound : Broken ds h → spoilt = some h ∨ Closed ds h

theorem Kept.frame {held held' : Nat → Option Handle} {spoilt spoilt' : Option Handle}
    {ds : List Deed} {h : Handle} (hk : Kept held spoilt ds h) {d : Deed}
    (hd : d.call.handle? ≠ some h) (hheld : ∀ i, held' i = some h ↔ held i = some h)
    (hs : spoilt = some h → spoilt' = some h) : Kept held' spoilt' (ds ++ [d]) h := by
  have hopen : d.call ≠ .prepare h (.ok ()) := by
    intro hh
    exact hd (by rw [hh]; rfl)
  have hclose : ¬ ∃ answer, d.call = .close h answer := by
    rintro ⟨answer, hh⟩
    exact hd (by rw [hh]; rfl)
  have hbreak : d.call.broken? ≠ some h := by
    intro hh
    exact hd (Exchange.handle?_of_uses? (Exchange.uses?_of_broken? hh))
  have hclosed : Closed (ds ++ [d]) h ↔ Closed ds h := by
    rw [closed_snoc, or_iff_left hclose]
  constructor
  · intro i hh
    obtain ⟨ho, hi, hn⟩ := hk.owner i ((hheld i).mp hh)
    rw [hclosed]
    exact ⟨opened_snoc.mpr (Or.inl ho), onlyBy_snoc.mpr ⟨hi, fun hh => absurd hh hd⟩, hn⟩
  · intro i ho hi
    rw [hclosed, hheld]
    exact hk.holder i ((opened_snoc.mp ho).resolve_right hopen) (onlyBy_snoc.mp hi).1
  · intro hb
    rw [hclosed]
    exact (hk.sound ((broken_snoc.mp hb).resolve_right hbreak)).imp_left hs

/-- After `n` handles have been asked for, with every call proper and every handle kept. -/
structure Custody (held : Nat → Option Handle) (n : Nat) (spoilt : Option Handle)
    (ds : List Deed) : Prop where
  proper : Throughout Deed.Proper ds
  numbered : ∀ d ∈ ds, ∀ h, d.call.handle? = some h → h.number ≤ n
  kept : ∀ h, Kept held spoilt ds h

namespace Custody

variable {held : Nat → Option Handle} {n m i : Nat} {spoilt : Option Handle} {ds : List Deed}
  {d : Deed} {k : Handle} {r : Option Rendered}

theorem empty : Custody (fun _ => none) 0 none [] := by
  constructor
  · exact Throughout.nil
  · intro d hd
    cases hd
  · intro h
    constructor
    · intro i hh
      cases hh
    · rintro i ⟨d, hd, -⟩
      cases hd
    · rintro ⟨d, hd, -⟩
      cases hd

theorem number_le (hc : Custody held n spoilt ds) (ho : Opened ds k) : k.number ≤ n := by
  obtain ⟨d, hd, hdc⟩ := ho
  exact hc.numbered d hd k (by rw [hdc]; rfl)

theorem numbered_snoc (hc : Custody held n spoilt ds) (hnm : n ≤ m)
    (hd : ∀ h, d.call.handle? = some h → h.number ≤ m) :
    ∀ e ∈ ds ++ [d], ∀ h, e.call.handle? = some h → h.number ≤ m := by
  intro e he h hh
  rcases List.mem_append.mp he with he | he
  · exact Nat.le_trans (hc.numbered e he h hh) hnm
  · cases List.mem_singleton.mp he
    exact hd h hh

theorem only_holder (hc : Custody held n spoilt ds) (hk : held i = some k) {j : Nat}
    (hj : held j = some k) : j = i := by
  obtain ⟨ho, hi, -⟩ := (hc.kept k).owner i hk
  exact OnlyBy.unique ho ((hc.kept k).owner j hj).2.1 hi

theorem outside (hc : Custody held n spoilt ds) (hd : d.call.handle? = none) :
    Custody held n spoilt (ds ++ [d]) := by
  constructor
  · exact hc.proper.snoc (Deed.proper_of_outside hd)
  · exact hc.numbered_snoc (Nat.le_refl n) (by simp [hd])
  · intro h
    exact (hc.kept h).frame (by simp [hd]) (fun i => Iff.rfl) id

theorem used (hc : Custody held n none ds) (hk : held i = some k) {call : Exchange}
    (hu : call.uses? = some k) (hclose : ∀ h answer, call ≠ .close h answer)
    (hready : ∀ h answer, call = .execute h answer →
      ∃ r' earlier, r = some r' ∧ h.text = r'.sql ∧
        ds = earlier ++ (h.bound 1 r'.binds).map (Deed.mk (some i) r)) :
    Custody held n call.broken? (ds ++ [⟨some i, r, call⟩]) := by
  obtain ⟨hopened, howner, hunclosed⟩ := (hc.kept k).owner i hk
  have hhandle := Exchange.handle?_of_uses? hu
  have hsound : ¬ Broken ds k := by
    intro hb
    rcases (hc.kept k).sound hb with hs | hcl
    · cases hs
    · exact hunclosed hcl
  constructor
  · apply hc.proper.snoc
    exact Deed.proper_of_uses hu rfl hopened howner hunclosed (fun hb => absurd hb hsound) hready
  · refine hc.numbered_snoc (Nat.le_refl n) ?_
    intro h hh
    cases hhandle.symm.trans hh
    exact hc.number_le hopened
  · intro h
    by_cases hkh : h = k
    · subst hkh
      constructor
      · intro j hj
        rw [hc.only_holder hk hj]
        refine ⟨opened_snoc.mpr (Or.inl hopened), onlyBy_snoc.mpr ⟨howner, fun _ => rfl⟩, ?_⟩
        rw [closed_snoc]
        rintro (hcl | ⟨answer, ha⟩)
        · exact hunclosed hcl
        · exact hclose h answer ha
      · intro j _ hj
        rw [OnlyBy.unique hopened (onlyBy_snoc.mp hj).1 howner]
        exact Or.inl hk
      · intro hb
        exact Or.inl ((broken_snoc.mp hb).resolve_left hsound)
    · refine (hc.kept h).frame ?_ (fun j => Iff.rfl) (by simp)
      rw [hhandle]
      exact fun hh => hkh (Option.some.inj hh).symm

theorem close (hc : Custody held n spoilt ds) (hk : held i = some k)
    (hs : spoilt = none ∨ spoilt = some k) (answer : Except DriverError Unit) :
    Custody (Function.update held i none) n none (ds ++ [⟨some i, r, .close k answer⟩]) := by
  obtain ⟨hopened, howner, hunclosed⟩ := (hc.kept k).owner i hk
  constructor
  · apply hc.proper.snoc
    apply Deed.proper_of_uses rfl rfl hopened howner hunclosed
    · intro _
      exact ⟨answer, rfl⟩
    · intro h a hh
      cases hh
  · refine hc.numbered_snoc (Nat.le_refl n) ?_
    rintro h ⟨⟩
    exact hc.number_le hopened
  · intro h
    by_cases hkh : h = k
    · subst hkh
      have hclosed : Closed (ds ++ [⟨some i, r, .close h answer⟩]) h :=
        closed_snoc.mpr (Or.inr ⟨answer, rfl⟩)
      constructor
      · intro j hj
        have hji : j ≠ i := by
          rintro rfl
          rw [Function.update_self] at hj
          cases hj
        rw [Function.update_of_ne hji] at hj
        exact absurd (hc.only_holder hk hj) hji
      · intro j _ _
        exact Or.inr hclosed
      · intro _
        exact Or.inr hclosed
    · refine (hc.kept h).frame ?_ ?_ ?_
      · exact fun hh => hkh (Option.some.inj hh).symm
      · intro j
        by_cases hji : j = i
        · rw [hji, Function.update_self, hk]
          simp [Ne.symm hkh]
        · rw [Function.update_of_ne hji]
      · rintro rfl
        rcases hs with hs | hs
        · cases hs
        · exact absurd (Option.some.inj hs) hkh

theorem prepare (hc : Custody held n none ds) (hk : held i = none) (sql : String)
    (answer : Except DriverError Unit) (kept : Option Handle)
    (hkept : ∀ h, kept = some h ↔ answer = .ok () ∧ h = ⟨n + 1, sql⟩) :
    Custody (Function.update held i kept) (n + 1) none
      (ds ++ [⟨some i, r, .prepare ⟨n + 1, sql⟩ answer⟩]) := by
  have hfresh : ∀ e ∈ ds, e.call.handle? ≠ some ⟨n + 1, sql⟩ := by
    intro e he hh
    have hle : n + 1 ≤ n := hc.numbered e he _ hh
    omega
  constructor
  · apply hc.proper.snoc
    apply Deed.proper_of_prepare rfl rfl hfresh
    intro h ho hi
    rcases (hc.kept h).holder i ho hi with hheld | hcl
    · rw [hk] at hheld
      cases hheld
    · exact hcl
  · refine hc.numbered_snoc (Nat.le_succ n) ?_
    rintro h ⟨⟩
    exact Nat.le_refl (n + 1)
  · intro h
    by_cases hkh : h = ⟨n + 1, sql⟩
    · have hunopened : ¬ Opened ds h := by
        intro ho
        have hle := hc.number_le ho
        rw [hkh] at hle
        exact Nat.not_succ_le_self n hle
      have hunclosed : ¬ Closed ds h := by
        rintro ⟨e, he, a, ha⟩
        rw [hkh] at ha
        exact hfresh e he (by rw [ha]; rfl)
      have hunbroken : ¬ Broken ds h := by
        rintro ⟨e, he, hb⟩
        rw [hkh] at hb
        exact hfresh e he (Exchange.handle?_of_uses? (Exchange.uses?_of_broken? hb))
      constructor
      · intro j hj
        have hji : j = i := by
          by_contra hji
          rw [Function.update_of_ne hji] at hj
          exact hunopened ((hc.kept h).owner j hj).1
        rw [hji, Function.update_self] at hj
        obtain ⟨rfl, -⟩ := (hkept h).mp hj
        rw [opened_snoc, onlyBy_snoc, closed_snoc, hkh, hji]
        refine ⟨Or.inr rfl, ⟨fun e he hhe => absurd hhe (hfresh e he), fun _ => rfl⟩, ?_⟩
        rw [← hkh]
        rintro (hcl | ⟨a, ha⟩)
        · exact hunclosed hcl
        · cases ha
      · intro j ho hj
        have ha := (opened_snoc.mp ho).resolve_left hunopened
        cases ha
        cases (onlyBy_snoc.mp hj).2 rfl
        rw [Function.update_self]
        exact Or.inl ((hkept _).mpr ⟨rfl, rfl⟩)
      · intro hb
        rcases broken_snoc.mp hb with hb | hb
        · exact absurd hb hunbroken
        · cases hb
    · refine (hc.kept h).frame ?_ ?_ (by simp)
      · exact fun hh => hkh (Option.some.inj hh).symm
      · intro j
        by_cases hji : j = i
        · rw [hji, Function.update_self, hk, hkept]
          simp [hkh]
        · rw [Function.update_of_ne hji]

/-! ## Through a run -/

open Execution (Bound Tried Discarded Attempted Ran)

variable {x : Rendered} {calls : List Exchange} {outcome : Except DriverError Outcome}
  {kept : Option Handle}

def spoiltBy {α : Type} (k : Option Handle) : Except DriverError α → Option Handle
  | .ok _ => none
  | .error _ => k

theorem bound_one (hc : Custody held n none ds) (hk : held i = some k) (p : Nat) (v : Value)
    (answer : Except DriverError Unit) :
    Custody held n (spoiltBy (some k) answer) (ds ++ [⟨some i, r, .bind k p v answer⟩]) := by
  have hs : (Exchange.bind k p v answer).broken? = spoiltBy (some k) answer := by
    cases answer <;> rfl
  rw [← hs]
  exact hc.used hk rfl (by simp) (by simp)

theorem bound (hc : Custody held n none ds) (hk : held i = some k) {p : Nat} {vs : List Value}
    {answer : Except DriverError Unit} (hb : Bound k p vs calls answer) :
    Custody held n (spoiltBy (some k) answer) (ds ++ calls.map (Deed.mk (some i) r)) := by
  induction hb generalizing ds with
  | all => rwa [List.map_nil, List.append_nil]
  | refused p v vs e => exact hc.bound_one hk p v (.error e)
  | @next p v vs calls answer _ ih =>
    rw [List.map_cons, List.append_cons]
    exact ih (hc.bound_one hk p v (.ok ()))

theorem tried (hc : Custody held n none ds) (hk : held i = some k) (htext : k.text = x.sql)
    (ht : Tried k x calls outcome) :
    Custody held n (spoiltBy (some k) outcome) (ds ++ calls.map (Deed.mk (some i) (some x))) := by
  cases ht with
  | refused hb => exact hc.bound hk hb
  | executed outcome hb =>
    have hs : (Exchange.execute k outcome).broken? = spoiltBy (some k) outcome := by
      cases outcome <;> rfl
    rw [List.map_append, ← List.append_assoc, ← hs]
    refine (hc.bound hk hb).used hk rfl (by simp) ?_
    intro h answer hh
    cases hh
    exact ⟨x, ds, rfl, htext, by rw [hb.eq_bound rfl]⟩

theorem discarded (hc : Custody held n spoilt ds) (hs : spoilt = none ∨ spoilt = held i)
    (hd : Discarded (held i) calls) :
    Custody (Function.update held i none) n none (ds ++ calls.map (Deed.mk (some i) r)) := by
  cases hk : held i with
  | none =>
    rw [hk] at hs hd
    have hsame : Function.update held i none = held := by
      rw [← hk, Function.update_eq_self]
    have hnone : spoilt = none := hs.elim id id
    cases hd
    rw [hsame, List.map_nil, List.append_nil]
    rwa [hnone] at hc
  | some k =>
    rw [hk] at hs hd
    cases hd with
    | closed _ answer => exact hc.close hk hs answer

/-- After an attempt the handle that it kept may be spoilt, if the attempt failed. -/
theorem attempted (hc : Custody held n none ds) (ha : Attempted x n (held i) kept calls outcome m) :
    Custody (Function.update held i kept) m (spoiltBy kept outcome)
      (ds ++ calls.map (Deed.mk (some i) (some x))) := by
  cases ha with
  | reused hk htext ht =>
    rw [← hk, Function.update_eq_self, hk]
    exact hc.tried hk htext ht
  | @unprepared closing e _ hd =>
    have hgone := hc.discarded (r := some x) (Or.inl rfl) hd
    have hasked := hgone.prepare (r := some x) (Function.update_self i none held) x.sql (.error e)
      none (by simp)
    rw [Function.update_idem] at hasked
    rw [List.map_append, ← List.append_assoc]
    exact hasked
  | @prepared closing calls outcome _ hd ht =>
    have hgone := hc.discarded (r := some x) (Or.inl rfl) hd
    have hasked := hgone.prepare (r := some x) (Function.update_self i none held) x.sql (.ok ())
      (some ⟨n + 1, x.sql⟩) (by simp [eq_comm])
    rw [Function.update_idem] at hasked
    rw [List.map_append, List.map_cons, ← List.append_assoc, List.append_cons]
    exact hasked.tried (Function.update_self i _ held) rfl ht

theorem outside_all (hc : Custody held n spoilt ds) (doer : Option Nat) (r : Option Rendered)
    (hcalls : ∀ c ∈ calls, c.handle? = none) :
    Custody held n spoilt (ds ++ calls.map (Deed.mk doer r)) := by
  induction calls generalizing ds with
  | nil => rwa [List.map_nil, List.append_nil]
  | cons c calls ih =>
    rw [List.map_cons, List.append_cons]
    refine ih (hc.outside ?_) ?_
    · exact hcalls c List.mem_cons_self
    · intro e he
      exact hcalls e (List.mem_cons_of_mem c he)

theorem failed (hc : Custody held n none ds) {e : DriverError}
    (ha : Attempted x n (held i) kept calls (.error e) m) {probes : List Exchange}
    (hp : ∀ c ∈ probes, c.handle? = none) {closing : List Exchange}
    (hd : Discarded kept closing) :
    Custody (Function.update held i none) m none
      (ds ++ (calls ++ (probes ++ closing)).map (Deed.mk (some i) (some x))) := by
  have hprobed := (hc.attempted ha).outside_all (some i) (some x) hp
  have hself := Function.update_self i kept held
  rw [← hself] at hd
  have hgone := hprobed.discarded (r := some x) (Or.inr hself.symm) hd
  rw [Function.update_idem] at hgone
  simpa using hgone

/-- After a run every handle is in order again. -/
theorem ran (hc : Custody held n none ds) {first : Except DriverError Outcome}
    {back : Option Bool} {second : Option (Except DriverError Outcome)}
    (hr : Ran x n (held i) first back second kept calls m) :
    Custody (Function.update held i kept) m none (ds ++ calls.map (Deed.mk (some i) (some x))) := by
  have hnone : ∀ c ∈ ([] : List Exchange), c.handle? = none := by
    intro c hm
    cases hm
  have hprobe : ∀ alive, ∀ c ∈ [Exchange.isAlive alive], c.handle? = none := by
    intro alive c hm
    cases List.mem_singleton.mp hm
    rfl
  have hself : Function.update held i none i = none := Function.update_self i none held
  cases hr with
  | answered ha => exact hc.attempted ha
  | failed ha _ hd => exact hc.failed ha hnone hd
  | refused alive ha _ hd =>
    have hgone := hc.failed ha (hprobe alive) hd
    have hback := hgone.outside (d := ⟨some i, some x, .reconnect false⟩) rfl
    simpa using hback
  | recovered alive ha _ hd ha' =>
    have hgone := hc.failed ha (hprobe alive) hd
    have hback := hgone.outside (d := ⟨some i, some x, .reconnect true⟩) rfl
    rw [← hself] at ha'
    have hagain := hback.attempted ha'
    rw [Function.update_idem] at hagain
    simpa [spoiltBy] using hagain
  | gaveUp alive ha _ hd ha' hd' =>
    have hgone := hc.failed ha (hprobe alive) hd
    have hback := hgone.outside (d := ⟨some i, some x, .reconnect true⟩) rfl
    rw [← hself] at ha'
    have hagain := hback.failed ha' hnone hd'
    rw [Function.update_idem] at hagain
    simpa using hagain

end Custody

end SqlClient
