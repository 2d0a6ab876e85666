import SqlClient.Proofs.Execution.Retry

/-! # Executing what has just been bound

In the calls of a run every execution stands right behind the values of that run, all of them bound
with success and in their order.
-/
namespace SqlClient

namespace Execution

/-! ## Facts that attempts put together -/

/-- A relation between the handles before and after some calls, by which any attempt to run `r` can
be put together from single moves. -/
structure Chained (r : Rendered)
    (C : Nat → Option Handle → Option Handle → List Exchange → Nat → Prop) : Prop where
  trans : ∀ {n m k held mid kept cs ds}, C n held mid cs m → C m mid kept ds k →
    C n held kept (cs ++ ds) k
  alive : ∀ n held b, C n held held [.isAlive b] n
  reconnect : ∀ n held b, C n held held [.reconnect b] n
  discarded : ∀ {n held cs}, Discarded held cs → C n held none cs n
  refused : ∀ n e, C n none none [.prepare ⟨n + 1, r.sql⟩ (.error e)] (n + 1)
  prepared : ∀ n, C n none (some ⟨n + 1, r.sql⟩) [.prepare ⟨n + 1, r.sql⟩ (.ok ())] (n + 1)
  tried : ∀ {n h cs answer}, h.text = r.sql → Tried h r cs answer → C n (some h) (some h) cs n

section Chained

variable {r : Rendered} {C : Nat → Option Handle → Option Handle → List Exchange → Nat → Prop}
  {n m : Nat} {held kept : Option Handle} {calls : List Exchange}

theorem Attempted.chained {answer : Except DriverError Outcome}
    (ha : Attempted r n held kept calls answer m) (hC : Chained r C) : C n held kept calls m := by
  cases ha with
  | reused hh htext ht =>
    rw [hh]
    exact hC.tried htext ht
  | @unprepared closing e _ hd => exact hC.trans (hC.discarded hd) (hC.refused n e)
  | prepared _ hd ht =>
    exact hC.trans (hC.discarded hd) (hC.trans (hC.prepared n) (hC.tried rfl ht))

theorem Ran.chained {first : Except DriverError Outcome} {back : Option Bool}
    {second : Option (Except DriverError Outcome)}
    (hran : Ran r n held first back second kept calls m) (hC : Chained r C) :
    C n held kept calls m := by
  have lost : ∀ {cs e m mid closing}, Attempted r n held mid cs (.error e) m →
      Discarded mid closing → ∀ alive b,
        C n held none (cs ++ .isAlive alive :: closing ++ [.reconnect b]) m := by
    intro cs e m mid closing ha hd alive b
    have hgone : C m mid none (.isAlive alive :: closing) m :=
      hC.trans (hC.alive m mid alive) (hC.discarded hd)
    exact hC.trans (hC.trans (ha.chained hC) hgone) (hC.reconnect m none b)
  cases hran with
  | answered ha => exact ha.chained hC
  | failed ha _ hd => exact hC.trans (ha.chained hC) (hC.discarded hd)
  | refused alive ha _ hd => exact lost ha hd alive false
  | recovered alive ha _ hd ha' => simpa using hC.trans (lost ha hd alive true) (ha'.chained hC)
  | gaveUp alive ha _ hd ha' hd' =>
    simpa using hC.trans (lost ha hd alive true) (hC.trans (ha'.chained hC) (hC.discarded hd'))

end Chained

end Execution

/-! ## Executions and what stands before them -/

/-- `P` holds of every element of a list together with what stands before it. -/
def Throughout {α : Type} (P : List α → α → Prop) (l : List α) : Prop :=
  ∀ before x after, l = before ++ x :: after → P before x

namespace Throughout

variable {α : Type} {P Q : List α → α → Prop} {l m : List α}

theorem nil : Throughout P [] := by
  intro before x after h
  simp at h

theorem mono (h : Throughout P l) (hpq : ∀ before, ∀ x ∈ l, P before x → Q before x) :
    Throughout Q l := by
  intro before x after hl
  have hmem : x ∈ l := by
    rw [hl]
    exact List.mem_append_right before List.mem_cons_self
  exact hpq before x hmem (h before x after hl)

theorem append (hl : Throughout P l) (hm : Throughout (fun before => P (l ++ before)) m) :
    Throughout P (l ++ m) := by
  intro before x after h
  rcases List.append_eq_append_iff.mp h with ⟨mid, rfl, hmid⟩ | ⟨mid, rfl, hmid⟩
  · exact hm mid x after hmid
  · cases mid with
    | nil =>
      have hx := hm [] x after (by simpa using hmid.symm)
      simpa using hx
    | cons y mid =>
      obtain ⟨rfl, -⟩ := List.cons.inj hmid
      exact hl before x mid rfl

theorem snoc {x : α} (hl : Throughout P l) (hx : P l x) : Throughout P (l ++ [x]) := by
  refine hl.append ?_
  intro before y after h
  cases before with
  | nil =>
    obtain ⟨rfl, -⟩ := List.cons.inj h
    simpa using hx
  | cons z before => simp at h

end Throughout

def Handle.bound (h : Handle) : Nat → List Value → List Exchange
  | _, [] => []
  | n, v :: vs => .bind h n v (.ok ()) :: h.bound (n + 1) vs

namespace Execution

/-- Each execution is of the text of a rendering that `own` holds of, and stands right behind the
values of that rendering. -/
def Executes (own : Rendered → Prop) : List Exchange → Prop :=
  Throughout fun before c => ∀ h answer, c = .execute h answer →
    ∃ r earlier, own r ∧ h.text = r.sql ∧ before = earlier ++ h.bound 1 r.binds

namespace Executes

variable {own : Rendered → Prop} {cs ds : List Exchange}

theorem of_forall (h : ∀ c ∈ cs, ∀ k answer, c ≠ .execute k answer) : Executes own cs := by
  intro before c after hcs k answer hc
  refine absurd hc (h c ?_ k answer)
  rw [hcs]
  exact List.mem_append_right before List.mem_cons_self

theorem append (hc : Executes own cs) (hd : Executes own ds) : Executes own (cs ++ ds) := by
  refine Throughout.append hc ?_
  intro before c after hds h answer he
  obtain ⟨r, earlier, hr, ht, rfl⟩ := hd before c after hds h answer he
  exact ⟨r, cs ++ earlier, hr, ht, (List.append_assoc cs earlier _).symm⟩

theorem cons {c : Exchange} (hc : ∀ k answer, c ≠ .execute k answer) (hd : Executes own ds) :
    Executes own (c :: ds) := by
  have hone : Executes own [c] := by
    refine of_forall fun d hd => ?_
    cases List.mem_singleton.mp hd
    exact hc
  exact append hone hd

theorem mono {own' : Rendered → Prop} (h : Executes own cs) (hr : ∀ r, own r → own' r) :
    Executes own' cs := by
  refine Throughout.mono h fun before c _ hp k answer hc => ?_
  obtain ⟨r, earlier, hown, ht, hb⟩ := hp k answer hc
  exact ⟨r, earlier, hr r hown, ht, hb⟩

end Executes

variable {r : Rendered} {n m : Nat} {held kept : Option Handle} {calls closing : List Exchange}
  {answer : Except DriverError Outcome} {h : Handle} {vs : List Value}
  {bound : Except DriverError Unit}

theorem Bound.eq_bound (hb : Bound h n vs calls bound) (hok : bound = .ok ()) :
    calls = h.bound n vs := by
  induction hb with
  | all => rfl
  | refused => cases hok
  | next _ ih => rw [ih hok, Handle.bound]

theorem Bound.executes {own : Rendered → Prop} (hb : Bound h n vs calls bound) :
    Executes own calls := by
  refine .of_forall fun c hc k a => ?_
  obtain ⟨_, _, _, rfl, -⟩ := hb.mem c hc
  simp

theorem Discarded.executes {own : Rendered → Prop} (hd : Discarded held calls) :
    Executes own calls := by
  refine .of_forall fun c hc k a => ?_
  cases hd with
  | nothing => cases hc
  | closed =>
    cases List.mem_singleton.mp hc
    simp

theorem Tried.executes (ht : Tried h r calls answer) (htext : h.text = r.sql) :
    Executes (· = r) calls := by
  cases ht with
  | refused hb => exact hb.executes
  | executed answer hb =>
    refine Throughout.snoc hb.executes ?_
    intro k a he
    cases he
    exact ⟨r, [], rfl, htext, hb.eq_bound rfl⟩

theorem chained_executes (r : Rendered) :
    Chained r fun _ _ _ calls _ => Executes (· = r) calls where
  trans := Executes.append
  alive _ _ _ := .cons (by simp) Throughout.nil
  reconnect _ _ _ := .cons (by simp) Throughout.nil
  discarded hd := hd.executes
  refused _ _ := .cons (by simp) Throughout.nil
  prepared _ := .cons (by simp) Throughout.nil
  tried htext ht := ht.executes htext

theorem Ran.executes {first : Except DriverError Outcome} {back : Option Bool}
    {second : Option (Except DriverError Outcome)}
    (hran : Ran r n held first back second kept calls m) : Executes (· = r) calls :=
  hran.chained (chained_executes r)

end Execution

/-! ## What a run binds -/

/-- A value is bound for the run's own text, and at a position that the run has a value for. -/
def Exchange.Fits (r : Rendered) (c : Exchange) : Prop :=
  ∀ h k v answer, c = .bind h k v answer → h.text = r.sql ∧ 1 ≤ k ∧ k ≤ r.binds.length

theorem Exchange.fits_of_ne {r : Rendered} {c : Exchange}
    (hc : ∀ h k v answer, c ≠ .bind h k v answer) : c.Fits r := by
  intro h k v answer hh
  exact absurd hh (hc h k v answer)

namespace Execution

variable {r : Rendered} {n m : Nat} {held kept : Option Handle} {calls : List Exchange}
  {answer : Except DriverError Outcome} {h : Handle}

theorem Discarded.binds_nothing (hd : Discarded held calls) :
    ∀ c ∈ calls, ∀ h k v a, c ≠ .bind h k v a := by
  cases hd with
  | nothing => simp
  | closed h answer => simp

theorem Discarded.fits (hd : Discarded held calls) : ∀ c ∈ calls, c.Fits r :=
  fun c hc => Exchange.fits_of_ne (hd.binds_nothing c hc)

theorem Tried.fits (ht : Tried h r calls answer) (htext : h.text = r.sql) :
    ∀ c ∈ calls, c.Fits r := by
  have hbound : ∀ {calls bound}, Bound h 1 r.binds calls bound → ∀ c ∈ calls, c.Fits r := by
    intro calls bound hb c hc h' k v a hh
    obtain ⟨k', v', a', rfl, hlo, hhi⟩ := hb.mem c hc
    cases hh
    exact ⟨htext, hlo, by omega⟩
  cases ht with
  | refused hb => exact hbound hb
  | executed answer hb =>
    rw [List.forall_mem_append, List.forall_mem_singleton]
    exact ⟨hbound hb, Exchange.fits_of_ne (by simp)⟩

theorem chained_fits (r : Rendered) : Chained r fun _ _ _ calls _ => ∀ c ∈ calls, c.Fits r where
  trans hc hd := List.forall_mem_append.mpr ⟨hc, hd⟩
  alive _ _ _ := List.forall_mem_singleton.mpr (Exchange.fits_of_ne (by simp))
  reconnect _ _ _ := List.forall_mem_singleton.mpr (Exchange.fits_of_ne (by simp))
  discarded hd := hd.fits
  refused _ _ := List.forall_mem_singleton.mpr (Exchange.fits_of_ne (by simp))
  prepared _ := List.forall_mem_singleton.mpr (Exchange.fits_of_ne (by simp))
  tried htext ht := ht.fits htext

theorem Ran.fits {first : Except DriverError Outcome} {back : Option Bool}
    {second : Option (Except DriverError Outcome)}
    (hran : Ran r n held first back second kept calls m) : ∀ c ∈ calls, c.Fits r :=
  hran.chained (chained_fits r)

end Execution

/-! ## What a handle has bound -/

def Exchange.boundAt? (h : Handle) (n : Nat) : Exchange → Option Value
  | bind k m v (.ok _) => if k = h ∧ m = n then some v else none
  | _ => none

theorem Exchange.eq_bind_of_boundAt? {h : Handle} {n : Nat} {c : Exchange} {v : Value}
    (hc : c.boundAt? h n = some v) : c = .bind h n v (.ok ()) := by
  cases c with
  | bind k m u answer =>
    cases answer with
    | error e => cases hc
    | ok a =>
      obtain ⟨⟨rfl, rfl⟩, hv⟩ := Option.ite_none_right_eq_some.mp hc
      cases hv
      rfl
  | _ => cases hc

/-- The value that has been bound last to a position of a handle. -/
def latest (h : Handle) (n : Nat) (calls : List Exchange) : Option Value :=
  (calls.filterMap (Exchange.boundAt? h n)).getLast?

theorem latest_append (h : Handle) (n : Nat) (cs ds : List Exchange) :
    latest h n (cs ++ ds) = (latest h n ds).or (latest h n cs) := by
  unfold latest
  rw [List.filterMap_append, List.getLast?_append]

theorem latest_eq_none {h : Handle} {n : Nat} {calls : List Exchange}
    (hc : ∀ c ∈ calls, c.boundAt? h n = none) : latest h n calls = none := by
  unfold latest
  rw [List.filterMap_eq_nil_iff.mpr hc]
  rfl

theorem latest_eq_none_of_bind {h : Handle} {n : Nat} {calls : List Exchange}
    (hc : ∀ v, .bind h n v (.ok ()) ∉ calls) : latest h n calls = none := by
  apply latest_eq_none
  intro c hmem
  rw [Option.eq_none_iff_forall_ne_some]
  intro v hv
  rw [Exchange.eq_bind_of_boundAt? hv] at hmem
  exact hc v hmem

theorem latest_bind (h : Handle) (n m : Nat) (v : Value) :
    latest h n [.bind h m v (.ok ())] = if m = n then some v else none := by
  by_cases hm : m = n
  · simp [latest, Exchange.boundAt?, hm]
  · simp [latest, Exchange.boundAt?, hm]

theorem latest_bound (h : Handle) (n start : Nat) (vs : List Value) :
    latest h n (h.bound start vs) = if n < start then none else vs[n - start]? := by
  induction vs generalizing start with
  | nil => simp [Handle.bound, latest]
  | cons v vs ih =>
    rw [Handle.bound, ← List.singleton_append, latest_append, ih, latest_bind]
    rcases Nat.lt_trichotomy n start with hlt | rfl | hgt
    · rw [if_pos hlt, if_pos (Nat.lt_succ_of_lt hlt), if_neg (Nat.ne_of_gt hlt)]
      rfl
    · rw [if_pos (Nat.lt_succ_self n), if_pos rfl, if_neg (Nat.lt_irrefl n), Nat.sub_self]
      rfl
    · have hsub : n - start = (n - (start + 1)) + 1 := by omega
      rw [if_neg (Nat.not_lt.mpr hgt), if_neg (Nat.ne_of_lt hgt), if_neg (Nat.lt_asymm hgt), hsub,
        List.getElem?_cons_succ, Option.or_none]

end SqlClient
