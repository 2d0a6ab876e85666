import SqlClient.Proofs.Execution.Attempt

/-! # One reconnection and one second attempt

A run is one attempt, or two with a reconnection between them. Only the loss of the connection leads
to the second attempt, which prepares anew.
-/
namespace SqlClient

namespace Exchange

def isPrepare : Exchange → Bool
  | prepare .. => true
  | _ => false

def isProbe : Exchange → Bool
  | isAlive _ => true
  | reconnect _ => true
  | _ => false

end Exchange

namespace Execution

variable {r : Rendered} {n m : Nat} {held kept : Option Handle} {calls : List Exchange}
  {answer : Except DriverError Outcome}

def Lost (answer : Except DriverError Outcome) : Prop :=
  ∃ e, answer = .error e ∧ e.kind = .connectionLost

theorem isConnectionLost_iff {e : DriverError} :
    e.isConnectionLost = true ↔ e.kind = .connectionLost := by
  simp [DriverError.isConnectionLost]

theorem other_of_not_lost {e : DriverError} (h : ¬ e.isConnectionLost = true) :
    e.kind = .other := by
  rw [isConnectionLost_iff] at h
  cases hk : e.kind with
  | connectionLost => exact absurd hk h
  | other => rfl

/-- A run by the answer of its first attempt, of the reconnection and of its second attempt, where
there are these; then the handle kept, the calls, and how many handles have been asked for. -/
inductive Ran (r : Rendered) (n : Nat) (held : Option Handle) :
    Except DriverError Outcome → Option Bool → Option (Except DriverError Outcome) →
      Option Handle → List Exchange → Nat → Prop where
  | answered {kept calls o m} : Attempted r n held kept calls (.ok o) m →
      Ran r n held (.ok o) none none kept calls m
  | failed {kept calls e closing m} : Attempted r n held kept calls (.error e) m →
      e.kind = .other → Discarded kept closing →
      Ran r n held (.error e) none none none (calls ++ closing) m
  | refused {kept calls e closing m} (alive) : Attempted r n held kept calls (.error e) m →
      e.kind = .connectionLost → Discarded kept closing →
      Ran r n held (.error e) (some false) none none
        (calls ++ .isAlive alive :: closing ++ [.reconnect false]) m
  | recovered {kept calls e closing m kept' calls' o m'} (alive) :
      Attempted r n held kept calls (.error e) m → e.kind = .connectionLost →
      Discarded kept closing → Attempted r m none kept' calls' (.ok o) m' →
      Ran r n held (.error e) (some true) (some (.ok o)) kept'
        (calls ++ .isAlive alive :: closing ++ .reconnect true :: calls') m'
  | gaveUp {kept calls e closing m kept' calls' e' closing' m'} (alive) :
      Attempted r n held kept calls (.error e) m → e.kind = .connectionLost →
      Discarded kept closing → Attempted r m none kept' calls' (.error e') m' →
      Discarded kept' closing' →
      Ran r n held (.error e) (some true) (some (.error e')) none
        (calls ++ .isAlive alive :: closing ++ .reconnect true :: (calls' ++ closing')) m'

/-! ## The calls that are not made on a handle -/

section Outside

/-- A choice of calls that leaves out all calls on a handle. -/
structure Outside (p : Exchange → Bool) : Prop where
  bind : ∀ h k v a, p (.bind h k v a) = false
  execute : ∀ h a, p (.execute h a) = false
  close : ∀ h a, p (.close h a) = false

variable {p : Exchange → Bool}

theorem Discarded.filter_eq_nil (hp : Outside p) {closing : List Exchange}
    (h : Discarded held closing) : closing.filter p = [] := by
  cases h with
  | nothing => rfl
  | closed => simp [hp.close]

theorem Bound.filter_eq_nil (hp : Outside p) {h : Handle} {k : Nat} {vs : List Value}
    {bound : Except DriverError Unit} (hb : Bound h k vs calls bound) : calls.filter p = [] := by
  induction hb with
  | all => rfl
  | refused => simp [hp.bind]
  | next _ ih => rw [List.filter_cons_of_neg (by simp [hp.bind]), ih]

theorem Tried.filter_eq_nil (hp : Outside p) {h : Handle} (ht : Tried h r calls answer) :
    calls.filter p = [] := by
  cases ht with
  | refused hb => exact hb.filter_eq_nil hp
  | executed _ hb => rw [List.filter_append, hb.filter_eq_nil hp]; simp [hp.execute]

theorem Attempted.filter_eq (hp : Outside p) (h : Attempted r n held kept calls answer m) :
    (Reusable held r.sql ∧ calls.filter p = []) ∨
      (¬ Reusable held r.sql ∧ ∃ a, calls.filter p = [.prepare ⟨n + 1, r.sql⟩ a].filter p) := by
  cases h with
  | reused hh ht hd => exact Or.inl ⟨⟨_, hh, ht⟩, hd.filter_eq_nil hp⟩
  | unprepared hr hd =>
    exact Or.inr ⟨hr, _, by rw [List.filter_append, hd.filter_eq_nil hp, List.nil_append]⟩
  | prepared hr hd ht =>
    refine Or.inr ⟨hr, .ok (), ?_⟩
    simp only [List.filter_append, List.filter_cons, List.filter_nil, List.nil_append,
      hd.filter_eq_nil hp, ht.filter_eq_nil hp]

end Outside

theorem outside_isPrepare : Outside Exchange.isPrepare :=
  ⟨fun _ _ _ _ => rfl, fun _ _ => rfl, fun _ _ => rfl⟩

theorem outside_isProbe : Outside Exchange.isProbe :=
  ⟨fun _ _ _ _ => rfl, fun _ _ => rfl, fun _ _ => rfl⟩

theorem Attempted.prepares (h : Attempted r n held kept calls answer m) :
    (Reusable held r.sql ∧ calls.countP Exchange.isPrepare = 0) ∨
      (¬ Reusable held r.sql ∧ calls.countP Exchange.isPrepare = 1) := by
  rcases h.filter_eq outside_isPrepare with ⟨hr, hc⟩ | ⟨hr, a, hc⟩
  · exact Or.inl ⟨hr, by rw [List.countP_eq_length_filter, hc]; rfl⟩
  · exact Or.inr ⟨hr, by rw [List.countP_eq_length_filter, hc]; rfl⟩

theorem Attempted.prepares_anew (h : Attempted r n none kept calls answer m) :
    calls.countP Exchange.isPrepare = 1 := by
  rcases h.prepares with ⟨⟨_, hh, _⟩, _⟩ | ⟨_, hp⟩
  · cases hh
  · exact hp

theorem Attempted.probes (h : Attempted r n held kept calls answer m) :
    calls.filter Exchange.isProbe = [] := by
  rcases h.filter_eq outside_isProbe with ⟨_, hc⟩ | ⟨_, a, hc⟩
  · exact hc
  · exact hc

section Run

variable {first : Except DriverError Outcome} {back : Option Bool}
  {second : Option (Except DriverError Outcome)}

theorem Ran.back_iff (h : Ran r n held first back second kept calls m) :
    back.isSome ↔ Lost first := by
  cases h with
  | answered => simp [Lost]
  | failed _ hk => simp [Lost, hk]
  | refused _ _ hk => simp [Lost, hk]
  | recovered _ _ hk => simp [Lost, hk]
  | gaveUp _ _ hk => simp [Lost, hk]

theorem Ran.second_iff (h : Ran r n held first back second kept calls m) :
    second.isSome ↔ back = some true := by
  cases h <;> simp

theorem Ran.probes (h : Ran r n held first back second kept calls m) :
    (back = none ∧ calls.filter Exchange.isProbe = []) ∨
      ∃ alive b, back = some b ∧
        calls.filter Exchange.isProbe = [.isAlive alive, .reconnect b] := by
  cases h with
  | answered ha => exact Or.inl ⟨rfl, ha.probes⟩
  | failed ha _ hd =>
    refine Or.inl ⟨rfl, ?_⟩
    rw [List.filter_append, ha.probes, hd.filter_eq_nil outside_isProbe]
    rfl
  | refused alive ha _ hd =>
    refine Or.inr ⟨alive, false, rfl, ?_⟩
    simp only [List.filter_append, List.filter_cons, ha.probes, hd.filter_eq_nil outside_isProbe]
    rfl
  | recovered alive ha _ hd ha' =>
    refine Or.inr ⟨alive, true, rfl, ?_⟩
    simp only [List.filter_append, List.filter_cons, ha.probes, ha'.probes,
      hd.filter_eq_nil outside_isProbe]
    rfl
  | gaveUp alive ha _ hd ha' hd' =>
    refine Or.inr ⟨alive, true, rfl, ?_⟩
    simp only [List.filter_append, List.filter_cons, ha.probes, ha'.probes,
      hd.filter_eq_nil outside_isProbe, hd'.filter_eq_nil outside_isProbe]
    rfl

/-- The second attempt always asks for a handle, and there is no third. -/
theorem Ran.prepares (h : Ran r n held first back second kept calls m) :
    (Reusable held r.sql ∧ calls.countP Exchange.isPrepare = second.toList.length) ∨
      (¬ Reusable held r.sql ∧
        calls.countP Exchange.isPrepare = 1 + second.toList.length) := by
  have closing_zero : ∀ {held closing}, Discarded held closing →
      closing.countP Exchange.isPrepare = 0 := fun hd => by
    rw [List.countP_eq_length_filter, hd.filter_eq_nil outside_isPrepare]; rfl
  cases h with
  | answered ha => simpa using ha.prepares
  | failed ha _ hd => simpa [closing_zero hd] using ha.prepares
  | refused _ ha _ hd =>
    simpa [closing_zero hd, List.countP_cons, Exchange.isPrepare] using ha.prepares
  | recovered _ ha _ hd ha' =>
    simpa [closing_zero hd, ha'.prepares_anew, List.countP_cons, Exchange.isPrepare]
      using ha.prepares
  | gaveUp _ ha _ hd ha' hd' =>
    simpa [closing_zero hd, closing_zero hd', ha'.prepares_anew, List.countP_cons,
      Exchange.isPrepare] using ha.prepares

end Run

/-! ## Runs that succeed -/

section Last

variable {o : Outcome} {first : Except DriverError Outcome} {back : Option Bool}
  {second : Option (Except DriverError Outcome)} {h : Handle}

theorem Attempted.kept_of_ok (h : Attempted r n held kept calls (.ok o) m) :
    ∃ k, kept = some k ∧ k.text = r.sql := by
  cases h with
  | reused _ ht => exact ⟨_, rfl, ht⟩
  | prepared => exact ⟨_, rfl, rfl⟩

theorem Attempted.last_of_ok (h : Attempted r n held kept calls (.ok o) m) :
    ∃ before k, kept = some k ∧ calls = before ++ [.execute k (.ok o)] := by
  have tried : ∀ {k calls}, Tried k r calls (.ok o) →
      ∃ before, calls = before ++ [.execute k (.ok o)] := by
    intro k calls ht
    cases ht with
    | @executed bound _ _ => exact ⟨bound, rfl⟩
  cases h with
  | @reused k _ _ _ _ ht =>
    obtain ⟨before, rfl⟩ := tried ht
    exact ⟨before, k, rfl, rfl⟩
  | @prepared closing _ _ _ _ ht =>
    obtain ⟨before, rfl⟩ := tried ht
    exact ⟨closing ++ .prepare ⟨n + 1, r.sql⟩ (.ok ()) :: before, ⟨n + 1, r.sql⟩, rfl, by simp⟩

theorem Ran.kept_of_ok (h : Ran r n held first back second kept calls m)
    (ho : second.getD first = .ok o) : ∃ k, kept = some k ∧ k.text = r.sql := by
  cases h with
  | answered ha => exact ha.kept_of_ok
  | recovered _ _ _ _ ha' => exact ha'.kept_of_ok
  | failed => cases ho
  | refused => cases ho
  | gaveUp => cases ho

theorem Ran.last_of_ok (h : Ran r n held first back second kept calls m)
    (ho : second.getD first = .ok o) :
    ∃ before k, kept = some k ∧ calls = before ++ [.execute k (.ok o)] := by
  cases h with
  | answered ha =>
    cases ho
    exact ha.last_of_ok
  | @recovered _ first e closing _ _ _ _ _ alive _ _ _ ha' =>
    cases ho
    obtain ⟨before, k, hk, rfl⟩ := ha'.last_of_ok
    exact ⟨first ++ .isAlive alive :: closing ++ .reconnect true :: before, k, hk, by simp⟩
  | failed => cases ho
  | refused => cases ho
  | gaveUp => cases ho

theorem Discarded.not_execute (hd : Discarded held calls) : ∀ k a, .execute k a ∉ calls := by
  cases hd <;> simp

theorem Attempted.ok_of_mem (ha : Attempted r n held kept calls answer m)
    (hmem : .execute h (.ok o) ∈ calls) : answer = .ok o := by
  have tried : ∀ {l cs}, Tried l r cs answer → .execute h (.ok o) ∈ cs → answer = .ok o := by
    intro l cs ht hc
    rcases ht.mem _ hc with ⟨p, v, a, hh⟩ | hh
    · cases hh
    · cases hh
      rfl
  cases ha with
  | reused _ _ ht => exact tried ht hmem
  | unprepared _ hd => simp [hd.not_execute] at hmem
  | prepared _ hd ht => exact tried ht (by simpa [hd.not_execute] using hmem)

theorem Ran.ok_of_mem (hran : Ran r n held first back second kept calls m)
    (hmem : .execute h (.ok o) ∈ calls) : second.getD first = .ok o := by
  cases hran with
  | answered ha => exact ha.ok_of_mem hmem
  | failed ha _ hd => cases ha.ok_of_mem (by simpa [hd.not_execute] using hmem)
  | refused alive ha _ hd => cases ha.ok_of_mem (by simpa [hd.not_execute] using hmem)
  | recovered alive ha _ hd ha' =>
    rcases (by simpa [hd.not_execute] using hmem : _ ∨ _) with hmem | hmem
    · cases ha.ok_of_mem hmem
    · exact ha'.ok_of_mem hmem
  | gaveUp alive ha _ hd ha' hd' =>
    rcases (by simpa [hd.not_execute, hd'.not_execute] using hmem : _ ∨ _) with hmem | hmem
    · cases ha.ok_of_mem hmem
    · cases ha'.ok_of_mem hmem

end Last

/-! ## The functions that run a statement -/

section Spec

variable {σ : Type} [Connection σ]

def conclusion (r : Rendered) : Except DriverError Outcome → Except QueryError Outcome
  | .ok o => .ok o
  | .error e => .error (.ofDriver e r)

theorem giveUp_cases (x : Execution) (e : DriverError) (r : Rendered) (w : World σ) :
    ∃ closing, Discarded x.held closing ∧ w.Said closing (x.giveUp e r w).world ∧
      (x.giveUp e r w).world.prepared = w.prepared ∧
      (x.giveUp e r w).next = { x with held := none } ∧
      (x.giveUp e r w).result = conclusion r (.error e) := by
  obtain ⟨closing, hd, hs, hp⟩ := discard_world x w
  exact ⟨closing, hd, hs, hp, discard_next x w, rfl⟩

theorem retry_cases (x : Execution) (r : Rendered) (w : World σ) :
    ∃ kept calls answer closing,
      Attempted r w.prepared x.held kept calls answer (x.retry r w).world.prepared ∧
      w.Said (calls ++ closing) (x.retry r w).world ∧
      (x.retry r w).result = conclusion r answer ∧
      ((∃ o, answer = .ok o ∧ closing = [] ∧ (x.retry r w).next = { x with held := kept }) ∨
        ∃ e, answer = .error e ∧ Discarded kept closing ∧
          (x.retry r w).next = { x with held := none }) := by
  obtain ⟨kept, calls, ha, hs, hn⟩ := attempt_cases x r w
  unfold retry
  dsimp only
  generalize x.attempt r w = a at ha hs hn ⊢
  obtain ⟨answer, y, v⟩ := a
  dsimp only at ha hs hn ⊢
  subst hn
  cases answer with
  | ok o => exact ⟨kept, calls, .ok o, [], ha, by simpa using hs, rfl, Or.inl ⟨o, rfl, rfl, rfl⟩⟩
  | error e =>
    obtain ⟨closing, hd, ht, hp, hy, hr⟩ := giveUp_cases { x with held := kept } e r v
    refine ⟨kept, calls, .error e, closing, ?_, hs.trans ht, hr, Or.inr ⟨e, rfl, hd, hy⟩⟩
    rw [hp]
    exact ha

/-- After a loss the handle is given up between the two probes; the second decides. -/
theorem recover_cases (x : Execution) (e : DriverError) (r : Rendered) (w : World σ) :
    ∃ alive closing, Discarded x.held closing ∧
      ((w.Said (.isAlive alive :: closing ++ [.reconnect false]) (x.recover e r w).world ∧
          (x.recover e r w).world.prepared = w.prepared ∧
          (x.recover e r w).next = { x with held := none } ∧
          (x.recover e r w).result = conclusion r (.error e)) ∨
        ∃ u, w.Said (.isAlive alive :: closing ++ [.reconnect true]) u ∧
          u.prepared = w.prepared ∧ x.recover e r w = retry { x with held := none } r u) := by
  have hw : w.Said [.isAlive w.isAlive.1] w.isAlive.2 := rfl
  obtain ⟨closing, hd, hs, hp⟩ :=
    discard_world x (w.isAlive.2.note (.connectionLost r.sql e w.isAlive.1))
  unfold recover
  dsimp only
  rw [discard_next]
  generalize (x.discard (w.isAlive.2.note (.connectionLost r.sql e w.isAlive.1))).2 = u
    at hs hp ⊢
  have hu : u.Said [.reconnect u.reconnect.1] u.reconnect.2 := rfl
  have hall := (hw.trans hs.of_note).trans hu
  refine ⟨w.isAlive.1, closing, hd, ?_⟩
  cases hb : u.reconnect.1 with
  | false =>
    rw [hb] at hall
    exact Or.inl ⟨hall, hp, rfl, rfl⟩
  | true =>
    rw [hb] at hall
    exact Or.inr ⟨u.reconnect.2, hall, hp, rfl⟩

theorem recover_ran {x : Execution} {e : DriverError} {v : World σ}
    (ha : Attempted r n held x.held calls (.error e) v.prepared) (hk : e.kind = .connectionLost) :
    ∃ back second kept' calls',
      Ran r n held (.error e) back second kept' (calls ++ calls')
        (x.recover e r v).world.prepared ∧
      v.Said calls' (x.recover e r v).world ∧
      (x.recover e r v).next = { x with held := kept' } ∧
      (x.recover e r v).result = conclusion r (second.getD (.error e)) := by
  obtain ⟨alive, closing, hd, ⟨hs, hp, hn, hr⟩ | ⟨u, hs, hp, hx⟩⟩ := recover_cases x e r v
  · refine ⟨some false, none, none, _, ?_, hs, hn, hr⟩
    rw [hp]
    simpa using Ran.refused alive ha hk hd
  · rw [hx]
    obtain ⟨kept', calls', answer, closing', ha', hs', hr, hc⟩ :=
      retry_cases { x with held := none } r u
    rw [hp] at ha'
    rcases hc with ⟨o, rfl, rfl, hn⟩ | ⟨e', rfl, hd', hn⟩
    · refine ⟨some true, some (.ok o), kept', _, ?_, hs.trans hs', hn, hr⟩
      simpa using Ran.recovered alive ha hk hd ha'
    · refine ⟨some true, some (.error e'), none, _, ?_, hs.trans hs', hn, hr⟩
      simpa using Ran.gaveUp alive ha hk hd ha' hd'

theorem runWithRetry_cases (x : Execution) (r : Rendered) (w : World σ) :
    ∃ first back second kept calls,
      Ran r w.prepared x.held first back second kept calls (x.runWithRetry r w).world.prepared ∧
      w.Said calls (x.runWithRetry r w).world ∧
      (x.runWithRetry r w).next = { x with held := kept } ∧
      (x.runWithRetry r w).result = conclusion r (second.getD first) := by
  obtain ⟨kept, calls, ha, hs, hn⟩ :=
    attempt_cases x r (w.note (.executing x.settings.debug r.sql))
  unfold runWithRetry
  dsimp only
  generalize x.attempt r (w.note (.executing x.settings.debug r.sql)) = a at ha hs hn ⊢
  obtain ⟨answer, y, v⟩ := a
  dsimp only at ha hs hn ⊢
  subst hn
  replace ha : Attempted r w.prepared x.held kept calls answer v.prepared := ha
  replace hs : w.Said calls v := hs.of_note
  cases answer with
  | ok o => exact ⟨.ok o, none, none, kept, calls, .answered ha, hs, rfl, rfl⟩
  | error e =>
    dsimp only
    by_cases hl : e.isConnectionLost = true
    · rw [if_pos hl]
      obtain ⟨back, second, kept', calls', hran, ht, hn, hr⟩ :=
        recover_ran (x := { x with held := kept }) ha (isConnectionLost_iff.mp hl)
      exact ⟨.error e, back, second, kept', _, hran, hs.trans ht, hn, hr⟩
    · rw [if_neg hl]
      obtain ⟨closing, hd, ht, hp, hn, hr⟩ := giveUp_cases { x with held := kept } e r v
      rw [hp]
      exact ⟨.error e, none, none, none, _, .failed ha (other_of_not_lost hl) hd, hs.trans ht, hn,
        hr⟩

/-- Besides its handle and the text that it ran, a run leaves the outcome of its last attempt, or
the error that comes of it. -/
theorem run_cases (x : Execution) (r : Rendered) (w : World σ) :
    ∃ first back second kept calls,
      Ran r w.prepared x.held first back second kept calls (x.run r w).world.prepared ∧
      w.Said calls (x.run r w).world ∧
      ((∃ o, second.getD first = .ok o ∧ (x.run r w).result = .ok () ∧
          (x.run r w).next = succeed { x.begin r with held := kept } o) ∨
        ∃ e, second.getD first = .error e ∧ (x.run r w).result = .error (.ofDriver e r) ∧
          (x.run r w).next = fail { x.begin r with held := kept } (.ofDriver e r)) := by
  obtain ⟨first, back, second, kept, calls, hran, hs, hn, hr⟩ := runWithRetry_cases (x.begin r) r w
  refine ⟨first, back, second, kept, calls, ?_⟩
  unfold run
  dsimp only
  generalize (x.begin r).runWithRetry r w = a at hran hs hn hr ⊢
  obtain ⟨result, y, v⟩ := a
  dsimp only at hran hs hn hr ⊢
  subst hn hr
  cases hl : second.getD first with
  | ok o => exact ⟨hran, hs, Or.inl ⟨o, rfl, rfl, rfl⟩⟩
  | error e => exact ⟨hran, hs, Or.inr ⟨e, rfl, rfl, rfl⟩⟩

/-- What a run leaves is determined by its calls: if they describe a run that ended well, it is
that run. -/
theorem run_of_ran {x : Execution} {w : World σ} {first : Except DriverError Outcome}
    {back : Option Bool} {second : Option (Except DriverError Outcome)} {o : Outcome}
    (hs : w.Said calls (x.run r w).world) (hran : Ran r n held first back second kept calls m)
    (ho : second.getD first = .ok o) :
    (x.run r w).result = .ok () ∧
      ∃ k, k.text = r.sql ∧ (x.run r w).next = succeed { x.begin r with held := some k } o := by
  obtain ⟨before, l, -, hcalls⟩ := hran.last_of_ok ho
  obtain ⟨_, _, _, _, calls', hran', hs', hend⟩ := run_cases x r w
  have hlast : calls'.getLast? = some (.execute l (.ok o)) := by
    rw [← hs.unique hs', hcalls, List.getLast?_concat]
  have ho' := hran'.ok_of_mem (List.mem_of_getLast? hlast)
  obtain ⟨k, rfl, hk⟩ := hran'.kept_of_ok ho'
  rcases hend with ⟨o', hl, hr, hn⟩ | ⟨e, hl, -, -⟩
  · rw [ho'] at hl
    cases hl
    exact ⟨hr, k, hk, hn⟩
  · rw [ho'] at hl
    cases hl

theorem ofDriver_eq (e : DriverError) (r : Rendered) :
    QueryError.ofDriver e r =
      match e.kind with
      | .connectionLost => .connection e r
      | .other => .driver e r := by
  unfold QueryError.ofDriver DriverError.isConnectionLost
  cases e.kind <;> simp

/-- Only a lost connection is made again, once, and only if that works there is a second attempt,
on a new handle. The last attempt decides what the run gives. -/
theorem run_retries_once (x : Execution) (r : Rendered) (w : World σ) :
    ∃ first back second kept calls,
      w.Said calls (x.run r w).world ∧
      Ran r w.prepared x.held first back second kept calls (x.run r w).world.prepared ∧
      ((Reusable x.held r.sql ∧ calls.countP Exchange.isPrepare = second.toList.length) ∨
        (¬ Reusable x.held r.sql ∧
          calls.countP Exchange.isPrepare = 1 + second.toList.length)) ∧
      ((¬ Lost first ∧ calls.filter Exchange.isProbe = []) ∨
        (Lost first ∧ ∃ alive b, back = some b ∧
          calls.filter Exchange.isProbe = [.isAlive alive, .reconnect b])) ∧
      (second.isSome ↔ back = some true) ∧
      ((x.run r w).result = .ok () ↔ ∃ o, second.getD first = .ok o) ∧
      ∀ e, second.getD first = .error e →
        (x.run r w).result = .error
          (match e.kind with
          | .connectionLost => .connection e r
          | .other => .driver e r) := by
  obtain ⟨first, back, second, kept, calls, hran, hs, hend⟩ := run_cases x r w
  refine ⟨first, back, second, kept, calls, hs, hran, hran.prepares, ?_, hran.second_iff, ?_, ?_⟩
  · rcases hran.probes with ⟨hb, hp⟩ | ⟨alive, b, hb, hp⟩
    · refine Or.inl ⟨fun hl => ?_, hp⟩
      have hsome := hran.back_iff.mpr hl
      rw [hb] at hsome
      cases hsome
    · exact Or.inr ⟨hran.back_iff.mp (by simp [hb]), alive, b, hb, hp⟩
  · rcases hend with ⟨o, hl, hr, -⟩ | ⟨e, hl, hr, -⟩
    · exact ⟨fun _ => ⟨o, hl⟩, fun _ => hr⟩
    · simp [hl, hr]
  · intro e he
    rcases hend with ⟨o, hl, -, -⟩ | ⟨e', hl, hr, -⟩
    · rw [hl] at he
      cases he
    · rw [hl] at he
      cases he
      rw [hr, ofDriver_eq]

end Spec

end Execution

end SqlClient
