import SqlClient.Rendered

/-! # Readers of renderings

A reader takes what it understands from the front of a text, with the values for the placeholders in
it. It reads a rendering if it takes all of it and no more wherever that rendering stands, as long
as the text goes on in one of the ways that may follow there.
-/
namespace SqlClient.Reading

structure Input where
  text : List Char
  binds : List Value

abbrev Reader := StateT Input Option

def taken (s : String) : Reader Bool := fun i =>
  if s.toList <+: i.text then some (true, { i with text := i.text.drop s.toList.length })
  else some (false, i)

def skip (s : String) : Reader Unit := do
  if ← taken s then return () else failure

/-- What stands behind the keyword `k`, or else `absent`. -/
def after {α : Type} (k : String) (p : Reader α) (absent : α) : Reader α := do
  if ← taken k then p else return absent

def oneOf {α : Type} (written : α → String) : List α → Reader α
  | [] => failure
  | a :: as => do
    if ← taken (written a) then return a else oneOf written as

def separatedWithin {α : Type} (s : String) (p : Reader α) : Nat → Reader (List α)
  | 0 => failure
  | n + 1 => do
    let a ← p
    if ← taken s then
      let as ← separatedWithin s p n
      return a :: as
    else return [a]

/-- One or more elements with `s` between them. There cannot be more of them than there are
characters. -/
def separated {α : Type} (s : String) (p : Reader α) : Reader (List α) := fun i =>
  separatedWithin s p (i.text.length + 1) i

/-! ## What may follow -/

def Unlike (s : String) (t : List Char) : Prop := ¬ s.toList <+: t

def Begins (p : Char → Bool) (t : List Char) : Prop := ∀ c ∈ t.head?, p c = true

def Opens (ks : List String) (t : List Char) : Prop := t = [] ∨ ∃ k ∈ ks, k.toList <+: t

def Clash (s k : String) : Prop := ¬ s.toList <+: k.toList ∧ ¬ k.toList <+: s.toList

instance (s k : String) : Decidable (Clash s k) := inferInstanceAs (Decidable (_ ∧ _))

theorem Clash.unlike {s k : String} (h : Clash s k) {t : List Char} (ht : k.toList <+: t) :
    Unlike s t := by
  intro hs
  rcases List.prefix_or_prefix_of_prefix hs ht with hsk | hks
  · exact h.1 hsk
  · exact h.2 hks

theorem unlike_text {s k : String} (h : Clash s k) (t : List Char) :
    Unlike s (k.toList ++ t) :=
  h.unlike (List.prefix_append _ _)

theorem begins_text {p : Char → Bool} {k : String} (h : k.toList.head?.any p = true)
    (t : List Char) : Begins p (k.toList ++ t) := by
  cases hk : k.toList with
  | nil => simp [hk] at h
  | cons c cs =>
    intro d hd
    rw [hk, List.head?_cons, Option.any_some] at h
    rw [List.cons_append, List.head?_cons, Option.mem_some_iff] at hd
    exact hd ▸ h

theorem unlike_append {s k : String} (h : Clash s k) (r : Rendered) (t : List Char) :
    Unlike s ((Rendered.text k ++ r).sql.toList ++ t) := by
  rw [Rendered.sql_append, String.toList_append, List.append_assoc]
  exact unlike_text h _

theorem begins_append {p : Char → Bool} {k : String} (h : k.toList.head?.any p = true)
    (r : Rendered) (t : List Char) : Begins p ((Rendered.text k ++ r).sql.toList ++ t) := by
  rw [Rendered.sql_append, String.toList_append, List.append_assoc]
  exact begins_text h _

namespace Opens

variable {ks : List String} {t : List Char}

theorem mono {ls : List String} (h : Opens ks t) (hl : ∀ k ∈ ks, k ∈ ls) : Opens ls t := by
  rcases h with h | ⟨k, hk, h⟩
  · exact Or.inl h
  · exact Or.inr ⟨k, hl k hk, h⟩

theorem unlike (h : Opens ks t) {s : String} (hs : s.toList ≠ []) (hk : ∀ k ∈ ks, Clash s k) :
    Unlike s t := by
  rcases h with rfl | ⟨k, hm, h⟩
  · exact fun hp => hs (List.prefix_nil.mp hp)
  · exact (hk k hm).unlike h

theorem begins (h : Opens ks t) {p : Char → Bool} (hk : ∀ k ∈ ks, k.toList.head?.any p = true) :
    Begins p t := by
  rcases h with rfl | ⟨k, hm, u, rfl⟩
  · intro c hc
    cases hc
  · exact begins_text (hk k hm) u

end Opens

/-! ## Reading -/

def Input.behind (i : Input) (r : Rendered) : Input :=
  ⟨r.sql.toList ++ i.text, r.binds ++ i.binds⟩

theorem Input.behind_append (i : Input) (a b : Rendered) :
    i.behind (a ++ b) = (i.behind b).behind a := by
  simp [behind, List.append_assoc]

theorem Input.behind_empty (i : Input) : i.behind .empty = i := by
  simp [behind, Rendered.empty]

def width (r : Rendered) : Nat := r.sql.toList.length

theorem width_append (a b : Rendered) : width (a ++ b) = width a + width b := by
  simp [width]

theorem width_text (s : String) : width (.text s) = s.toList.length := rfl

theorem Input.width_le_behind (i : Input) (r : Rendered) :
    width r ≤ (i.behind r).text.length := by
  simp [behind, width]

theorem text_append (s t : String) : Rendered.text (s ++ t) = .text s ++ .text t := rfl

theorem text_empty : Rendered.text "" = .empty := rfl

/-- Wherever the text goes on as `follow` allows, the reader takes `r` and finds `a` in it. -/
def Reads {α : Type} (p : Reader α) (r : Rendered) (a : α) (follow : List Char → Prop) : Prop :=
  ∀ i : Input, follow i.text → p.run (i.behind r) = some (a, i)

namespace Reads

variable {α β : Type} {p q : Reader α} {r r' : Rendered} {a : α} {b : β}
  {follow follow' : List Char → Prop}

theorem pure (a : α) : Reads (Pure.pure a) .empty a follow := by
  intro i _
  rw [i.behind_empty]
  rfl

theorem bind {q : α → Reader β} (hp : Reads p r a follow) (hq : Reads (q a) r' b follow')
    (hf : ∀ t, follow' t → follow (r'.sql.toList ++ t)) :
    Reads (p >>= q) (r ++ r') b follow' := by
  intro i hi
  have hfirst := hp (i.behind r') (hf i.text hi)
  rw [i.behind_append, StateT.run_bind, hfirst]
  exact hq i hi

theorem bind_any {q : α → Reader β} (hp : Reads p r a fun _ => True)
    (hq : Reads (q a) r' b follow') : Reads (p >>= q) (r ++ r') b follow' :=
  hp.bind hq fun _ _ => trivial

theorem map (hp : Reads p r a follow) (f : α → β) :
    Reads (p >>= fun a => Pure.pure (f a)) r (f a) follow := by
  rw [← r.append_empty]
  exact hp.bind (pure (f a)) fun t ht => by rwa [Rendered.toList_empty]

theorem weaken (hp : Reads p r a follow) (hf : ∀ t, follow' t → follow t) :
    Reads p r a follow' :=
  fun i hi => hp i (hf i.text hi)

theorem taken_text (s : String) : Reads (taken s) (.text s) true follow := by
  intro i _
  simp [taken, StateT.run, Input.behind, Rendered.text]

theorem taken_nothing (s : String) : Reads (taken s) .empty false (Unlike s) := by
  intro i hi
  rw [i.behind_empty]
  exact if_neg hi

theorem taken_then {s : String} (hp : Reads p r a follow) :
    Reads (do if ← taken s then p else q) (.text s ++ r) a follow :=
  (taken_text s).bind_any hp

theorem taken_else {s : String} (hq : Reads q r a follow)
    (hs : ∀ t, follow t → Unlike s (r.sql.toList ++ t)) :
    Reads (do if ← taken s then p else q) r a follow := by
  rw [← r.empty_append]
  exact (taken_nothing s).bind hq hs

theorem skip (s : String) : Reads (skip s) (.text s) () follow := by
  rw [← (Rendered.text s).append_empty]
  exact taken_then (pure ())

theorem after_keyword {k : String} (hp : Reads p r a follow) (absent : α) :
    Reads (after k p absent) (.text k ++ r) a follow :=
  taken_then hp

theorem after_nothing {k : String} (absent : α) :
    Reads (after k p absent) .empty absent (Unlike k) :=
  taken_else (pure absent) fun t ht => by rwa [Rendered.toList_empty]

theorem oneOf {written : α → String} {as : List α} (ha : a ∈ as)
    (h : ∀ b ∈ as, b ≠ a → Clash (written b) (written a)) :
    Reads (oneOf written as) (.text (written a)) a follow := by
  induction as with
  | nil => cases ha
  | cons b bs ih =>
    by_cases hb : b = a
    · subst hb
      rw [← (Rendered.text (written b)).append_empty]
      exact taken_then (pure b)
    · have hrest := ih ((List.mem_cons.mp ha).resolve_left (Ne.symm hb))
        fun c hc => h c (List.mem_cons_of_mem b hc)
      exact taken_else hrest fun t _ => unlike_text (h b List.mem_cons_self hb) t

end Reads

/-! ## Elements with a separator between them -/

def joined (s : String) : List Rendered → Rendered
  | [] => .empty
  | [r] => r
  | r :: rs => r ++ .text s ++ joined s rs

theorem joined_cons (s : String) (r r' : Rendered) (rs : List Rendered) :
    joined s (r :: r' :: rs) = r ++ (.text s ++ joined s (r' :: rs)) :=
  Rendered.append_assoc r (.text s) _

theorem list_eq_joined (rs : List Rendered) : Rendered.list rs = joined ", " rs := by
  induction rs with
  | nil => rfl
  | cons r rs ih =>
    cases rs with
    | nil => rfl
    | cons r' rs => exact congrArg (r ++ .text ", " ++ ·) ih

theorem length_le_width_joined {s : String} (hs : s.toList ≠ []) (rs : List Rendered) :
    rs.length ≤ width (joined s rs) + 1 := by
  induction rs with
  | nil => simp
  | cons r rs ih =>
    cases rs with
    | nil => simp
    | cons r' rs =>
      have hpos := List.length_pos_iff.mpr hs
      rw [joined_cons, width_append, width_append, width_text]
      simp only [List.length_cons] at ih ⊢
      omega

namespace Reads

variable {α : Type} {p : Reader α} {f : α → Rendered} {follow : List Char → Prop} {s : String}

theorem separatedWithin {n : Nat} {as : List α} (hne : as ≠ []) (hn : as.length ≤ n)
    (hp : ∀ a ∈ as, Reads p (f a) a follow) (hs : ∀ t, follow (s.toList ++ t)) :
    Reads (separatedWithin s p n) (joined s (as.map f)) as
      fun t => follow t ∧ Unlike s t := by
  induction as generalizing n with
  | nil => exact absurd rfl hne
  | cons a as ih =>
    obtain ⟨n, rfl⟩ : ∃ m, n = m + 1 := ⟨n - 1, by simp at hn; omega⟩
    have ha := hp a List.mem_cons_self
    cases as with
    | nil =>
      rw [List.map_singleton, joined, ← (f a).append_empty]
      refine ha.bind (taken_else (pure [a]) ?_) ?_
      · intro t ht
        rw [Rendered.toList_empty]
        exact ht.2
      · intro t ht
        rw [Rendered.toList_empty]
        exact ht.1
    | cons a' as =>
      have hrest := ih (by simp) (by simpa using hn) fun b hb => hp b (List.mem_cons_of_mem a hb)
      rw [List.map_cons, List.map_cons, joined_cons, ← List.map_cons]
      refine ha.bind (taken_then (hrest.map (a :: ·))) ?_
      intro t _
      rw [Rendered.sql_append, String.toList_append, List.append_assoc]
      exact hs _

/-- Elements can be told apart if what follows an element may begin with the separator. -/
theorem separated {as : List α} (hne : as ≠ []) (hs : s.toList ≠ [])
    (hp : ∀ a ∈ as, Reads p (f a) a follow) (hf : ∀ t, follow (s.toList ++ t)) :
    Reads (separated s p) (joined s (as.map f)) as fun t => follow t ∧ Unlike s t := by
  intro i hi
  have hlength := length_le_width_joined hs (as.map f)
  have hwidth := i.width_le_behind (joined s (as.map f))
  rw [List.length_map] at hlength
  have hn : as.length ≤ (i.behind (joined s (as.map f))).text.length + 1 := by
    omega
  exact separatedWithin hne hn hp hf i hi

end Reads

end SqlClient.Reading
