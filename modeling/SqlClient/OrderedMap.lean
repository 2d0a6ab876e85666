/-! # Maps in order of insertion

A key keeps the place of its first insertion and the value of its last.
-/
namespace SqlClient

structure OrderedMap (κ ν : Type) where
  entries : List (κ × ν) := []
  deriving DecidableEq

namespace OrderedMap

variable {κ ν : Type} [DecidableEq κ]

def insertInto (k : κ) (v : ν) : List (κ × ν) → List (κ × ν)
  | [] => [(k, v)]
  | e :: es => if e.1 = k then (e.1, v) :: es else e :: insertInto k v es

def insert (m : OrderedMap κ ν) (k : κ) (v : ν) : OrderedMap κ ν :=
  ⟨insertInto k v m.entries⟩

def insertAll (m : OrderedMap κ ν) (es : List (κ × ν)) : OrderedMap κ ν :=
  es.foldl (fun m e => m.insert e.1 e.2) m

def ofList (es : List (κ × ν)) : OrderedMap κ ν := insertAll {} es

def keys (m : OrderedMap κ ν) : List κ := m.entries.map Prod.fst

def values (m : OrderedMap κ ν) : List ν := m.entries.map Prod.snd

def size (m : OrderedMap κ ν) : Nat := m.entries.length

def isEmpty (m : OrderedMap κ ν) : Bool := m.entries.isEmpty

def get? (m : OrderedMap κ ν) (k : κ) : Option ν :=
  (m.entries.find? fun e => e.1 = k).map Prod.snd

theorem get?_insert_self (m : OrderedMap κ ν) (k : κ) (v : ν) : (m.insert k v).get? k = some v := by
  unfold get? insert
  dsimp only
  induction m.entries with
  | nil => simp [insertInto]
  | cons e es ih =>
    unfold insertInto
    split
    · next he => simp [he]
    · next he => simpa [List.find?_cons_of_neg, he] using ih

theorem get?_insert_of_ne (m : OrderedMap κ ν) {k l : κ} (h : l ≠ k) (v : ν) :
    (m.insert k v).get? l = m.get? l := by
  unfold get? insert
  dsimp only
  induction m.entries with
  | nil => simp [insertInto, Ne.symm h]
  | cons e es ih =>
    unfold insertInto
    split
    · next he => simp [he, Ne.symm h]
    · by_cases hl : e.1 = l
      · simp [hl]
      · simpa [hl] using ih

theorem any_insertInto (p : κ → Bool) (k : κ) (v : ν) (es : List (κ × ν)) :
    (insertInto k v es).any (fun e => p e.1) = (p k || es.any fun e => p e.1) := by
  induction es with
  | nil => rfl
  | cons e es ih =>
    unfold insertInto
    split
    · next he => simp [he]
    · rw [List.any_cons, List.any_cons, ih, Bool.or_left_comm]

theorem any_ofList (p : κ → Bool) (es : List (κ × ν)) :
    (ofList es).entries.any (fun e => p e.1) = es.any fun e => p e.1 := by
  have hinsert : ∀ m : OrderedMap κ ν, (insertAll m es).entries.any (fun e => p e.1) =
      (m.entries.any (fun e => p e.1) || es.any fun e => p e.1) := by
    induction es with
    | nil =>
      intro m
      rw [List.any_nil, Bool.or_false]
      rfl
    | cons e es ih =>
      intro m
      refine (ih (m.insert e.1 e.2)).trans ?_
      rw [insert, any_insertInto, List.any_cons, ← Bool.or_assoc, Bool.or_comm (p e.1)]
  exact hinsert {}

theorem ofList_append (es fs : List (κ × ν)) : ofList (es ++ fs) = (ofList es).insertAll fs :=
  List.foldl_append

theorem keys_insert (m : OrderedMap κ ν) (k : κ) (v : ν) :
    (m.insert k v).keys = if k ∈ m.keys then m.keys else m.keys ++ [k] := by
  unfold keys insert
  dsimp only
  induction m.entries with
  | nil => rfl
  | cons e es ih =>
    unfold insertInto
    by_cases he : e.1 = k
    · simp [he]
    · rw [if_neg he, List.map_cons, List.map_cons, ih]
      by_cases hk : k ∈ es.map Prod.fst
      · simp [hk]
      · simp [hk, Ne.symm he]

theorem keys_insertAll (m : OrderedMap κ ν) (es : List (κ × ν)) :
    (m.insertAll es).keys = m.keys ++ ((es.map Prod.fst).removeAll m.keys).eraseDups := by
  induction es generalizing m with
  | nil => simp [insertAll, List.removeAll]
  | cons e es ih =>
    have hcons : m.insertAll (e :: es) = (m.insert e.1 e.2).insertAll es := rfl
    rw [hcons, ih, keys_insert, List.map_cons]
    by_cases he : e.1 ∈ m.keys
    · simp [he, List.removeAll]
    · have hbeq : ∀ k : κ, (k == e.1) = decide (k = e.1) := fun _ => rfl
      rw [if_neg he, List.append_assoc]
      simp [he, List.removeAll, List.eraseDups_cons, List.filter_filter, hbeq,
        Bool.and_comm]

theorem keys_ofList (es : List (κ × ν)) : (ofList es).keys = (es.map Prod.fst).eraseDups := by
  have hnone : ∀ ks : List κ, ks.removeAll [] = ks := by simp [List.removeAll]
  exact (keys_insertAll {} es).trans (congrArg List.eraseDups (hnone _))

theorem nodup_keys_insertAll {m : OrderedMap κ ν} (h : m.keys.Nodup) (es : List (κ × ν)) :
    (m.insertAll es).keys.Nodup := by
  induction es generalizing m with
  | nil => exact h
  | cons e es ih =>
    apply ih (m := m.insert e.1 e.2)
    rw [keys_insert]
    by_cases he : e.1 ∈ m.keys
    · rwa [if_pos he]
    · rw [if_neg he]
      refine List.nodup_append.mpr ⟨h, by simp, ?_⟩
      intro k hk l hl hkl
      cases List.mem_singleton.mp hl
      exact he (hkl ▸ hk)

theorem nodup_keys_ofList (es : List (κ × ν)) : (ofList es).keys.Nodup :=
  nodup_keys_insertAll (m := {}) List.nodup_nil es

theorem get?_insertAll (m : OrderedMap κ ν) (es : List (κ × ν)) (k : κ) :
    (m.insertAll es).get? k =
      ((es.filter fun e => e.1 = k).getLast?.map Prod.snd).or (m.get? k) := by
  induction es generalizing m with
  | nil => rfl
  | cons e es ih =>
    have hcons : m.insertAll (e :: es) = (m.insert e.1 e.2).insertAll es := rfl
    rw [hcons, ih]
    by_cases he : e.1 = k
    · subst he
      rw [get?_insert_self, List.filter_cons_of_pos (by simp), List.getLast?_cons]
      cases (es.filter fun f => f.1 = e.1).getLast? <;> rfl
    · rw [get?_insert_of_ne m (Ne.symm he), List.filter_cons_of_neg (by simpa using he)]

theorem get?_ofList (es : List (κ × ν)) (k : κ) :
    (ofList es).get? k = (es.filter fun e => e.1 = k).getLast?.map Prod.snd :=
  (get?_insertAll {} es k).trans (Option.or_none)

theorem map_get?_keys {m : OrderedMap κ ν} (h : m.keys.Nodup) :
    m.keys.map m.get? = m.values.map some := by
  obtain ⟨es⟩ := m
  unfold keys values get? at *
  dsimp only at h ⊢
  induction es with
  | nil => rfl
  | cons e es ih =>
    obtain ⟨he, hes⟩ := List.nodup_cons.mp h
    have hhead : ((e :: es).find? fun f => f.1 = e.1) = some e := by simp
    have htail : ∀ k ∈ es.map Prod.fst,
        ((e :: es).find? fun f => f.1 = k) = es.find? fun f => f.1 = k := by
      intro k hk
      have hne : e.1 ≠ k := fun heq => he (heq ▸ hk)
      simp [hne]
    rw [List.map_cons, List.map_cons, List.map_cons, List.map_cons, hhead, ← ih hes]
    refine congrArg (some e.2 :: ·) (List.map_congr_left fun k hk => ?_)
    rw [htail k hk]

def map {μ : Type} (f : ν → μ) (m : OrderedMap κ ν) : OrderedMap κ μ :=
  ⟨m.entries.map fun e => (e.1, f e.2)⟩

theorem get?_map {μ : Type} (f : ν → μ) (m : OrderedMap κ ν) (k : κ) :
    (m.map f).get? k = (m.get? k).map f := by
  unfold get? map
  rw [List.find?_map, Option.map_map, Option.map_map]
  rfl

theorem insert_map {μ : Type} (f : ν → μ) (m : OrderedMap κ ν) (k : κ) (v : ν) :
    (m.map f).insert k (f v) = (m.insert k v).map f := by
  unfold insert map
  congr 1
  dsimp only
  induction m.entries with
  | nil => rfl
  | cons e es ih =>
    rw [List.map_cons, insertInto, insertInto]
    by_cases he : e.1 = k
    · rw [if_pos he, if_pos he, List.map_cons]
    · rw [if_neg he, if_neg he, ih, List.map_cons]

theorem insertAll_map {μ : Type} (f : ν → μ) (m : OrderedMap κ ν) (es : List (κ × ν)) :
    (m.map f).insertAll (es.map fun e => (e.1, f e.2)) = (m.insertAll es).map f := by
  induction es generalizing m with
  | nil => rfl
  | cons e es ih =>
    have hfirst := insert_map f m e.1 e.2
    have hrest := ih (m.insert e.1 e.2)
    rw [← hfirst] at hrest
    exact hrest

theorem ofList_map {μ : Type} (f : ν → μ) (es : List (κ × ν)) :
    ofList (es.map fun e => (e.1, f e.2)) = (ofList es).map f :=
  insertAll_map f {} es

end OrderedMap

end SqlClient
