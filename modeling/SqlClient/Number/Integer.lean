/-! # Integers and their decimal text

An integer is written in decimal with a sign only when it is negative. One is read from an
optional sign followed by at least one ASCII digit; leading zeros do no harm.
-/
namespace SqlClient.Integer

def text (n : Int) : String :=
  if n < 0 then "-" ++ Nat.repr n.natAbs else Nat.repr n.natAbs

def ofDigits (ds : List Char) : Nat :=
  ds.foldl (fun n d => n * 10 + (d.toNat - 0x30)) 0

def natural? (ds : List Char) : Option Nat :=
  if !ds.isEmpty && ds.all Char.isDigit then some (ofDigits ds) else none

def read? : List Char → Option Int
  | '-' :: ds => (natural? ds).map fun n => -(n : Int)
  | '+' :: ds => (natural? ds).map Int.ofNat
  | ds => (natural? ds).map Int.ofNat

def toInt64? (n : Int) : Option Int64 :=
  if Int64.minValue.toInt ≤ n ∧ n ≤ Int64.maxValue.toInt then some (Int64.ofInt n) else none

def toUInt64? (n : Int) : Option UInt64 :=
  if 0 ≤ n ∧ n < UInt64.size then some (UInt64.ofNat n.toNat) else none

theorem ofDigits_toDigits (n : Nat) : ofDigits (Nat.toDigits 10 n) = n := by
  have h := Nat.ofDigitChars_ten_toDigits (n := n)
  rw [Nat.ofDigitChars_eq_foldl] at h
  simp only [Nat.mul_comm 10] at h
  exact h

theorem isDigit_of_mem_repr {n : Nat} {c : Char} (h : c ∈ (Nat.repr n).toList) :
    c.isDigit = true := by
  rw [Nat.toList_repr] at h
  exact Nat.isDigit_of_mem_toDigits (by decide) (by decide) h

theorem repr_ne_nil (n : Nat) : (Nat.repr n).toList ≠ [] := by
  rw [Nat.toList_repr]
  exact Nat.toDigits_ne_nil

theorem repr_eq_cons (n : Nat) : ∃ d ds, (Nat.repr n).toList = d :: ds ∧ d.isDigit = true ∧
    ∀ c ∈ ds, c.isDigit = true := by
  obtain ⟨d, ds, hd⟩ := List.exists_cons_of_ne_nil (repr_ne_nil n)
  have hdigit : ∀ c ∈ (Nat.repr n).toList, c.isDigit = true := fun _ => isDigit_of_mem_repr
  rw [hd] at hdigit
  exact ⟨d, ds, hd, List.forall_mem_cons.mp hdigit⟩

theorem natural?_repr (n : Nat) : natural? (Nat.repr n).toList = some n := by
  have hdigits : (Nat.repr n).toList.all Char.isDigit = true :=
    List.all_eq_true.mpr fun c hc => isDigit_of_mem_repr hc
  have hne : (Nat.repr n).toList.isEmpty = false :=
    List.isEmpty_eq_false_iff.mpr (repr_ne_nil n)
  rw [natural?, hdigits, hne, Nat.toList_repr, ofDigits_toDigits]
  rfl

theorem toInt_of_toInt64? {n : Int} {i : Int64} (h : toInt64? n = some i) : i.toInt = n := by
  unfold toInt64? at h
  split at h
  · rename_i hn
    cases h
    rw [Int64.toInt_minValue, Int64.toInt_maxValue] at hn
    exact Int64.toInt_ofInt_of_le (by omega) (by omega)
  · cases h

theorem read?_of_digits {ds : List Char} (h : ∀ c ∈ ds, c.isDigit = true) :
    read? ds = (natural? ds).map Int.ofNat := by
  unfold read?
  split
  · exact absurd (h _ List.mem_cons_self) (by decide)
  · exact absurd (h _ List.mem_cons_self) (by decide)
  · rfl

theorem read?_minus (ds : List Char) :
    read? ('-' :: ds) = (natural? ds).map fun n : Nat => -(n : Int) := by
  rw [read?]
  cases natural? ds <;> rfl

theorem read?_repr (n : Nat) : read? (Nat.repr n).toList = some (n : Int) := by
  rw [read?_of_digits fun c hc => isDigit_of_mem_repr hc, natural?_repr]
  rfl

theorem toInt64?_toInt (i : Int64) : toInt64? i.toInt = some i := by
  have hlow : Int64.minValue.toInt ≤ i.toInt := by
    rw [Int64.toInt_minValue]
    exact i.le_toInt
  have hhigh : i.toInt ≤ Int64.maxValue.toInt := by
    rw [Int64.toInt_maxValue]
    exact Int.le_sub_one_of_lt i.toInt_lt
  rw [toInt64?, if_pos ⟨hlow, hhigh⟩, Int64.ofInt_toInt]

theorem toUInt64?_toNat (u : UInt64) : toUInt64? u.toNat = some u := by
  have hu : (u.toNat : Int) < UInt64.size := Int.ofNat_lt.mpr u.toNat_lt_size
  rw [toUInt64?, if_pos ⟨Int.natCast_nonneg _, hu⟩, Int.toNat_natCast, UInt64.ofNat_toNat]

end SqlClient.Integer
