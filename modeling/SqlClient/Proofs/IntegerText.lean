import Mathlib.Data.List.Induction
import Mathlib.Data.Nat.Digits.Defs
import SqlClient.Value

/-! # Integers read from their texts

A text is read as an integer exactly if it is a sign or none and at least one decimal digit, between
white space, and denotes a signed 64-bit word. So the text of an integer is read as what the integer
itself is read as, whatever white space is put around it.
-/
namespace SqlClient

namespace Integer

def digit (c : Char) : Nat := c.toNat - '0'.toNat

/-- At least one ASCII digit, and the number that the digits denote by their places. -/
structure Digits (ds : List Char) (n : Nat) : Prop where
  nonempty : ds ≠ []
  decimal : ∀ d ∈ ds, d.isDigit = true
  value : Nat.ofDigits 10 (ds.reverse.map digit) = n

/-- The texts of an integer. Any number of zeros may stand in front of its digits. -/
inductive Denotes : List Char → Int → Prop where
  | unsigned {ds : List Char} {n : Nat} : Digits ds n → Denotes ds n
  | positive {ds : List Char} {n : Nat} : Digits ds n → Denotes ('+' :: ds) n
  | negative {ds : List Char} {n : Nat} : Digits ds n → Denotes ('-' :: ds) (-n)

/-! ## Reading digits -/

theorem ofDigits_eq (ds : List Char) : ofDigits ds = Nat.ofDigits 10 (ds.reverse.map digit) := by
  induction ds using List.reverseRecOn with
  | nil => rfl
  | append_singleton ds d ih =>
    have hstep : ofDigits (ds ++ [d]) = ofDigits ds * 10 + digit d := by
      simp [ofDigits, digit]
    rw [hstep, ih, List.reverse_concat, List.map_cons, Nat.ofDigits_cons]
    omega

theorem natural?_eq_some_iff {ds : List Char} {n : Nat} : natural? ds = some n ↔ Digits ds n := by
  have hguard : (!ds.isEmpty && ds.all Char.isDigit) = true ↔
      ds ≠ [] ∧ ∀ d ∈ ds, d.isDigit = true := by
    rw [Bool.and_eq_true, Bool.not_eq_true', List.isEmpty_eq_false_iff, List.all_eq_true]
  rw [natural?, ofDigits_eq, Option.ite_none_right_eq_some, hguard]
  constructor
  · rintro ⟨⟨hne, hdigits⟩, hvalue⟩
    exact ⟨hne, hdigits, Option.some.inj hvalue⟩
  · rintro ⟨hne, hdigits, rfl⟩
    exact ⟨⟨hne, hdigits⟩, rfl⟩

/-! ## Reading signs -/

theorem read?_eq_some_iff {cs : List Char} {n : Int} : read? cs = some n ↔ Denotes cs n := by
  constructor
  · intro h
    unfold read? at h
    split at h
    · obtain ⟨k, hk, rfl⟩ := Option.map_eq_some_iff.mp ((read?_minus _).symm.trans h)
      exact .negative (natural?_eq_some_iff.mp hk)
    · obtain ⟨k, hk, rfl⟩ := Option.map_eq_some_iff.mp h
      exact .positive (natural?_eq_some_iff.mp hk)
    · obtain ⟨k, hk, rfl⟩ := Option.map_eq_some_iff.mp h
      exact .unsigned (natural?_eq_some_iff.mp hk)
  · intro h
    cases h with
    | unsigned hds =>
      rw [read?_of_digits hds.decimal, natural?_eq_some_iff.mpr hds]
      rfl
    | positive hds =>
      rw [read?, natural?_eq_some_iff.mpr hds]
      rfl
    | negative hds =>
      rw [read?_minus, natural?_eq_some_iff.mpr hds]
      rfl

theorem Denotes.no_blank {cs : List Char} {n : Int} (h : Denotes cs n) :
    ∀ c ∈ cs, Text.isBlank c = false := by
  cases h with
  | unsigned hds => exact fun c hc => Text.isBlank_of_isDigit (hds.decimal c hc)
  | positive hds | negative hds =>
    exact List.forall_mem_cons.mpr
      ⟨by decide, fun c hc => Text.isBlank_of_isDigit (hds.decimal c hc)⟩

/-! ## Writing -/

theorem denotes_text (n : Int) : Denotes (text n).toList n := by
  have hdigits := natural?_eq_some_iff.mp (natural?_repr n.natAbs)
  unfold text
  by_cases hn : n < 0
  · have hnegative := Denotes.negative hdigits
    have habs : -(n.natAbs : Int) = n := by omega
    rw [habs] at hnegative
    rw [if_pos hn, String.toList_append]
    exact hnegative
  · have hunsigned := Denotes.unsigned hdigits
    have habs : (n.natAbs : Int) = n := by omega
    rw [habs] at hunsigned
    rw [if_neg hn]
    exact hunsigned

/-! ## Signed words -/

theorem map_toInt64? (n : Int) :
    (toInt64? n).map Int64.toInt = if -2 ^ 63 ≤ n ∧ n < 2 ^ 63 then some n else none := by
  have hrange : Int64.minValue.toInt ≤ n ∧ n ≤ Int64.maxValue.toInt ↔ -2 ^ 63 ≤ n ∧ n < 2 ^ 63 := by
    rw [Int64.toInt_minValue, Int64.toInt_maxValue]
    omega
  rw [toInt64?]
  by_cases hn : -2 ^ 63 ≤ n ∧ n < 2 ^ 63
  · rw [if_pos (hrange.mpr hn), if_pos hn, Option.map_some, Int64.toInt_ofInt_of_le hn.1 hn.2]
  · rw [if_neg fun h => hn (hrange.mp h), if_neg hn, Option.map_none]

end Integer

namespace Value

def integer? : Value → Option Int
  | int i => some i.toInt
  | uint u => some u.toNat
  | _ => none

theorem text?_of_integer {v : Value} {n : Int} (h : v.integer? = some n) :
    v.text? = some (Integer.text n) := by
  cases v with
  | int i | uint u =>
    cases h
    rfl
  | null | bool | float | text | bytes => cases h

theorem int64?_of_integer {v : Value} {n : Int} (h : v.integer? = some n) :
    v.int64? = Integer.toInt64? n := by
  cases v with
  | int i =>
    cases h
    exact (Integer.toInt64?_toInt i).symm
  | uint u =>
    cases h
    rfl
  | null | bool | float | text | bytes => cases h

theorem int64?_padded {t : String} {n : Int} (h : Integer.Denotes t.toList n)
    {before after : String} (hb : ∀ c ∈ before.toList, Text.isBlank c = true)
    (ha : ∀ c ∈ after.toList, Text.isBlank c = true) :
    (text (before ++ t ++ after)).int64? = Integer.toInt64? n := by
  rw [int64?, String.toList_append, String.toList_append, Text.trim_of_no_blank h.no_blank hb ha,
    Integer.read?_eq_some_iff.mpr h, Option.bind_some]

theorem map_int64?_text (s : String) :
    (text s).int64?.map Int64.toInt = (Integer.read? (Text.trim s.toList)).bind fun n =>
      if -2 ^ 63 ≤ n ∧ n < 2 ^ 63 then some n else none := by
  rw [int64?, Option.map_bind]
  exact congrArg _ (funext Integer.map_toInt64?)

/-- The text of an integer, with any white space in front of it and behind it, is read as what the
integer is read as: the integer itself if it is a signed word, and nothing otherwise. A text is read
as a number exactly if it denotes this number in decimal when the white space at its ends is taken
off, and the number is a signed word. -/
theorem integers_read_from_texts :
    (∀ (v : Value) (n : Int), v.integer? = some n → ∀ before after : String,
      (∀ c ∈ before.toList, Text.isBlank c = true) → (∀ c ∈ after.toList, Text.isBlank c = true) →
        ∃ t, v.text? = some t ∧ (text (before ++ t ++ after)).int64? = v.int64? ∧
          v.int64?.map Int64.toInt = if -2 ^ 63 ≤ n ∧ n < 2 ^ 63 then some n else none) ∧
    ∀ (s : String) (n : Int), (text s).int64?.map Int64.toInt = some n ↔
      (∃ cs, Text.Trimmed s.toList cs ∧ Integer.Denotes cs n) ∧ -2 ^ 63 ≤ n ∧ n < 2 ^ 63 := by
  refine ⟨fun v n hv before after hb ha => ?_, fun s n => ?_⟩
  · refine ⟨Integer.text n, text?_of_integer hv, ?_, ?_⟩
    · rw [int64?_padded (Integer.denotes_text n) hb ha, int64?_of_integer hv]
    · rw [int64?_of_integer hv, Integer.map_toInt64?]
  · rw [map_int64?_text, Option.bind_eq_some_iff]
    constructor
    · rintro ⟨k, hk, hword⟩
      obtain ⟨hrange, hkn⟩ := Option.ite_none_right_eq_some.mp hword
      cases hkn
      exact ⟨⟨_, Text.trimmed_trim _, Integer.read?_eq_some_iff.mp hk⟩, hrange⟩
    · rintro ⟨⟨cs, hcs, hn⟩, hrange⟩
      rw [Text.trim_eq_iff.mpr hcs]
      exact ⟨n, Integer.read?_eq_some_iff.mpr hn, if_pos hrange⟩

/-- The least signed word between two kinds of white space, the largest unsigned word, which is no
signed one, and a number with a sign and zeros in front. -/
theorem padded_integers_read :
    let v := int Int64.minValue
    let u := uint 0xFFFFFFFFFFFFFFFF
    v.integer? = some (-2 ^ 63) ∧ u.integer? = some (2 ^ 64 - 1) ∧
      (∀ c ∈ "\u2003".toList, Text.isBlank c = true) ∧ (∀ c ∈ "\n".toList, Text.isBlank c = true) ∧
      v.text? = some "-9223372036854775808" ∧ u.text? = some "18446744073709551615" ∧
      (text ("\u2003" ++ "-9223372036854775808" ++ "\n")).int64? = some Int64.minValue ∧
      (text ("\u2003" ++ "18446744073709551615" ++ "\n")).int64? = none ∧
      Text.Trimmed " +007\u3000".toList "+007".toList ∧ Integer.Denotes "+007".toList 7 ∧
      (text " +007\u3000").int64?.map Int64.toInt = some 7 := by
  intro v u
  obtain ⟨hpadded, hread⟩ := integers_read_from_texts
  have hv : v.integer? = some (-2 ^ 63) := rfl
  have hu : u.integer? = some (2 ^ 64 - 1) := rfl
  have hb : ∀ c ∈ "\u2003".toList, Text.isBlank c = true :=
    List.all_eq_true.mp (by decide)
  have ha : ∀ c ∈ "\n".toList, Text.isBlank c = true := List.all_eq_true.mp (by decide)
  have htextv : v.text? = some "-9223372036854775808" := by decide
  have htextu : u.text? = some "18446744073709551615" := by decide
  obtain ⟨t, ht, hleast, -⟩ := hpadded v _ hv _ _ hb ha
  obtain ⟨s, hs, hlargest, -⟩ := hpadded u _ hu _ _ hb ha
  rw [htextv] at ht
  rw [htextu] at hs
  cases ht
  cases hs
  have htrimmed : Text.Trimmed " +007\u3000".toList "+007".toList :=
    Text.trim_eq_iff.mp (by decide)
  have hdigits : Integer.Digits "007".toList 7 :=
    ⟨by decide, List.all_eq_true.mp (by decide), by decide⟩
  have hdenotes : Integer.Denotes "+007".toList 7 := .positive hdigits
  exact ⟨hv, hu, hb, ha, htextv, htextu, hleast, hlargest, htrimmed, hdenotes,
    (hread _ 7).mpr ⟨⟨_, htrimmed, hdenotes⟩, by decide⟩⟩

end Value

end SqlClient
