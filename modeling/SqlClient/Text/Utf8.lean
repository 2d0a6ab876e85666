/-! # Reading bytes as UTF-8

Every maximal ill-formed part of the bytes is read as one U+FFFD, so reading never fails.
-/
namespace SqlClient.Text.Utf8

/-- A character of which some bytes are still owed; the next of them lies in `low … high`. -/
structure Pending where
  owed : Nat
  low : Nat
  high : Nat
  bits : Nat

inductive Lead where
  | complete (c : Char)
  | begun (p : Pending)
  | invalid

def replacement : Char := '\uFFFD'

def lead (b : Nat) : Lead :=
  if b < 0x80 then .complete (Char.ofNat b)
  else if b < 0xC2 then .invalid
  else if b < 0xE0 then .begun ⟨1, 0x80, 0xBF, b - 0xC0⟩
  else if b = 0xE0 then .begun ⟨2, 0xA0, 0xBF, 0⟩
  else if b = 0xED then .begun ⟨2, 0x80, 0x9F, 0xD⟩
  else if b < 0xF0 then .begun ⟨2, 0x80, 0xBF, b - 0xE0⟩
  else if b = 0xF0 then .begun ⟨3, 0x90, 0xBF, 0⟩
  else if b < 0xF4 then .begun ⟨3, 0x80, 0xBF, b - 0xF0⟩
  else if b = 0xF4 then .begun ⟨3, 0x80, 0x8F, 4⟩
  else .invalid

/-- The characters finished by the byte `b` at the start of a character, and what stays owed. -/
def start (b : Nat) : List Char × Option Pending :=
  match lead b with
  | .complete c => ([c], none)
  | .begun p => ([], some p)
  | .invalid => ([replacement], none)

def step (b : Nat) : Option Pending → List Char × Option Pending
  | none => start b
  | some p =>
    if p.low ≤ b && b ≤ p.high then
      let bits := p.bits * 64 + (b - 0x80)
      if p.owed ≤ 1 then ([Char.ofNat bits], none)
      else ([], some ⟨p.owed - 1, 0x80, 0xBF, bits⟩)
    else
      let (cs, next) := start b
      (replacement :: cs, next)

def decodeFrom : Option Pending → List UInt8 → List Char
  | none, [] => []
  | some _, [] => [replacement]
  | p, b :: bs =>
    let (cs, next) := step b.toNat p
    cs ++ decodeFrom next bs

def decode (bs : List UInt8) : List Char := decodeFrom none bs

/-- The characters that the first `n` bytes of a text hold. There are none if the text is shorter or
a character of it lies across the end. -/
def take? : Nat → List Char → Option (List Char)
  | 0, _ => some []
  | _ + 1, [] => none
  | n + 1, c :: cs =>
    if c.utf8Size ≤ n + 1 then (take? (n + 1 - c.utf8Size) cs).map fun head => c :: head else none

theorem take?_append {head : List Char} (h : ∀ c ∈ head, c.utf8Size = 1) (rest : List Char) :
    take? head.length (head ++ rest) = some head := by
  induction head with
  | nil => rw [List.length_nil, take?]
  | cons c cs ih =>
    obtain ⟨hc, hcs⟩ := List.forall_mem_cons.mp h
    rw [List.length_cons, List.cons_append, take?, hc, if_pos (Nat.le_add_left 1 _),
      Nat.add_sub_cancel, ih hcs, Option.map_some]

theorem prefix_of_take? {n : Nat} {cs head : List Char} (h : take? n cs = some head) :
    head <+: cs := by
  induction n, cs using take?.induct generalizing head with
  | case1 cs =>
    rw [take?] at h
    cases h
    exact List.nil_prefix
  | case2 n => cases h
  | case3 n c cs hc ih =>
    rw [take?, if_pos hc] at h
    obtain ⟨tail, htail, rfl⟩ := Option.map_eq_some_iff.mp h
    exact List.cons_prefix_cons.mpr ⟨rfl, ih htail⟩
  | case4 n c cs hc =>
    rw [take?, if_neg hc] at h
    cases h

end SqlClient.Text.Utf8
