/-! # Binary floating-point numbers

A number is its bits: a sign, the exponent, the fraction. The wide ones have eleven bits of exponent
and fifty-two of fraction, the narrow ones eight and twenty-three.
-/
namespace SqlClient

structure Binary64 where
  bits : UInt64
  deriving DecidableEq

namespace Binary64

inductive Magnitude where
  | nan
  | infinite
  /-- The number `significand * 2 ^ exponent`. -/
  | finite (significand : Nat) (exponent : Int)

def isNegative (x : Binary64) : Bool := x.bits.toNat / Nat.pow 2 63 == 1

def magnitude (x : Binary64) : Magnitude :=
  let exponent : Nat := x.bits.toNat / Nat.pow 2 52 % Nat.pow 2 11
  let fraction : Nat := x.bits.toNat % Nat.pow 2 52
  if exponent = Nat.pow 2 11 - 1 then
    if fraction = 0 then .infinite else .nan
  else if exponent = 0 then .finite fraction (-1074)
  else .finite (Nat.pow 2 52 + fraction) (exponent - 1075 : Int)

def isNaN (x : Binary64) : Bool :=
  match x.magnitude with
  | .nan => true
  | _ => false

def ofFields (negative : Bool) (exponent fraction : Nat) : Binary64 :=
  ⟨UInt64.ofNat ((if negative then Nat.pow 2 63 else 0) + exponent * Nat.pow 2 52 + fraction)⟩

end Binary64

structure Binary32 where
  bits : UInt32
  deriving DecidableEq

/-- The same number in the wide form; every narrow one has one. A subnormal one becomes normal:
its leading bit turns into the implicit one. -/
def Binary32.widen (x : Binary32) : Binary64 :=
  let negative := x.bits.toNat / Nat.pow 2 31 == 1
  let exponent : Nat := x.bits.toNat / Nat.pow 2 23 % Nat.pow 2 8
  let fraction : Nat := x.bits.toNat % Nat.pow 2 23
  if exponent = Nat.pow 2 8 - 1 then
    .ofFields negative (Nat.pow 2 11 - 1)
      (if fraction = 0 then 0 else Nat.pow 2 51 + fraction % Nat.pow 2 22 * Nat.pow 2 29)
  else if exponent = 0 then
    if fraction = 0 then .ofFields negative 0 0
    else
      let top := fraction.log2
      .ofFields negative (top + 874) ((fraction - Nat.pow 2 top) * Nat.pow 2 (52 - top))
  else .ofFields negative (exponent + 896) (fraction * Nat.pow 2 29)

end SqlClient
