import SqlClient.Number.Binary64

/-! # The shortest decimal that reads back

Among the decimals that round to a given binary number the one with the fewest digits is written,
and of several the nearest; a tie goes away from zero. The text is always positional.
-/
namespace SqlClient.Binary64

/-- A positive number and the ends of the interval of reals that round to it, over one
denominator. The ends belong to it when the significand is even. -/
structure Rounding where
  value : Nat
  low : Nat
  high : Nat
  denominator : Nat
  closed : Bool

/-- Everything in quarters of the last binary place; below a power of two the gap is half as
wide. -/
def rounding (significand : Nat) (exponent : Int) : Rounding :=
  let below := if significand = Nat.pow 2 52 && -1074 < exponent then 1 else 2
  let up := Nat.pow 2 (exponent - 2).toNat
  { value := 4 * significand * up
    low := (4 * significand - below) * up
    high := (4 * significand + 2) * up
    denominator := Nat.pow 2 (2 - exponent).toNat
    closed := significand % 2 == 0 }

def Rounding.contains (r : Rounding) (unit n : Nat) : Bool :=
  if r.closed then r.low ≤ n * unit && n * unit ≤ r.high
  else r.low < n * unit && n * unit < r.high

/-- The nearer of the two neighbours of the value on a decimal grid that lie in the interval. -/
def Rounding.onGrid (r : Rounding) (unit : Nat) : Option Nat :=
  let down := r.value / unit
  let up := down + 1
  match r.contains unit down, r.contains unit up with
  | true, true => some (if 2 * (r.value - down * unit) < unit then down else up)
  | true, false => some down
  | false, true => some up
  | false, false => none

/-- The number scaled so that `10 ^ places` becomes its unit. -/
def Rounding.scaled (r : Rounding) (places : Int) : Rounding × Nat :=
  let up := Nat.pow 10 (-places).toNat
  ({ r with value := r.value * up, low := r.low * up, high := r.high * up },
    r.denominator * Nat.pow 10 places.toNat)

/-- How many zeros stand between the point and the first digit of a fraction below one. -/
def zerosAfterPoint (value denominator : Nat) : Nat → Nat
  | 0 => 0
  | fuel + 1 =>
    if denominator ≤ value * 10 then 0 else zerosAfterPoint (value * 10) denominator fuel + 1

/-- One more than the exponent of the leading decimal digit. The least number is above
`10 ^ (-324)`. -/
def decimalPoint (r : Rounding) : Int :=
  if r.denominator ≤ r.value then (Nat.repr (r.value / r.denominator)).length
  else -(zerosAfterPoint r.value r.denominator 324 : Int)

/-- The first grid, from one digit on, that has a point in the interval. -/
def shortestFrom (r : Rounding) (point : Int) (digits : Nat) : Nat → Nat × Int
  | 0 => (0, 0)
  | fuel + 1 =>
    let places := point - digits
    let (s, unit) := r.scaled places
    match s.onGrid unit with
    | some n => (n, places)
    | none => shortestFrom r point (digits + 1) fuel

/-- A significand and a decimal exponent. Seventeen digits always suffice. -/
def shortest (significand : Nat) (exponent : Int) : Nat × Int :=
  let r := rounding significand exponent
  shortestFrom r (decimalPoint r) 1 17

/-- The text of `n * 10 ^ places` without an exponent and without needless zeros after the
point. -/
def positional (n : Nat) (places : Int) : String :=
  if 0 ≤ places then Nat.repr (n * Nat.pow 10 places.toNat)
  else
    let digits := (Nat.repr n).toList
    let after := (-places).toNat
    let padded := List.replicate (after + 1 - digits.length) '0' ++ digits
    let whole := padded.take (padded.length - after)
    let rest := ((padded.drop (padded.length - after)).reverse.dropWhile (· == '0')).reverse
    String.ofList (if rest.isEmpty then whole else whole ++ '.' :: rest)

/-- A whole number has no point, zero keeps its sign, and a NaN has none. -/
def text (x : Binary64) : String :=
  let sign := if x.isNegative then "-" else ""
  match x.magnitude with
  | .nan => "NaN"
  | .infinite => sign ++ "inf"
  | .finite 0 _ => sign ++ "0"
  | .finite significand exponent =>
    let (n, places) := shortest significand exponent
    sign ++ positional n places

end SqlClient.Binary64
