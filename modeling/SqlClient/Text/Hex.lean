/-! # Bytes as hexadecimal digits -/
namespace SqlClient.Text.Hex

/-- The small hexadecimal digit of a number below sixteen. -/
def digit (n : Nat) : Char :=
  if n < 10 then Char.ofNat (0x30 + n) else Char.ofNat (0x57 + n)

/-- The capital hexadecimal digit of a number below sixteen. -/
def capital (n : Nat) : Char :=
  if n < 10 then Char.ofNat (0x30 + n) else Char.ofNat (0x37 + n)

/-- Two digits a byte, the high half first. -/
def encode (digit : Nat → Char) (bs : List UInt8) : List Char :=
  bs.flatMap fun b => [digit (b.toNat / 16), digit (b.toNat % 16)]

end SqlClient.Text.Hex
