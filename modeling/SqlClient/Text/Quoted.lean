import SqlClient.Text.Hex
import SqlClient.Text.Shown

/-! # Quoted text

Text between double quotes on one line: quotes, backslashes and line ends are escaped by a
backslash, and what is not shown as itself is given by its code point.
-/
namespace SqlClient.Text

/-- The code point in braces, in small hexadecimal digits. -/
def codePoint (c : Char) : List Char :=
  '\\' :: 'u' :: '\x7b' :: (Nat.toDigits 16 c.toNat ++ ['\x7d'])

def escape (c : Char) : List Char :=
  if c = '\x00' then ['\\', '0']
  else if c = '\t' then ['\\', 't']
  else if c = '\r' then ['\\', 'r']
  else if c = '\n' then ['\\', 'n']
  else if c = '\\' || c = '"' then ['\\', c]
  else if isShown c then [c]
  else codePoint c

def quoted (s : String) : String := String.ofList ('"' :: s.toList.flatMap escape ++ ['"'])

end SqlClient.Text
