import SqlClient.Text.Case

/-! # Names of tables and columns

A dot splits a name into parts. Every part is written between backticks with each backtick in it
twice, except the part `*`, which stands for all columns and is written bare.
-/
namespace SqlClient

structure Ident where
  name : String
  deriving DecidableEq

namespace Ident

def mark : Char := '\x60'

/-- The parts between the dots; there is one more than there are dots. -/
def parts : List Char → List (List Char)
  | [] => [[]]
  | c :: cs =>
    if c = '.' then [] :: parts cs
    else
      match parts cs with
      | [] => [[c]]
      | p :: ps => (c :: p) :: ps

def doubleMarks (cs : List Char) : List Char :=
  cs.flatMap fun c => if c = mark then [mark, mark] else [c]

def quotePart (part : List Char) : List Char :=
  if part = ['*'] then part else mark :: doubleMarks part ++ [mark]

def quoteChars (cs : List Char) : List Char :=
  List.intercalate ['.'] ((parts cs).map quotePart)

def quoted (i : Ident) : String := String.ofList (quoteChars i.name.toList)

/-- Whether a column or table of this name is meant, up to ASCII case. -/
def isNamed (i : Ident) (name : String) : Bool := Text.sameName i.name name

theorem parts_ne_nil (cs : List Char) : parts cs ≠ [] := by
  cases cs with
  | nil => simp [parts]
  | cons c cs =>
    unfold parts
    split
    · simp
    · split <;> simp

end Ident

end SqlClient
