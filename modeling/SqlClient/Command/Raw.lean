import SqlClient.Command.Change
import SqlClient.Text.Blank
import SqlClient.Text.Utf8

/-! # Statements written by hand

The text is run as given, with the values in the order in which they were bound.
-/
namespace SqlClient

structure Raw where
  run : Rendered

namespace Raw

/-- Whether the first six bytes of the text, after white space, are the word SELECT in any case. -/
def isSelect (q : Raw) : Bool :=
  (Text.Utf8.take? 6 (Text.trimStart q.run.sql.toList)).any fun head =>
    head.map Char.toLower == "select".toList

/-- The text without white space at its ends and without the semicolons that end it then. -/
def inner (q : Raw) : List Char :=
  ((Text.trim q.run.sql.toList).reverse.dropWhile (· == ';')).reverse

def count (q : Raw) : Rendered :=
  .text "SELECT COUNT(*) FROM (" ++ ⟨String.ofList q.inner, q.run.binds⟩ ++ .text ") AS " ++
    .ident ⟨"counted"⟩

def change? (q : Raw) : Change → Option Raw
  | .bind v => some ⟨{ q.run with binds := q.run.binds ++ [v] }⟩
  | .binds vs => some ⟨{ q.run with binds := q.run.binds ++ vs }⟩
  | .clearBinds => some ⟨{ q.run with binds := [] }⟩
  | _ => none

end Raw

end SqlClient
