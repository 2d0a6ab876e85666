import SqlClient.Ident
import SqlClient.Settings

/-! # Tables

A table is a name and the settings of the database it belongs to; whether it exists is read from
the catalog whenever it matters.
-/
namespace SqlClient

structure Table where
  name : Ident
  settings : Settings

end SqlClient
