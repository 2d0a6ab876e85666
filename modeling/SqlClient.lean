import SqlClient.Calendar
import SqlClient.Command
import SqlClient.Command.Change
import SqlClient.Command.Delete
import SqlClient.Command.Insert
import SqlClient.Command.Raw
import SqlClient.Command.Select
import SqlClient.Command.Update
import SqlClient.Connection
import SqlClient.Cursor
import SqlClient.Description
import SqlClient.Document
import SqlClient.Error
import SqlClient.Event
import SqlClient.Execution
import SqlClient.Ident
import SqlClient.Number.Binary64
import SqlClient.Number.Integer
import SqlClient.Number.Shortest
import SqlClient.Operator
import SqlClient.OrderedMap
import SqlClient.Proofs.Affected
import SqlClient.Proofs.Assigned
import SqlClient.Proofs.Closing
import SqlClient.Proofs.Coherence
import SqlClient.Proofs.Counting.Calls
import SqlClient.Proofs.Counting.Number
import SqlClient.Proofs.Counting.Query
import SqlClient.Proofs.Counting.Select
import SqlClient.Proofs.Execution.Attempt
import SqlClient.Proofs.Execution.Coherence
import SqlClient.Proofs.Execution.Custody
import SqlClient.Proofs.Execution.Handles
import SqlClient.Proofs.Execution.Outcome
import SqlClient.Proofs.Execution.Position
import SqlClient.Proofs.Execution.Retry
import SqlClient.Proofs.Execution.Trace
import SqlClient.Proofs.Execution.Work
import SqlClient.Proofs.FinalRun
import SqlClient.Proofs.Formed
import SqlClient.Proofs.Freshness
import SqlClient.Proofs.IntegerText
import SqlClient.Proofs.Migration.Catalog
import SqlClient.Proofs.Migration.CatalogOnly
import SqlClient.Proofs.Migration.Ensure
import SqlClient.Proofs.Migration.Guards
import SqlClient.Proofs.Migration.Stages
import SqlClient.Proofs.Migration.Statement
import SqlClient.Proofs.Outcome
import SqlClient.Proofs.Parallel.Catalog
import SqlClient.Proofs.Parallel.Debug
import SqlClient.Proofs.Parallel.Execution
import SqlClient.Proofs.Parallel.Likeness
import SqlClient.Proofs.Parallel.Numbering
import SqlClient.Proofs.Parallel.Scripted
import SqlClient.Proofs.Parallel.Session
import SqlClient.Proofs.Parallel.Statement
import SqlClient.Proofs.Parallel.World
import SqlClient.Proofs.Phrases
import SqlClient.Proofs.Placeholder
import SqlClient.Proofs.Placeholder.Gathering
import SqlClient.Proofs.Placeholder.Names
import SqlClient.Proofs.Pool
import SqlClient.Proofs.Position
import SqlClient.Proofs.Preflight
import SqlClient.Proofs.Query
import SqlClient.Proofs.Question
import SqlClient.Proofs.Reached
import SqlClient.Proofs.Reading.Command
import SqlClient.Proofs.Reading.Name
import SqlClient.Proofs.Reading.Quoted
import SqlClient.Proofs.Reading.Reader
import SqlClient.Proofs.Reading.Tree
import SqlClient.Proofs.Recovery
import SqlClient.Proofs.Recovery.Catalog
import SqlClient.Proofs.Recovery.Operations
import SqlClient.Proofs.Required
import SqlClient.Proofs.Retained
import SqlClient.Proofs.Row
import SqlClient.Proofs.Scanning.Definition
import SqlClient.Proofs.Scanning.Escape
import SqlClient.Proofs.Scanning.Scanner
import SqlClient.Proofs.RowSet
import SqlClient.Proofs.Separator
import SqlClient.Proofs.Separator.Element
import SqlClient.Proofs.Separator.Level
import SqlClient.Proofs.Session.Reached
import SqlClient.Proofs.Session.Reuse
import SqlClient.Proofs.Session.Turns
import SqlClient.Proofs.Target
import SqlClient.Proofs.Texts
import SqlClient.Proofs.Where.Calls
import SqlClient.Proofs.Where.Document
import SqlClient.Proofs.Where.Filter
import SqlClient.Proofs.Work
import SqlClient.Rendered
import SqlClient.Row
import SqlClient.Schema.Catalog
import SqlClient.Schema.Column
import SqlClient.Schema.Definition
import SqlClient.Schema.Migration
import SqlClient.Scripted
import SqlClient.Session
import SqlClient.Session.Answer
import SqlClient.Session.SchemaCall
import SqlClient.Session.StatementCall
import SqlClient.Session.TreeCall
import SqlClient.Settings
import SqlClient.Statement
import SqlClient.Table
import SqlClient.Text.Blank
import SqlClient.Text.Case
import SqlClient.Text.Hex
import SqlClient.Text.Quoted
import SqlClient.Text.Shown
import SqlClient.Text.Utf8
import SqlClient.Value
import SqlClient.Value.Conversion
import SqlClient.Where.Condition
import SqlClient.Where.Edit
import SqlClient.Where.Filter
