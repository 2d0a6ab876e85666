import SqlClient.Session.Answer
import SqlClient.Where.Filter

/-! # Calls on a WHERE tree

The calls that build or show a tree. What a call edits is known without making it, so a call on a
nested group is answered before anything is appended to the tree around it.
-/
namespace SqlClient

inductive TreeCall where
  | join (c : Connective)
  | compare (column : Ident) (operator : Operator) (v : Value)
  /-- A comparison that was begun and not finished. -/
  | dropped
  | group (body : List TreeCall)
  /-- Appends a copy of the group in a slot. -/
  | groupOf (slot : String)
  | matching (pairs : List (Ident × Value))
  | matchingColumns (columns : List Ident) (values : List Value)
  | filter (f : Filter)
  | filterDocument (d : Document)
  | hasConditions
  | view

structure TreeReply where
  answer : Answer
  edits : List Edit := []
  events : List Event := []

def TreeReply.ofFilter : Except FilterFault Filter → TreeReply
  | .ok f => { answer := .size f.size, edits := f.edits }
  | .error e => { answer := .failed (.filter e) }

namespace TreeCall

mutual

/-- The answer, the edits and the events of a call on a level of the tree. -/
def reply (groups : String → Option Conditions) (here : Conditions) : TreeCall → TreeReply
  | join c => { answer := .done, edits := [.join c] }
  | compare column operator v => { answer := .done, edits := Edit.compare column operator v }
  | dropped => { answer := .done }
  | group body =>
    let (answers, g, events) := replies groups {} body
    { answer := .each answers, edits := Edit.group g, events }
  | groupOf slot =>
    match groups slot with
    | some g => { answer := .done, edits := Edit.group g }
    | none => { answer := .noSlot }
  | matching pairs => { answer := .done, edits := Edit.matching pairs }
  | matchingColumns columns values =>
    { answer := .done
      edits := Edit.matchingColumns columns values
      events :=
        if columns.length = values.length then []
        else [.mismatchedLengths columns.length values.length] }
  | filter f => .ofFilter (.ok f)
  | filterDocument d => .ofFilter (Filter.ofDocument d)
  | hasConditions => { answer := .truth !here.isEmpty }
  | view => { answer := .tree here }

def replies (groups : String → Option Conditions) (here : Conditions) :
    List TreeCall → List Answer × Conditions × List Event
  | [] => ([], here, [])
  | c :: cs =>
    let r := reply groups here c
    let (answers, g, events) := replies groups (here.edits r.edits) cs
    (r.answer :: answers, g, r.events ++ events)

end

end TreeCall

end SqlClient
