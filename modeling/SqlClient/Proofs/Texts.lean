import SqlClient.Proofs.Parallel.Numbering
import SqlClient.Proofs.Row

/-! # Results as texts

Three accessors have a counterpart that answers with texts. Whatever has been called before, the
counterpart gives the answer of the accessor with a text for every value, and leaves the cursor where
the accessor would have left it.
-/
namespace SqlClient

theorem Execution.Alike.cursor {g : Bool → Bool} {K : Handle → Handle → Prop} {x y : Execution}
    (h : x.Alike g K y) : y.cursor = x.cursor ∧ y.fresh = x.fresh := by
  cases h
  exact ⟨rfl, rfl⟩

/-- The answer with every value in it replaced by its text. -/
def Answer.texts : Answer → Answer
  | row r => strings (r.map fun r => r.values.map Value.text?)
  | map m => stringMap (m.map fun m => m.map Value.text?)
  | maps ms => stringMaps (ms.map fun m => m.map Value.text?)
  | a => a

/-- The accessor that answers with texts where this one answers with values. -/
def Accessor.texts? : Accessor → Option Accessor
  | row => some rowStrings
  | map => some mapStrings
  | set => some setStrings
  | _ => none

namespace Answer

theorem texts_eq_failed_iff {a : Answer} {e : QueryError} : a.texts = failed e ↔ a = failed e := by
  cases a <;> simp [texts]

theorem of_eq_texts {α : Type} {f g : α → Answer} (h : ∀ x, g x = (f x).texts)
    (result : Except QueryError α) : Answer.of g result = (Answer.of f result).texts := by
  cases result with
  | ok x => exact h x
  | error e => rfl

end Answer

namespace Statement

theorem answered_eq_texts {σ α : Type} {f g : α → Answer} (h : ∀ x, g x = (f x).texts)
    (a : After σ Statement (Except QueryError α)) :
    answered g a = ⟨(answered f a).result.texts, (answered f a).next, (answered f a).world⟩ := by
  unfold answered
  rw [Answer.of_eq_texts h]

/-- In one and the same state the counterpart gives the texts and leaves what the accessor leaves. -/
theorem access_texts {σ : Type} [Connection σ] {a b : Accessor} (hb : a.texts? = some b)
    (s : Statement) (w : World σ) :
    s.access w b = ⟨(s.access w a).result.texts, (s.access w a).next, (s.access w a).world⟩ := by
  cases a with
  | row =>
    cases hb
    exact answered_eq_texts (f := .row) (fun _ => rfl) (s.fetch (.move .next) w)
  | map =>
    cases hb
    refine answered_eq_texts (f := fun row => .map (row.map Row.toMap)) (fun row => ?_)
      (s.fetch .current w)
    have hrow : row.map Row.toStringMap = (row.map Row.toMap).map fun m => m.map Value.text? := by
      rw [Option.map_map]
      exact congrArg row.map (funext Row.toStringMap_eq)
    exact congrArg Answer.stringMap hrow
  | set =>
    cases hb
    exact answered_eq_texts (f := .maps) (fun _ => rfl) (s.set w)
  | rowFirst | rowLast | rowAt | rowStrings | mapStrings | setStrings | affectedRows => cases hb

variable {σ τ : Type} [Connection σ] [Connection τ] {K : Handle → Handle → Prop}
  {R : σ → τ → Prop} {s t s' t' : Statement} {w : World σ} {v : World τ}

/-- The same calls have been made on two statements whose drivers answer the same. Now one of them
is asked for values and the other for texts: the second answer is the first with every value replaced
by its text, in the same order and under the same labels. Where there is no row for the one there is
none for the other, and where the one fails the other fails with the same error. Both cursors stand
at the same position afterwards, and the statements may go on being asked alike. -/
theorem texts_of_values (hR : Consonant K R) (hs : s.Alike id K t) (h : Apace K R s t s' w t' v)
    {a b : Accessor} (hb : a.texts? = some b) :
    (t'.access v b).result = (s'.access w a).result.texts ∧
      (∀ e, (t'.access v b).result = .failed e ↔ (s'.access w a).result = .failed e) ∧
      (t'.access v b).next.execution.cursor = (s'.access w a).next.execution.cursor ∧
      (t'.access v b).next.execution.fresh = (s'.access w a).next.execution.fresh ∧
      (s'.access w a).next.Alike id K (t'.access v b).next ∧
      s'.access w b = ⟨(s'.access w a).result.texts, (s'.access w a).next, (s'.access w a).world⟩ := by
  obtain ⟨hs', hw⟩ := h.alike hR hs
  have hsame := access_alike hR.likeness hw hs' a
  have hresult : (t'.access v b).result = (s'.access w a).result.texts := by
    rw [access_texts hb, hsame.same]
  have hnext : (s'.access w a).next.Alike id K (t'.access v b).next := by
    rw [access_texts hb]
    exact hsame.next
  obtain ⟨hcursor, hfresh⟩ := hnext.execution.cursor
  refine ⟨hresult, fun e => ?_, hcursor, hfresh, hnext, access_texts hb s' w⟩
  rw [hresult, Answer.texts_eq_failed_iff]

/-- After the first row of two, with a label that is repeated and a row that is too short, the rows
are asked for as values on a connection that has prepared nothing before, and as texts on one that
has prepared four statements. -/
theorem rows_given_as_values_and_texts :
    let set : RowSet :=
      { columns := ["a", "b", "a"], rows := [[.int 1, .null, .bytes [0x41]], [.bool true]] }
    let d : Scripted := { responses := [{ reply := .outcome (.rows ⟨set, []⟩) }] }
    let w : World Scripted := { driver := d }
    let v : World Scripted := { driver := d, prepared := 4 }
    let s := Table.select ⟨⟨"t"⟩, {}⟩
    let a := s.access w .row
    let b := s.access v .row
    s.Alike id (fun h k => k.text = h.text) s ∧
      Apace (fun h k => k.text = h.text) Scripted.Resembles s s a.next a.world b.next b.world ∧
      Accessor.texts? .set = some .setStrings ∧
      (a.next.access a.world .set).result =
        .maps [⟨[("a", .bytes [0x41]), ("b", .null)]⟩, ⟨[("a", .bool true)]⟩] ∧
      (b.next.access b.world .setStrings).result =
        .stringMaps [⟨[("a", some "A"), ("b", none)]⟩, ⟨[("a", some "true")]⟩] ∧
      (b.next.access b.world .setStrings).next.execution.cursor =
        (a.next.access a.world .set).next.execution.cursor := by
  intro set d w v s a b
  have hs : s.Alike id (fun h k => k.text = h.text) s := .recast (.recast .none)
  have hstep : World.InStep (fun h k => k.text = h.text) Scripted.Resembles w v :=
    ⟨⟨rfl, rfl, rfl, rfl, rfl, rfl⟩, fun _ _ => rfl⟩
  have hpace : Apace (fun h k => k.text = h.text) Scripted.Resembles s s a.next a.world b.next
      b.world := .call (fun _ => none) (.access .row) (.start hstep) rfl rfl
  have htexts : Accessor.texts? .set = some .setStrings := rfl
  have hvalues : (a.next.access a.world .set).result =
      .maps [⟨[("a", .bytes [0x41]), ("b", .null)]⟩, ⟨[("a", .bool true)]⟩] := by
    rfl
  obtain ⟨hresult, -, hcursor, -⟩ :=
    texts_of_values (Scripted.consonant_resembles id) hs hpace htexts
  rw [hvalues] at hresult
  exact ⟨hs, hpace, htexts, hvalues, hresult, hcursor⟩

end Statement

end SqlClient
