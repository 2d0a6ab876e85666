import SqlClient.Proofs.Reading.Name
import SqlClient.Proofs.Scanning.Definition

/-! # Quoted names

A quoted name is read back part by part, whatever stands in it, and the reader stops where the name
ends. So no two names are quoted alike, and nothing in a name can reach the text behind it.
-/
namespace SqlClient

namespace Ident

theorem intercalate_splitOn_eq (c : Char) (between cs : List Char) :
    List.intercalate between (cs.splitOn c) =
      cs.flatMap fun d => if d = c then between else [d] := by
  induction cs with
  | nil => rfl
  | cons d cs ih =>
    obtain ⟨p, ps, hp⟩ := List.exists_cons_of_ne_nil (List.splitOnP_ne_nil (· == c) cs)
    unfold List.splitOn at ih ⊢
    rw [List.splitOnP_cons_eq_if_modifyHead, List.flatMap_cons, ← ih, hp]
    by_cases hd : d = c
    · rw [if_pos (beq_iff_eq.mpr hd), if_pos hd, List.intercalate_cons_cons, List.nil_append]
    · rw [if_neg (mt beq_iff_eq.mp hd), if_neg hd, List.modifyHead_cons]
      cases ps with
      | nil => simp
      | cons p' ps => simp [List.intercalate_cons_cons]

theorem quotePart_eq {p : List Char} (h : p ≠ ['*']) :
    quotePart p = mark :: (List.intercalate [mark, mark] (p.splitOn mark) ++ [mark]) := by
  rw [quotePart, if_neg h, intercalate_splitOn_eq]
  rfl

end Ident

namespace Reading

/-- In front of any text that begins with neither a mark nor a dot, the parts of a name are read from
its quoted form, and just that text is left. Dots separate the parts, a star is written bare, and in
every other part each mark is doubled. A name can be told from its quoted form. -/
theorem quoted_name_read_back (i : Ident) :
    (∀ t binds, Begins endsName t →
      (separated "." part).run ⟨i.quoted.toList ++ t, binds⟩ =
        some (i.name.toList.splitOn '.', ⟨t, binds⟩)) ∧
      i.quoted.toList =
        List.intercalate ['.'] ((i.name.toList.splitOn '.').map Ident.quotePart) ∧
      Ident.quotePart ['*'] = ['*'] ∧
      (∀ p, p ≠ ['*'] → Ident.quotePart p =
        Ident.mark :: (List.intercalate [Ident.mark, Ident.mark] (p.splitOn Ident.mark) ++
          [Ident.mark])) ∧
      ∀ j : Ident, j.quoted = i.quoted → j = i := by
  have hread : ∀ (j : Ident) (t : List Char) (binds : List Value), Begins endsName t →
      (separated "." part).run ⟨j.quoted.toList ++ t, binds⟩ =
        some (j.name.toList.splitOn '.', ⟨t, binds⟩) := by
    intro j t binds ht
    rw [← Ident.parts_eq_splitOn]
    exact reads_parts j ⟨t, binds⟩ ht
  refine ⟨hread i, ?_, if_pos rfl, fun p hp => Ident.quotePart_eq hp, fun j hj => ?_⟩
  · rw [Ident.quoted, String.toList_ofList, Ident.quoteChars, Ident.parts_eq_splitOn]
  · have hnone : Begins endsName [] := by simp [Begins]
    have hi := hread i [] [] hnone
    rw [← hj, hread j [] [] hnone] at hi
    injection Option.some.inj hi with hparts
    have hname := congrArg (List.intercalate ['.']) hparts
    rw [List.intercalate_splitOn, List.intercalate_splitOn] at hname
    cases i
    cases j
    exact congrArg Ident.mk (String.toList_inj.mp hname)

/-- A name with a mark at the end and at the beginning of its parts, with a star and an empty part. -/
theorem hostile_name_read_back :
    let i : Ident := ⟨"a\x60.*..\x60\x60b"⟩
    Begins endsName " = 1".toList ∧ "\x60\x60b".toList ≠ ['*'] ∧
      i.quoted = "\x60a\x60\x60\x60.*.\x60\x60.\x60\x60\x60\x60\x60b\x60" ∧
      (separated "." part).run ⟨i.quoted.toList ++ " = 1".toList, []⟩ =
        some (["a\x60".toList, ['*'], [], "\x60\x60b".toList], ⟨" = 1".toList, []⟩) ∧
      Ident.quotePart "\x60\x60b".toList = "\x60\x60\x60\x60\x60b\x60".toList ∧
      ∀ j : Ident, j.quoted = i.quoted → j = i := by
  intro i
  obtain ⟨hread, -, -, hpart, hinjective⟩ := quoted_name_read_back i
  have hends : Begins endsName " = 1".toList := begins_text (k := " = 1") (by decide) []
  have hstar : "\x60\x60b".toList ≠ ['*'] := by decide
  have hparts : i.name.toList.splitOn '.' = ["a\x60".toList, ['*'], [], "\x60\x60b".toList] := by
    decide
  have hbehind := hread _ [] hends
  rw [hparts] at hbehind
  have hwritten := hpart _ hstar
  exact ⟨hends, hstar, by decide, hbehind, hwritten.trans (by decide), hinjective⟩

end Reading

end SqlClient
