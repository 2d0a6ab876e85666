import SqlClient.Proofs.Reading.Reader

/-! # Reading names

A name is read part by part: a bare star, or the text between two marks in which a doubled mark
stands for one. It ends where neither a mark nor a dot follows.
-/
namespace SqlClient

namespace Ident

theorem intercalate_parts (cs : List Char) : List.intercalate ['.'] (parts cs) = cs := by
  induction cs with
  | nil => rfl
  | cons c cs ih =>
    obtain ⟨p, ps, hp⟩ := List.exists_cons_of_ne_nil (parts_ne_nil cs)
    unfold parts
    split
    · rename_i hc
      rw [hp] at ih ⊢
      rw [List.intercalate_cons_cons, ih, hc]
      rfl
    · rw [hp] at ih ⊢
      cases ps with
      | nil =>
        rw [List.intercalate_singleton] at ih ⊢
        rw [ih]
      | cons p' ps =>
        rw [List.intercalate_cons_cons] at ih ⊢
        rw [← ih]
        rfl

end Ident

namespace Reading

def quotedRun : List Char → Option (List Char × List Char)
  | [] => none
  | [c] => if c = Ident.mark then some ([], []) else none
  | c :: d :: cs =>
    if c ≠ Ident.mark then (quotedRun (d :: cs)).map fun p => (c :: p.1, p.2)
    else if d = Ident.mark then (quotedRun cs).map fun p => (c :: p.1, p.2)
    else some ([], d :: cs)

def quotedText : Reader (List Char) := fun i =>
  (quotedRun i.text).map fun p => (p.1, { i with text := p.2 })

def part : Reader (List Char) := do
  if ← taken "*" then return ['*']
  else
    skip "\x60"
    quotedText

def name : Reader Ident := do
  let parts ← separated "." part
  return ⟨String.ofList (List.intercalate ['.'] parts)⟩

def endsPart (c : Char) : Bool := c != Ident.mark

def endsName (c : Char) : Bool := c != Ident.mark && c != '.'

theorem quotedRun_doubleMarks (cs : List Char) {t : List Char} (ht : Begins endsPart t) :
    quotedRun (Ident.doubleMarks cs ++ Ident.mark :: t) = some (cs, t) := by
  induction cs with
  | nil =>
    cases t with
    | nil => rfl
    | cons d t =>
      have hd : d ≠ Ident.mark := by simpa [endsPart] using ht d rfl
      rw [Ident.doubleMarks, List.flatMap_nil, List.nil_append, quotedRun, if_neg (by simp),
        if_neg hd]
  | cons c cs ih =>
    unfold Ident.doubleMarks at ih ⊢
    rw [List.flatMap_cons]
    split
    · rename_i hc
      rw [List.append_assoc, List.cons_append, List.cons_append, List.nil_append, quotedRun,
        if_neg (by simp), if_pos rfl, ih, hc]
      rfl
    · rename_i hc
      obtain ⟨d, ds, hd⟩ := List.exists_cons_of_ne_nil
        (show (cs.flatMap fun c => if c = Ident.mark then [Ident.mark, Ident.mark] else [c]) ++
          Ident.mark :: t ≠ [] by simp)
      rw [List.append_assoc, List.cons_append, List.nil_append, hd, quotedRun, if_pos hc, ← hd, ih]
      rfl

theorem reads_part (p : List Char) :
    Reads part (.text (String.ofList (Ident.quotePart p))) p (Begins endsPart) := by
  unfold part Ident.quotePart
  split
  · rename_i hp
    rw [hp, ← (Rendered.text (String.ofList ['*'])).append_empty]
    exact Reads.taken_then (.pure ['*'])
  · have hquoted : Reads quotedText (.text (String.ofList (Ident.doubleMarks p ++ [Ident.mark])))
        p (Begins endsPart) := by
      intro i hi
      have hrun := quotedRun_doubleMarks p hi
      simp [quotedText, StateT.run, Input.behind, Rendered.text, hrun]
    have hsplit : Rendered.text (String.ofList (Ident.mark :: Ident.doubleMarks p ++ [Ident.mark])) =
        .text "\x60" ++ .text (String.ofList (Ident.doubleMarks p ++ [Ident.mark])) :=
      congrArg Rendered.text (String.toList_inj.mp (by simp [Ident.mark, Rendered.text]))
    rw [hsplit]
    exact Reads.taken_else ((Reads.skip _).bind_any hquoted) fun t _ =>
      unlike_append (by decide) _ t

theorem ident_eq_joined (i : Ident) : Rendered.ident i =
    joined "." ((Ident.parts i.name.toList).map fun p =>
      .text (String.ofList (Ident.quotePart p))) := by
  unfold Rendered.ident Ident.quoted Ident.quoteChars
  generalize Ident.parts i.name.toList = ps
  induction ps with
  | nil => rfl
  | cons p ps ih =>
    cases ps with
    | nil => simp [joined]
    | cons p' ps =>
      simp only [List.map_cons, List.intercalate_cons_cons, joined_cons] at ih ⊢
      rw [← ih, String.ofList_append, String.ofList_append, String.append_assoc]
      rfl

theorem unlike_ident {s : String} (h : ∀ k ∈ ["*", "\x60"], Clash s k) (i : Ident)
    (r : Rendered) (t : List Char) : Unlike s ((.ident i ++ r).sql.toList ++ t) := by
  obtain ⟨p, ps, hp⟩ := List.exists_cons_of_ne_nil (Ident.parts_ne_nil i.name.toList)
  have hpart : ∃ k ∈ ["*", "\x60"], k.toList <+: Ident.quotePart p := by
    unfold Ident.quotePart
    split
    · rename_i hstar
      exact ⟨"*", by simp, [], by simp [hstar]⟩
    · exact ⟨"\x60", by simp, Ident.doubleMarks p ++ [Ident.mark], rfl⟩
  have hname : Ident.quotePart p <+: (Rendered.ident i).sql.toList := by
    simp only [Rendered.ident, Rendered.text, Ident.quoted, Ident.quoteChars,
      String.toList_ofList, hp, List.map_cons]
    cases ps with
    | nil => simp
    | cons p' ps =>
      rw [List.map_cons, List.intercalate_cons_cons, List.append_assoc]
      exact List.prefix_append _ _
  obtain ⟨k, hk, hbegins⟩ := hpart
  rw [Rendered.sql_append, String.toList_append, List.append_assoc]
  exact (h k hk).unlike ((hbegins.trans hname).trans (List.prefix_append _ _))

/-- The parts of a name are read from its quoted form, which says where it ends. -/
theorem reads_parts (i : Ident) :
    Reads (separated "." part) (.ident i) (Ident.parts i.name.toList) (Begins endsName) := by
  have hparts := Reads.separated (s := ".") (Ident.parts_ne_nil i.name.toList) (by decide)
    (fun p _ => reads_part p) (begins_text (by decide))
  rw [← ident_eq_joined] at hparts
  refine hparts.weaken fun t ht => ⟨?_, ?_⟩
  · intro c hc
    have := ht c hc
    simp_all [endsName, endsPart]
  · intro hdot
    obtain ⟨u, rfl⟩ := hdot
    exact absurd (ht '.' rfl) (by decide)

theorem reads_name (i : Ident) : Reads name (.ident i) i (Begins endsName) := by
  have hname := (reads_parts i).map fun parts =>
    (⟨String.ofList (List.intercalate ['.'] parts)⟩ : Ident)
  rw [Ident.intercalate_parts, String.ofList_toList] at hname
  exact hname

end Reading

end SqlClient
