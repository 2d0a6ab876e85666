import SqlClient.Proofs.Counting.Calls
import Mathlib.Data.List.DropRight

/-! # Counting the rows of a query

A query is counted by a statement of its own if its text begins with SELECT. That statement has the
text of the query in parentheses, without the semicolons at its end: the whole run of semicolons
and white space there is taken off, unless white space stands between two semicolons.
-/
namespace SqlClient

namespace Text

/-! ## The word at the beginning -/

/-- A text with the letters of `word` in any case at its beginning, after white space. -/
def BeginsWith (word text : List Char) : Prop :=
  ∃ blanks head rest, text = blanks ++ head ++ rest ∧ (∀ c ∈ blanks, isBlank c = true) ∧
    head.map Char.toLower = word

theorem utf8Size_of_toLower {c : Char} (h : c.toLower.toNat < 128) : c.utf8Size = 1 := by
  have hc : c.toNat < 128 := by
    unfold Char.toLower at h
    split at h
    · rename_i hu
      have hz : c.toNat ≤ 'Z'.toNat := UInt32.le_iff_toNat_le.mp hu.2
      exact Nat.lt_of_le_of_lt hz (by decide)
    · exact h
  exact Char.utf8Size_eq_one_iff.mpr (UInt32.le_iff_toNat_le.mpr (Nat.le_of_lt_succ hc))

theorem toLower_of_isBlank {c : Char} (h : isBlank c = true) : c.toLower = c := by
  unfold Char.toLower
  refine dif_neg fun hu => ?_
  have ha : 'A'.toNat ≤ c.toNat := UInt32.le_iff_toNat_le.mp hu.1
  have hz : c.toNat ≤ 'Z'.toNat := UInt32.le_iff_toNat_le.mp hu.2
  have hA : 'A'.toNat = 65 := by decide
  have hZ : 'Z'.toNat = 90 := by decide
  simp only [isBlank, Bool.or_eq_true, Bool.and_eq_true, decide_eq_true_eq, beq_iff_eq] at h
  omega

/-- Bytes are enough to look for a word of ASCII characters. -/
theorem take?_trimStart_iff {word : List Char} (hne : word ≠ [])
    (hword : (word.all fun c => c.toNat < 128 && !isBlank c) = true) (text : List Char) :
    ((Utf8.take? word.length (trimStart text)).any fun head => head.map Char.toLower == word) =
      true ↔ BeginsWith word text := by
  constructor
  · intro h
    obtain ⟨head, hhead, hlower⟩ := (Option.any_eq_true _ _).mp h
    obtain ⟨rest, hrest⟩ := Utf8.prefix_of_take? hhead
    refine ⟨text.takeWhile isBlank, head, rest, ?_, ?_, beq_iff_eq.mp hlower⟩
    · rw [List.append_assoc, hrest]
      exact List.takeWhile_append_dropWhile.symm
    · exact fun c hc => List.mem_takeWhile_imp hc
  · rintro ⟨blanks, head, rest, rfl, hblanks, hlower⟩
    have hhead : ∀ c ∈ head, c.toLower.toNat < 128 ∧ isBlank c.toLower = false := by
      intro c hc
      simpa using List.all_eq_true.mp hword _ (hlower ▸ List.mem_map_of_mem hc)
    have hstart : trimStart (blanks ++ head ++ rest) = head ++ rest := by
      rw [List.append_assoc, trimStart_of_all_blank hblanks]
      cases head with
      | nil => exact absurd hlower.symm hne
      | cons c cs =>
        refine List.dropWhile_cons_of_neg fun hc => ?_
        have hlow := (hhead c List.mem_cons_self).2
        rw [toLower_of_isBlank hc, hc] at hlow
        cases hlow
    have htake := Utf8.take?_append (fun c hc => utf8Size_of_toLower (hhead c hc).1) rest
    have hlength : word.length = head.length := by
      rw [← hlower, List.length_map]
    rw [hstart, hlength, htake, Option.any_some, hlower]
    exact beq_self_eq_true word

/-! ## The semicolons at the end -/

def isEnding (c : Char) : Bool := isBlank c || c == ';'

/-- The text without the white space before the statement and without anything behind it. -/
def statement (text : List Char) : List Char := (trimStart text).rdropWhile isEnding

def ending (text : List Char) : List Char := (trimStart text).rtakeWhile isEnding

/-- White space stands somewhere between two semicolons. -/
def Parted (cs : List Char) : Prop := ∃ c, isBlank c = true ∧ [';', c, ';'].Sublist cs

/-- The semicolons that end a text and the white space behind them are taken off. -/
def unended (cs : List Char) : List Char := (trimEnd cs).rdropWhile (· == ';')

theorem rdropWhile_append {α : Type} {p : α → Bool} {front : List α}
    (h : ∀ hne : front ≠ [], ¬ p (front.getLast hne) = true) (back : List α) :
    (front ++ back).rdropWhile p = front ++ back.rdropWhile p := by
  induction back using List.reverseRecOn with
  | nil => simpa using List.rdropWhile_eq_self_iff.mpr h
  | append_singleton back x ih =>
    rw [← List.append_assoc]
    by_cases hx : p x = true
    · rw [List.rdropWhile_concat_pos _ _ _ hx, List.rdropWhile_concat_pos _ _ _ hx, ih]
    · rw [List.rdropWhile_concat_neg _ _ _ hx, List.rdropWhile_concat_neg _ _ _ hx,
        List.append_assoc]

theorem eq_semicolon_of_isEnding {c : Char} (h : isEnding c = true) (hc : ¬ isBlank c = true) :
    c = ';' := by
  simpa [isEnding, hc] using h

theorem unended_split (cs : List Char) :
    cs = unended cs ++ (trimEnd cs).rtakeWhile (· == ';') ++ cs.rtakeWhile isBlank := by
  have hinner : unended cs ++ (trimEnd cs).rtakeWhile (· == ';') = trimEnd cs :=
    List.rdropWhile_append_rtakeWhile
  rw [hinner]
  exact List.rdropWhile_append_rtakeWhile.symm

theorem eq_semicolon_of_mem {cs : List Char} {c : Char}
    (h : c ∈ cs.rtakeWhile fun c => c == ';') : c = ';' :=
  beq_iff_eq.mp (List.mem_rtakeWhile_imp (p := fun c => c == ';') h)

theorem not_parted {left semicolons right : List Char} (hl : ∀ c ∈ left, isBlank c = true)
    (hs : ∀ c ∈ semicolons, c = ';') (hr : ∀ c ∈ right, isBlank c = true) :
    ¬ Parted (left ++ semicolons ++ right) := by
  rintro ⟨c, hc, hsub⟩
  obtain ⟨ab, d, habd, hab, hd⟩ := List.sublist_append_iff.mp hsub
  obtain ⟨a, b, rfl, ha, hb⟩ := List.sublist_append_iff.mp hab
  have hsemicolon : isBlank ';' = false := by decide
  -- The first and the last of the three are semicolons, so all of them are.
  have hanil : a = [] := by
    cases a with
    | nil => rfl
    | cons x xs =>
      obtain ⟨rfl, -⟩ := List.cons.inj habd
      rw [hl _ (ha.subset List.mem_cons_self)] at hsemicolon
      cases hsemicolon
  have hdnil : d = [] := by
    rcases List.eq_nil_or_concat' d with hnil | ⟨xs, x, rfl⟩
    · exact hnil
    · have hlast : [';', c] ++ [';'] = a ++ b ++ xs ++ [x] := by
        rw [List.append_assoc _ xs]
        exact habd
      obtain ⟨-, hx⟩ := List.append_inj' hlast rfl
      cases hx
      rw [hr _ (hd.subset (by simp))] at hsemicolon
      cases hsemicolon
  rw [hanil, hdnil, List.nil_append, List.append_nil] at habd
  rw [hs c (hb.subset (by simp [← habd]))] at hc
  exact absurd hc (by decide)

theorem not_of_rdropWhile_eq {α : Type} {p : α → Bool} {l front : List α} {x : α}
    (h : l.rdropWhile p = front ++ [x]) : ¬ p x = true := by
  have hlast := List.rdropWhile_last_not p l (by simp [h])
  simpa [h] using hlast

/-- A semicolon is left of an ending only in front of white space that another one stands behind. -/
theorem parted_of_left {cs : List Char} (h : ∀ c ∈ cs, isEnding c = true)
    (hleft : ¬ ∀ c ∈ unended cs, isBlank c = true) : Parted cs := by
  have hsplit := unended_split cs
  have hmem : ∀ c ∈ unended cs, isEnding c = true := by
    intro c hc
    refine h c ?_
    rw [hsplit]
    simp [hc]
  push Not at hleft
  obtain ⟨x, hx, hxblank⟩ := hleft
  rw [eq_semicolon_of_isEnding (hmem x hx) hxblank] at hx
  rcases List.eq_nil_or_concat' (unended cs) with hnil | ⟨before, d, hconcat⟩
  · rw [hnil] at hx
    cases hx
  have hd : d ≠ ';' := by simpa using not_of_rdropWhile_eq hconcat
  have hdblank : isBlank d = true := by
    by_contra hnot
    exact hd (eq_semicolon_of_isEnding (hmem d (by simp [hconcat])) hnot)
  have hbefore : ';' ∈ before := by
    rw [hconcat, List.mem_append, List.mem_singleton] at hx
    exact hx.resolve_right hd.symm
  -- Without a semicolon behind it the white space would have been taken off.
  have hne : (trimEnd cs).rtakeWhile (· == ';') ≠ [] := by
    intro hnil
    have htrim : unended cs ++ (trimEnd cs).rtakeWhile (· == ';') = trimEnd cs :=
      List.rdropWhile_append_rtakeWhile
    rw [hnil, List.append_nil, hconcat] at htrim
    exact not_of_rdropWhile_eq (p := isBlank) htrim.symm hdblank
  obtain ⟨c, hc⟩ := List.exists_mem_of_ne_nil _ hne
  have hbehind := eq_semicolon_of_mem hc ▸ hc
  have hfirst : [';', d].Sublist (unended cs) := by
    rw [hconcat]
    exact (List.singleton_sublist.mpr hbefore).append (.refl [d])
  refine ⟨d, hdblank, ?_⟩
  rw [hsplit]
  exact (hfirst.append (List.singleton_sublist.mpr hbehind)).trans (List.sublist_append_left _ _)

theorem forall_mem_unended_iff {cs : List Char} (h : ∀ c ∈ cs, isEnding c = true) :
    (∀ c ∈ unended cs, isBlank c = true) ↔ ¬ Parted cs := by
  refine ⟨fun hleft => ?_, fun hparted => by_contra fun hleft => hparted (parted_of_left h hleft)⟩
  rw [unended_split cs]
  exact not_parted hleft (fun c hc => eq_semicolon_of_mem hc) fun c hc => List.mem_rtakeWhile_imp hc

section Whole

variable (text : List Char)

theorem statement_append_ending : statement text ++ ending text = trimStart text :=
  List.rdropWhile_append_rtakeWhile

theorem isEnding_of_mem_ending : ∀ c ∈ ending text, isEnding c = true :=
  fun _ hc => List.mem_rtakeWhile_imp hc

theorem statement_getLast {p : Char → Bool} (hp : ∀ c, p c = true → isEnding c = true) :
    ∀ hne : statement text ≠ [], ¬ p ((statement text).getLast hne) = true :=
  fun hne h => List.rdropWhile_last_not isEnding (trimStart text) hne (hp _ h)

theorem unended_trimStart : unended (trimStart text) = statement text ++ unended (ending text) := by
  have hblank := statement_getLast text (p := isBlank) fun c hc => by simp [isEnding, hc]
  have hsemicolon := statement_getLast text (p := fun c => c == ';') fun c hc => by
    simp only [isEnding, hc, Bool.or_true]
  have htrim : trimEnd (trimStart text) = statement text ++ trimEnd (ending text) := by
    rw [← statement_append_ending]
    exact rdropWhile_append hblank _
  rw [unended, htrim, rdropWhile_append hsemicolon]
  rfl

theorem trimEnd_unended :
    trimEnd (unended (trimStart text)) = statement text ++ trimEnd (unended (ending text)) := by
  rw [unended_trimStart]
  exact rdropWhile_append
    (statement_getLast text (p := isBlank) fun c hc => by simp [isEnding, hc]) _

/-- The statement is all that is left, up to white space behind it, unless white space stands between
the semicolons. -/
theorem trimEnd_unended_iff :
    trimEnd (unended (trimStart text)) = statement text ↔ ¬ Parted (ending text) := by
  rw [trimEnd_unended, List.append_right_eq_self, ← forall_mem_unended_iff (isEnding_of_mem_ending text)]
  exact List.rdropWhile_eq_nil_iff

theorem getLast?_of_parted (h : Parted (ending text)) :
    (trimEnd (unended (trimStart text))).getLast? = some ';' := by
  have hleft : trimEnd (unended (ending text)) ≠ [] := by
    intro hnil
    have hblank := List.rdropWhile_eq_nil_iff.mp hnil
    exact (forall_mem_unended_iff (isEnding_of_mem_ending text)).mp hblank h
  obtain ⟨front, x, hx⟩ := (List.eq_nil_or_concat' _).resolve_left hleft
  have hmem : x ∈ ending text := by
    refine List.IsPrefix.subset ?_ (show x ∈ trimEnd (unended (ending text)) by simp [hx])
    exact (List.rdropWhile_prefix _ _).trans
      ((List.rdropWhile_prefix _ _).trans (List.rdropWhile_prefix _ _))
  have hxblank := not_of_rdropWhile_eq (p := isBlank) hx
  rw [trimEnd_unended, hx, ← List.append_assoc, List.getLast?_concat,
    eq_semicolon_of_isEnding (isEnding_of_mem_ending text x hmem) hxblank]

end Whole

end Text

namespace Raw

def countText (inner : List Char) : String :=
  "SELECT COUNT(*) FROM (" ++ String.ofList inner ++ ") AS `counted`"

theorem countText_inj {inner inner' : List Char} :
    countText inner = countText inner' ↔ inner = inner' := by
  unfold countText
  rw [String.append_left_inj, String.append_right_inj, String.ofList_inj]

theorem count_eq (q : Raw) : q.count = ⟨countText q.inner, q.run.binds⟩ := by
  have hend : ") AS `counted`" = ") AS " ++ (Rendered.ident ⟨"counted"⟩).sql := by decide
  have hsql : q.count.sql = countText q.inner := by
    unfold count countText
    rw [hend]
    simp only [Rendered.sql_append, Rendered.text, String.append_assoc]
  have hbinds : q.count.binds = q.run.binds := by
    simp [count, Rendered.text, Rendered.ident]
  exact Rendered.ext hsql hbinds

theorem toList_countText (inner : List Char) : (countText inner).toList =
    'S' :: ("ELECT COUNT(*) FROM (".toList ++ inner ++ ") AS `counted".toList) ++ ['\x60'] := by
  unfold countText
  rw [String.toList_append, String.toList_append, String.toList_ofList]
  simp

/-- No text counts its own rows: with the parentheses around it, it is longer. -/
theorem count_sql_ne (q : Raw) : q.count.sql ≠ q.run.sql := by
  intro hsame
  have hcount : countText q.inner = q.run.sql := by
    rw [← hsame, q.count_eq]
  have htext := toList_countText q.inner
  rw [hcount] at htext
  -- A text that begins and ends like this has nothing to be taken off its ends.
  have hfirst : ∀ c ∈ q.run.sql.toList.head?, Text.isBlank c = false := by
    intro c hc
    rw [htext, List.cons_append, List.head?_cons] at hc
    cases hc
    decide
  have hlast : q.run.sql.toList.getLast? = some '\x60' := by
    rw [htext, List.getLast?_concat]
  have htrim : Text.trim q.run.sql.toList = q.run.sql.toList := by
    unfold Text.trim
    rw [Text.trimStart_of_head hfirst]
    apply Text.trimEnd_of_getLast
    intro c hc
    rw [hlast] at hc
    cases hc
    decide
  have hinner : q.inner = q.run.sql.toList := by
    unfold inner
    rw [htrim]
    apply List.rdropWhile_eq_self_iff.mpr
    intro hne
    rw [List.getLast_of_getLast?_eq_some hlast]
    decide
  have hlength := congrArg List.length htext
  rw [hinner] at hlength
  simp at hlength
  omega

theorem isSelect_iff (q : Raw) :
    q.isSelect = true ↔ Text.BeginsWith "select".toList q.run.sql.toList :=
  Text.take?_trimStart_iff (by decide) (by decide) _

end Raw

namespace Statement

/-- A query whose text begins with SELECT is counted by its text in parentheses and by its values,
and every other query by what its own run affects. What stands in the parentheses is the statement
alone, up to white space, unless white space stands between the semicolons behind it; then there is
a semicolon in front of the closing parenthesis. -/
theorem query_counted_by_its_text {s : Statement} {q : Raw} (hq : s.command = .raw q) :
    let text := q.run.sql.toList
    (Text.BeginsWith "select".toList text →
      ∃ inner, s.CountsBy ⟨Raw.countText inner, q.run.binds⟩ ∧
        Text.statement text <+: inner ∧ inner <+: Text.trimStart text ∧
        (Text.trimEnd inner = Text.statement text ↔ ¬ Text.Parted (Text.ending text)) ∧
        (Text.Parted (Text.ending text) → (Text.trimEnd inner).getLast? = some ';')) ∧
      (¬ Text.BeginsWith "select".toList text →
        ∀ (σ : Type) [Connection σ] (w : World σ), s.rowCount w = s.affectedRows w) := by
  intro text
  rw [← q.isSelect_iff]
  constructor
  · intro hselect
    refine ⟨q.inner, ?_, ?_, ?_, Text.trimEnd_unended_iff text, Text.getLast?_of_parted text⟩
    · rw [← q.count_eq]
      apply countsBy_of_counting
      rw [hq, Command.counting?, if_pos hselect]
    · have hinner : q.inner = Text.statement text ++ Text.unended (Text.ending text) :=
        Text.unended_trimStart text
      rw [hinner]
      exact List.prefix_append _ _
    · exact (List.rdropWhile_prefix _ _).trans (List.rdropWhile_prefix _ _)
  · intro hother σ _ w
    unfold rowCount
    rw [hq]
    exact if_neg hother

/-- White space before the text and before and behind its only semicolon does no harm. -/
theorem padded_query_counted :
    ∃ inner, (Settings.query {} "\u3000SeLeCt 1 ;\n").CountsBy ⟨Raw.countText inner, []⟩ ∧
      Text.trimEnd inner = "SeLeCt 1".toList := by
  have hbegins : Text.BeginsWith "select".toList "\u3000SeLeCt 1 ;\n".toList :=
    ⟨['\u3000'], "SeLeCt".toList, " 1 ;\n".toList, by decide,
      List.forall_mem_singleton.mpr (by decide), by decide⟩
  have hquery : (Settings.query {} "\u3000SeLeCt 1 ;\n").command =
      .raw ⟨.text "\u3000SeLeCt 1 ;\n"⟩ := rfl
  obtain ⟨inner, hcounts, -, -, hwhole, -⟩ := (query_counted_by_its_text hquery).1 hbegins
  have hunparted : ¬ Text.Parted (Text.ending "\u3000SeLeCt 1 ;\n".toList) := by
    have hleft : Text.unended (Text.ending "\u3000SeLeCt 1 ;\n".toList) = [' '] := by decide
    rw [← Text.forall_mem_unended_iff (Text.isEnding_of_mem_ending _), hleft]
    exact List.forall_mem_singleton.mpr (by decide)
  refine ⟨inner, hcounts, (hwhole.mpr hunparted).trans ?_⟩
  decide

/-- Of two semicolons with white space between them the first one stays, so what stands in the
parentheses is not the statement. -/
theorem parted_semicolons_stay :
    Text.BeginsWith "select".toList "SELECT 1; ;".toList ∧
      (Settings.query {} "SELECT 1; ;").CountsBy
        ⟨"SELECT COUNT(*) FROM (SELECT 1; ) AS `counted`", []⟩ ∧
      ¬ ∃ inner, (Settings.query {} "SELECT 1; ;").CountsBy ⟨Raw.countText inner, []⟩ ∧
        Text.trimEnd inner = Text.statement "SELECT 1; ;".toList := by
  let q : Raw := ⟨.text "SELECT 1; ;"⟩
  have hselect : q.isSelect = true := by decide
  have htext : Raw.countText q.inner = "SELECT COUNT(*) FROM (SELECT 1; ) AS `counted`" := by decide
  have hcounts : (Settings.query {} "SELECT 1; ;").CountsBy
      ⟨"SELECT COUNT(*) FROM (SELECT 1; ) AS `counted`", []⟩ := by
    have hcount : (Command.raw q).counting? = some ⟨Raw.countText q.inner, []⟩ := by
      rw [Command.counting?, if_pos hselect, q.count_eq]
      rfl
    rw [htext] at hcount
    exact countsBy_of_counting hcount
  refine ⟨q.isSelect_iff.mp hselect, hcounts, ?_⟩
  rintro ⟨inner, hinner, htrim⟩
  have hsame := (hinner.sql_eq hcounts).trans htext.symm
  rw [Raw.countText_inj.mp hsame] at htrim
  exact absurd htrim (by decide)

end Statement

end SqlClient
