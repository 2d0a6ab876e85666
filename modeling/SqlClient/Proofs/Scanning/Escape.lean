import SqlClient.Proofs.Scanning.Definition

/-! # Strings in which a backslash escapes

The dialect with bounded texts reads a string between single quotes, in which a doubled quote stands
for one and a backslash escapes the character behind it. A default is written with its quotes
doubled and its backslashes as they are. It is read back as it was meant exactly if every backslash
in it stands in front of a wildcard, where it escapes nothing.
-/
namespace SqlClient

namespace Scanning

/-- What a backslash with this character behind it stands for: a control character, the character
itself, or, in front of a wildcard, both of them. -/
def unescaped (c : Char) : List Char :=
  if c = '0' then ['\x00']
  else if c = 'b' then ['\x08']
  else if c = 't' then ['\t']
  else if c = 'n' then ['\n']
  else if c = 'r' then ['\r']
  else if c = 'Z' then ['\x1a']
  else if c = '%' ∨ c = '_' then ['\\', c]
  else [c]

def behind (front : List Char) (read : List Char × List Char) : List Char × List Char :=
  (front ++ read.1, read.2)

/-- The rest of a string, up to the quote that ends it, and what follows it. -/
def stringRest? : List Char → Option (List Char × List Char)
  | [] => none
  | [c] => if c = '\'' then some ([], []) else none
  | c :: d :: cs =>
    if c = '\'' then
      if d = '\'' then (stringRest? cs).map (behind ['\'']) else some ([], d :: cs)
    else if c = '\\' then (stringRest? cs).map (behind (unescaped d))
    else (stringRest? (d :: cs)).map (behind [c])

def stringLiteral? : List Char → Option (List Char × List Char)
  | [] => none
  | c :: cs => if c = '\'' then stringRest? cs else none

/-- No backslash escapes: each stands in front of a wildcard. -/
def Unescaping (cs : List Char) : Prop :=
  ∀ before after, cs = before ++ '\\' :: after → after.head? = some '%' ∨ after.head? = some '_'

theorem unescaped_cases (c : Char) :
    ((c = '%' ∨ c = '_') ∧ unescaped c = ['\\', c]) ∨
      ∃ d, unescaped c = [d] ∧ (d = '\\' → c = '\\') := by
  unfold unescaped
  repeat' split
  all_goals grind

theorem map_behind_eq_some {front text rest : List Char} {o : Option (List Char × List Char)} :
    o.map (behind front) = some (text, rest) ↔
      ∃ read, o = some (read, rest) ∧ text = front ++ read := by
  rw [Option.map_eq_some_iff]
  constructor
  · rintro ⟨⟨read, left⟩, ho, heq⟩
    cases heq
    exact ⟨read, ho, rfl⟩
  · rintro ⟨read, ho, rfl⟩
    exact ⟨_, ho, rfl⟩

/-! ## One step of the reader -/

section Steps

variable {c : Char} {rest : List Char}

theorem stringRest?_doubled (cs : List Char) :
    stringRest? ('\'' :: '\'' :: cs) = (stringRest? cs).map (behind ['\'']) := rfl

theorem stringRest?_end (h : rest.head? ≠ some '\'') :
    stringRest? ('\'' :: rest) = some ([], rest) := by
  cases rest with
  | nil => rfl
  | cons c cs => rw [stringRest?, if_pos rfl, if_neg fun hc => h (congrArg some hc)]

theorem stringRest?_backslash (d : Char) (cs : List Char) :
    stringRest? ('\\' :: d :: cs) = (stringRest? cs).map (behind (unescaped d)) := by
  rw [stringRest?, if_neg (by decide), if_pos rfl]

theorem stringRest?_plain (hq : c ≠ '\'') (hb : c ≠ '\\') (cs : List Char) :
    stringRest? (c :: cs) = (stringRest? cs).map (behind [c]) := by
  cases cs with
  | nil => exact if_neg hq
  | cons d cs => rw [stringRest?, if_neg hq, if_neg hb]

theorem stringRest?_wildcard (hc : c = '%' ∨ c = '_') (cs : List Char) :
    stringRest? ('\\' :: c :: cs) = (stringRest? (c :: cs)).map (behind ['\\']) := by
  have hq : c ≠ '\'' := by rcases hc with rfl | rfl <;> decide
  have hb : c ≠ '\\' := by rcases hc with rfl | rfl <;> decide
  have hboth : unescaped c = ['\\', c] := by rcases hc with rfl | rfl <;> rfl
  rw [stringRest?_backslash, stringRest?_plain hq hb, hboth, Option.map_map]
  rfl

end Steps

/-! ## No more is read than was written

A quote of a string is written twice, so it weighs half as much as any other character. What is read
and what is left together weigh less than what was there.
-/

def weight : List Char → Nat
  | [] => 0
  | c :: cs => (if c = '\'' then 1 else 2) + weight cs

theorem weight_cons (c : Char) (cs : List Char) :
    weight (c :: cs) = (if c = '\'' then 1 else 2) + weight cs := rfl

theorem weight_append (cs ds : List Char) : weight (cs ++ ds) = weight cs + weight ds := by
  induction cs with
  | nil => exact (Nat.zero_add _).symm
  | cons c cs ih => rw [List.cons_append, weight_cons, weight_cons, ih, Nat.add_assoc]

theorem weight_doubleQuotes (cs : List Char) :
    weight (Value.doubleQuotes cs) = 2 * cs.length := by
  induction cs with
  | nil => rfl
  | cons c cs ih =>
    have hcons : Value.doubleQuotes (c :: cs) =
        (if c = '\'' then ['\'', '\''] else [c]) ++ Value.doubleQuotes cs := rfl
    have hfront : weight (if c = '\'' then ['\'', '\''] else [c]) = 2 := by
      split
      · rfl
      · next hc => rw [weight_cons, if_neg hc]; rfl
    rw [hcons, weight_append, hfront, ih, List.length_cons]
    omega

theorem length_unescaped (c : Char) : 2 * (unescaped c).length ≤ weight ['\\', c] := by
  rcases unescaped_cases c with ⟨hc, hu⟩ | ⟨d, hu, -⟩
  · rw [hu]
    rcases hc with rfl | rfl <;> decide
  · rw [hu, weight_cons, if_neg (by decide), List.length_singleton]
    omega

theorem weight_of_stringRest? {cs text rest : List Char}
    (h : stringRest? cs = some (text, rest)) : 2 * text.length + weight rest < weight cs := by
  induction cs using stringRest?.induct generalizing text with
  | case1 => cases h
  | case2 =>
    cases h
    decide
  | case3 c hc =>
    rw [stringRest?, if_neg hc] at h
    cases h
  | case4 cs ih =>
    rw [stringRest?_doubled] at h
    obtain ⟨read, hread, rfl⟩ := map_behind_eq_some.mp h
    have hless := ih hread
    have hsplit : weight ('\'' :: '\'' :: cs) = 2 + weight cs := weight_append ['\'', '\''] cs
    rw [hsplit, List.length_append, List.length_singleton]
    omega
  | case5 d cs hd =>
    rw [stringRest?_end (by simpa using hd)] at h
    cases h
    rw [weight_cons '\'', if_pos rfl, List.length_nil]
    omega
  | case6 d cs _ ih =>
    rw [stringRest?_backslash] at h
    obtain ⟨read, hread, rfl⟩ := map_behind_eq_some.mp h
    have hless := ih hread
    have hfront := length_unescaped d
    have hsplit : weight ('\\' :: d :: cs) = weight ['\\', d] + weight cs :=
      weight_append ['\\', d] cs
    rw [hsplit, List.length_append]
    omega
  | case7 c d cs hq hb ih =>
    rw [stringRest?_plain hq hb] at h
    obtain ⟨read, hread, rfl⟩ := map_behind_eq_some.mp h
    have hless := ih hread
    rw [weight_cons c, if_neg hq, List.length_append, List.length_singleton]
    omega

/-! ## What is read from a text with its quotes doubled -/

section Unescaping

variable {c d : Char} {cs rest : List Char}

theorem Unescaping.tail (h : Unescaping (c :: cs)) : Unescaping cs :=
  fun before after hcs => h (c :: before) after (congrArg (c :: ·) hcs)

theorem Unescaping.cons_plain (hc : c ≠ '\\') (h : Unescaping cs) : Unescaping (c :: cs) := by
  intro before after hcs
  cases before with
  | nil => exact absurd (List.cons.inj hcs).1 hc
  | cons b before => exact h before after (List.cons.inj hcs).2

theorem Unescaping.cons_wildcard (hd : d = '%' ∨ d = '_') (h : Unescaping (d :: cs)) :
    Unescaping ('\\' :: d :: cs) := by
  intro before after hcs
  cases before with
  | nil =>
    obtain ⟨-, rfl⟩ := List.cons.inj hcs
    exact hd.imp (congrArg some) (congrArg some)
  | cons b before => exact h before after (List.cons.inj hcs).2

theorem doubleQuotes_quote (cs : List Char) :
    Value.doubleQuotes ('\'' :: cs) = '\'' :: '\'' :: Value.doubleQuotes cs := rfl

theorem doubleQuotes_plain (hc : c ≠ '\'') (cs : List Char) :
    Value.doubleQuotes (c :: cs) = c :: Value.doubleQuotes cs := by
  rw [Value.doubleQuotes, List.flatMap_cons, if_neg hc]
  rfl

theorem stringRest?_of_unescaping (hrest : rest.head? ≠ some '\'') (h : Unescaping cs) :
    stringRest? (Value.doubleQuotes cs ++ '\'' :: rest) = some (cs, rest) := by
  induction cs with
  | nil => exact stringRest?_end hrest
  | cons c cs ih =>
    have hread := ih h.tail
    by_cases hq : c = '\''
    · subst hq
      rw [doubleQuotes_quote, List.cons_append, List.cons_append, stringRest?_doubled]
      exact map_behind_eq_some.mpr ⟨cs, hread, rfl⟩
    rw [doubleQuotes_plain hq, List.cons_append]
    by_cases hb : c = '\\'
    · subst hb
      have hhead : cs.head? = some '%' ∨ cs.head? = some '_' := h [] cs rfl
      cases cs with
      | nil => simp at hhead
      | cons d cs =>
        have hd : d = '%' ∨ d = '_' := hhead.imp Option.some.inj Option.some.inj
        have hplain : d ≠ '\'' := by rcases hd with rfl | rfl <;> decide
        rw [doubleQuotes_plain hplain, List.cons_append] at hread ⊢
        rw [stringRest?_wildcard hd]
        exact map_behind_eq_some.mpr ⟨d :: cs, hread, rfl⟩
    · rw [stringRest?_plain hq hb]
      exact map_behind_eq_some.mpr ⟨cs, hread, rfl⟩

/-- A backslash is read back only in front of a wildcard, or by another one that escapes it. That
other one is lost then, and what is left of the text is too short to make up for it. -/
theorem wildcard_of_stringRest?
    (h : stringRest? ('\\' :: (Value.doubleQuotes cs ++ '\'' :: rest)) = some ('\\' :: cs, rest)) :
    ∃ d ds, cs = d :: ds ∧ (d = '%' ∨ d = '_') := by
  cases cs with
  | nil =>
    obtain ⟨read, -, heq⟩ := map_behind_eq_some.mp ((stringRest?_backslash '\'' rest).symm.trans h)
    cases heq
  | cons d cs =>
    by_cases hd : d = '\''
    · subst hd
      rw [doubleQuotes_quote, List.cons_append, stringRest?_backslash] at h
      obtain ⟨read, -, heq⟩ := map_behind_eq_some.mp h
      cases heq
    rw [doubleQuotes_plain hd, List.cons_append, stringRest?_backslash] at h
    obtain ⟨read, hread, heq⟩ := map_behind_eq_some.mp h
    rcases unescaped_cases d with ⟨hwild, -⟩ | ⟨e, hu, -⟩
    · exact ⟨d, cs, rfl, hwild⟩
    · rw [hu] at heq
      obtain ⟨-, rfl⟩ : '\\' = e ∧ d :: cs = read := List.cons.inj heq
      have hless := weight_of_stringRest? hread
      rw [weight_append, weight_doubleQuotes, weight_cons, if_pos rfl, List.length_cons] at hless
      omega

theorem unescaping_of_stringRest?
    (h : stringRest? (Value.doubleQuotes cs ++ '\'' :: rest) = some (cs, rest)) :
    Unescaping cs := by
  induction cs with
  | nil => exact fun before after hcs => by simp at hcs
  | cons c cs ih =>
    by_cases hq : c = '\''
    · subst hq
      rw [doubleQuotes_quote, List.cons_append, List.cons_append, stringRest?_doubled] at h
      obtain ⟨read, hread, heq⟩ := map_behind_eq_some.mp h
      cases heq
      exact (ih hread).cons_plain (by decide)
    rw [doubleQuotes_plain hq, List.cons_append] at h
    by_cases hb : c = '\\'
    · subst hb
      obtain ⟨d, ds, rfl, hd⟩ := wildcard_of_stringRest? h
      have hplain : d ≠ '\'' := by rcases hd with rfl | rfl <;> decide
      rw [doubleQuotes_plain hplain, List.cons_append] at h ih
      rw [stringRest?_wildcard hd] at h
      obtain ⟨read, hread, heq⟩ := map_behind_eq_some.mp h
      cases heq
      exact (ih hread).cons_wildcard hd
    · rw [stringRest?_plain hq hb] at h
      obtain ⟨read, hread, heq⟩ := map_behind_eq_some.mp h
      cases heq
      exact (ih hread).cons_plain hb

end Unescaping

end Scanning

open Scanning (stringLiteral? Unescaping)

theorem Value.stringLiteral?_literal_iff (s : String) {rest : List Char}
    (hrest : rest.head? ≠ some '\'') :
    stringLiteral? ((Value.text s).literal.toList ++ rest) = some (s.toList, rest) ↔
      Unescaping s.toList := by
  have hread : stringLiteral? ((Value.text s).literal.toList ++ rest) =
      Scanning.stringRest? (doubleQuotes s.toList ++ '\'' :: rest) := by
    rw [literal, String.toList_ofList, List.cons_append, List.cons_append, List.append_assoc]
    rfl
  rw [hread]
  exact ⟨Scanning.unescaping_of_stringRest?, Scanning.stringRest?_of_unescaping hrest⟩

namespace AddColumn

def beforeDefault (d : Dialect) (a : AddColumn) : String :=
  (if a.create then "CREATE TABLE " ++ a.table.quoted ++ " ("
    else "ALTER TABLE " ++ a.table.quoted ++ " ADD COLUMN ") ++
    a.column.quoted ++ " " ++ a.type.sql d ++ " DEFAULT "

def afterDefault (a : AddColumn) : String := if a.create then ")" else ""

theorem sql_default {a : AddColumn} {v : Value} (h : a.default = some v) (d : Dialect) :
    (a.render d).sql = a.beforeDefault d ++ v.literal ++ a.afterDefault := by
  have hdefinition : (a.definition d).sql =
      a.column.quoted ++ (" " ++ (a.type.sql d ++ (" DEFAULT " ++ v.literal))) := by
    simp only [definition, h, Rendered.ident, Rendered.text, Rendered.sql_append,
      String.append_assoc]
  unfold beforeDefault afterDefault
  by_cases hc : a.create = true
  · rw [sql_create hc, if_pos hc, if_pos hc, hdefinition]
    simp only [String.append_assoc]
  · rw [sql_alter hc, if_neg hc, if_neg hc, hdefinition]
    simp only [String.append_assoc, String.append_empty]

/-- A text default stands in the statement as its literal. That is one complete string which stands
for the text, if and only if no backslash of the text escapes. -/
theorem text_default_read_iff {a : AddColumn} {s : String} (h : a.default = some (.text s)) :
    (a.render .mySql).sql = a.beforeDefault .mySql ++ (Value.text s).literal ++ a.afterDefault ∧
      (stringLiteral? ((Value.text s).literal ++ a.afterDefault).toList =
          some (s.toList, a.afterDefault.toList) ↔
        Unescaping s.toList) := by
  refine ⟨sql_default h .mySql, ?_⟩
  have hafter : a.afterDefault.toList.head? ≠ some '\'' := by
    unfold afterDefault
    split <;> decide
  rw [String.toList_append]
  exact Value.stringLiteral?_literal_iff s hafter

/-- Quotes, and a backslash that stands in front of a wildcard. -/
theorem wildcard_default_read :
    let s := "it's 50\\%"
    let a : AddColumn := ⟨⟨"t"⟩, ⟨"c"⟩, .varchar 16, some (.text s), true⟩
    a.default = some (.text s) ∧
      (a.render .mySql).sql =
        a.beforeDefault .mySql ++ "'it''s 50\\%'" ++ a.afterDefault ∧
      Unescaping s.toList := by
  intro s a
  have hliteral : (Value.text s).literal = "'it''s 50\\%'" := by decide
  obtain ⟨hsql, hread⟩ := text_default_read_iff (a := a) (s := s) rfl
  rw [hliteral] at hsql hread
  exact ⟨rfl, hsql, hread.mp (by decide)⟩

/-- The quote that is doubled behind a backslash ends the string, and what follows it is no longer
a part of it. -/
theorem escaped_quote_leaves_default :
    let s := "\\'); DROP TABLE t -- "
    let a : AddColumn := ⟨⟨"t"⟩, ⟨"c"⟩, .text, some (.text s), true⟩
    (a.render .mySql).sql =
        "CREATE TABLE \x60t\x60 (\x60c\x60 TEXT DEFAULT '\\''); DROP TABLE t -- ')" ∧
      (a.render .mySql).sql = a.beforeDefault .mySql ++ (Value.text s).literal ++ a.afterDefault ∧
      stringLiteral? ((Value.text s).literal ++ a.afterDefault).toList =
        some (['\''], "); DROP TABLE t -- ')".toList) := by
  intro s a
  exact ⟨by decide, sql_default rfl .mySql, by decide⟩

end AddColumn

end SqlClient
