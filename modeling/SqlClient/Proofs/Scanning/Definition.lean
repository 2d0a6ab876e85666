import SqlClient.Proofs.Scanning.Scanner
import SqlClient.Schema.Definition

/-! # Scanning statements that define columns

A default is written out, so its text stands in the statement. The scanner finds just the tokens that
the statement is made of, whatever stands in its names and in its default.
-/
namespace SqlClient

open Scanning (Token Scans scan)

/-! ## Names -/

namespace Ident

theorem parts_eq_splitOn (cs : List Char) : parts cs = cs.splitOn '.' := by
  induction cs with
  | nil => rfl
  | cons c cs ih =>
    have hne := parts_ne_nil cs
    unfold parts
    rw [List.splitOn, List.splitOnP_cons_eq_if_modifyHead, ← List.splitOn, ← ih]
    by_cases hc : c = '.'
    · rw [if_pos hc, if_pos (beq_iff_eq.mpr hc)]
    · rw [if_neg hc, if_neg (mt beq_iff_eq.mp hc)]
      obtain ⟨p, ps, hp⟩ := List.exists_cons_of_ne_nil hne
      rw [hp]
      rfl

/-- A part of a name is one token. Only the star is not quoted. -/
def partToken (part : List Char) : Token := if part = ['*'] then .symbol '*' else .name part

def tokens (i : Ident) : List Token :=
  ((i.name.toList.splitOn '.').map partToken).intersperse (.symbol '.')

theorem scans_quotePart (part : List Char) :
    Scans (quotePart part) [partToken part] (· != mark) := by
  unfold quotePart partToken
  split
  · rename_i hstar
    rw [hstar]
    exact (Scans.of_run (by decide)).weaken fun _ _ => rfl
  · exact Scans.quoted (by decide) part

theorem scans_intercalate (p : List Char) (ps : List (List Char)) :
    Scans (List.intercalate ['.'] ((p :: ps).map quotePart))
      (((p :: ps).map partToken).intersperse (.symbol '.')) (· != mark) := by
  induction ps generalizing p with
  | nil => simpa using scans_quotePart p
  | cons p' ps ih =>
    have hdot : Scans ['.'] [.symbol '.'] Scanning.anything := .of_run (by decide)
    rw [List.map_cons, List.map_cons, List.intercalate_cons_cons, List.append_assoc]
    exact (scans_quotePart p).append (hdot.append_any (ih p')) rfl

theorem scans_quoted (i : Ident) : Scans i.quoted.toList i.tokens (· != mark) := by
  obtain ⟨p, ps, hp⟩ := List.exists_cons_of_ne_nil (parts_ne_nil i.name.toList)
  unfold quoted quoteChars tokens
  rw [String.toList_ofList, ← parts_eq_splitOn, hp]
  exact scans_intercalate p ps

end Ident

/-! ## Literals -/

inductive Constant where
  | null
  | number (n : Int)
  | string (text : List Char)
  | bytes (bs : List UInt8)
  deriving DecidableEq

/-- The constant that is written by one literal; a number may have a sign. -/
def Constant.ofTokens? : List Token → Option Constant
  | [.word text] => if text.map Char.toLower = "null".toList then some .null else none
  | [.number ds] => (Integer.natural? ds).map fun n : Nat => .number n
  | [.symbol '-', .number ds] => (Integer.natural? ds).map fun n : Nat => .number (-n)
  | [.string text] => some (.string text)
  | [.bytes bs] => some (.bytes bs)
  | _ => none

namespace Value

/-- What a value is as a constant. A truth value is a number. -/
def constant? : Value → Option Constant
  | null => some .null
  | bool b => some (.number (if b then 1 else 0))
  | int i => some (.number i.toInt)
  | uint u => some (.number u.toNat)
  | float _ => none
  | text s => some (.string s.toList)
  | bytes bs => some (.bytes bs)

def endsLiteral (c : Char) : Bool := c == ')'

theorem scans_digits (n : Nat) :
    Scans (Nat.repr n).toList [.number (Nat.repr n).toList] Scanning.endsNumber := by
  obtain ⟨d, ds, hd, hfirst, hrest⟩ := Integer.repr_eq_cons n
  rw [hd]
  refine Scans.number hfirst (List.all_eq_true.mpr fun c hc => ?_)
  simp [Scanning.isWordChar, hrest c hc]

theorem scans_integer (n : Int) : ∃ read, Scans (Integer.text n).toList read Scanning.endsNumber ∧
    Constant.ofTokens? read = some (.number n) := by
  have hdigits := scans_digits n.natAbs
  have hnumber := Integer.natural?_repr n.natAbs
  unfold Integer.text
  split
  · rename_i hn
    refine ⟨[.symbol '-', .number (Nat.repr n.natAbs).toList], ?_, ?_⟩
    · rw [String.toList_append]
      refine Scans.dash.append hdigits ?_
      obtain ⟨d, ds, hd, hfirst, -⟩ := Integer.repr_eq_cons n.natAbs
      rw [hd, List.head?_cons, Option.any_some, bne_iff_ne]
      rintro rfl
      exact absurd hfirst (by decide)
    · rw [Constant.ofTokens?, hnumber, Option.map_some]
      congr 2
      omega
  · rename_i hn
    refine ⟨_, hdigits, ?_⟩
    rw [Constant.ofTokens?, hnumber, Option.map_some]
    congr 2
    omega

theorem scans_literal {v : Value} {k : Constant} (h : v.constant? = some k) :
    ∃ read, Scans v.literal.toList read endsLiteral ∧ Constant.ofTokens? read = some k := by
  have ends : ∀ follow : Char → Bool, follow ')' = true → ∀ c, endsLiteral c = true →
      follow c = true := by
    intro follow hf c hc
    rwa [beq_iff_eq.mp hc]
  have integer : ∀ n : Int, ∃ read, Scans (Integer.text n).toList read endsLiteral ∧
      Constant.ofTokens? read = some (.number n) := by
    intro n
    obtain ⟨read, hread, hn⟩ := scans_integer n
    exact ⟨read, hread.weaken (ends _ (by decide)), hn⟩
  cases v with
  | null =>
    cases h
    have hword : Scans "null".toList [.word "null".toList] Scanning.endsWord := .word (by decide)
    exact ⟨_, hword.weaken (ends _ (by decide)), by decide⟩
  | bool b =>
    cases h
    cases b with
    | false => exact integer 0
    | true => exact integer 1
  | int i =>
    cases h
    exact integer i.toInt
  | uint u =>
    cases h
    exact integer u.toNat
  | float x => cases h
  | text s =>
    cases h
    refine ⟨[.string s.toList], ?_, rfl⟩
    rw [literal, String.toList_ofList]
    exact (Scans.quoted (by decide) s.toList).weaken (ends _ (by decide))
  | bytes bs =>
    cases h
    refine ⟨[.bytes bs], ?_, rfl⟩
    rw [literal, String.toList_ofList]
    exact (Scans.bytes bs).weaken fun _ _ => rfl

def isQuoted : Value → Bool
  | text _ => true
  | bytes _ => true
  | _ => false

theorem exists_constant (v : Value) (h : ∀ x, v ≠ .float x) : ∃ k, v.constant? = some k := by
  cases v with
  | float x => exact absurd rfl (h x)
  | _ => exact ⟨_, rfl⟩

theorem eq_of_constant {v w : Value} (hv : v.isQuoted = true) (hw : w.isQuoted = true)
    (h : v.constant? = w.constant?) : v = w := by
  cases v <;> cases hv <;> cases w <;> cases hw <;> simp_all [constant?, String.toList_inj]

theorem eq_of_literal {v w : Value} (hv : v.isQuoted = true) (hw : w.isQuoted = true)
    (h : v.literal = w.literal) : v = w := by
  obtain ⟨k, hk⟩ := v.exists_constant fun x hx => by cases hx ▸ hv
  obtain ⟨l, hl⟩ := w.exists_constant fun x hx => by cases hx ▸ hw
  obtain ⟨read, hread, hvalue⟩ := scans_literal hk
  obtain ⟨read', hread', hvalue'⟩ := scans_literal hl
  have hscan := hread.scan_eq
  rw [h, hread'.scan_eq] at hscan
  cases hscan
  refine eq_of_constant hv hw ?_
  rw [hk, hl, ← hvalue, ← hvalue']

end Value

/-! ## Columns -/

namespace AddColumn

/-- The tokens of a default: none, or a keyword with a literal for the value. -/
inductive DefaultTokens : Option Value → List Token → Prop where
  | absent : DefaultTokens none []
  | present {v k read} : v.constant? = some k → Constant.ofTokens? read = some k →
      DefaultTokens (some v) (.word "DEFAULT".toList :: read)

def openingTokens (a : AddColumn) : List Token :=
  if a.create then
    [.word "CREATE".toList, .word "TABLE".toList] ++ (a.table.tokens ++ [.symbol '('])
  else
    [.word "ALTER".toList, .word "TABLE".toList] ++
      (a.table.tokens ++ [.word "ADD".toList, .word "COLUMN".toList])

def closingTokens (a : AddColumn) : List Token := if a.create then [.symbol ')'] else []

/-- The word that names a type. A text is one whether it is bounded or not. -/
def typeWord : ColumnType → String
  | .integer => "INTEGER"
  | .bigInt => "BIGINT"
  | .double => "DOUBLE"
  | .boolean => "BOOLEAN"
  | .text | .varchar _ => "TEXT"
  | .blob => "BLOB"
  | .timestamp => "TIMESTAMP"

theorem scans_type (t : ColumnType) :
    Scans (t.sql .sqlite).toList [.word (typeWord t).toList] Scanning.endsWord := by
  have hsql : t.sql .sqlite = typeWord t := by
    cases t <;> rfl
  rw [hsql]
  apply Scans.word
  cases t with
  | varchar n =>
    have htext : typeWord (.varchar n) = "TEXT" := rfl
    rw [htext]
    decide
  | _ => decide

theorem scans_definition (a : AddColumn) (h : ∀ x, a.default ≠ some (.float x)) :
    ∃ default, DefaultTokens a.default default ∧
      Scans (a.definition .sqlite).sql.toList
        (a.column.tokens ++ ([.word (typeWord a.type).toList] ++ default)) Value.endsLiteral := by
  have hblank : Scans " ".toList [] Scanning.anything := .of_run (by decide)
  have htype := scans_type a.type
  have hcolumn : ∀ {rest read}, Scans rest read Value.endsLiteral →
      Scans (a.column.quoted.toList ++ (" ".toList ++ rest)) (a.column.tokens ++ read)
        Value.endsLiteral :=
    fun hrest => a.column.scans_quoted.append (hblank.append_any hrest) rfl
  cases hd : a.default with
  | none =>
    have hsql : (a.definition .sqlite).sql.toList = a.column.quoted.toList ++ (" ".toList ++
        (a.type.sql .sqlite).toList) := by
      simp [definition, hd, Rendered.ident, Rendered.text, Rendered.empty]
    rw [hsql]
    refine ⟨[], .absent, hcolumn (htype.weaken fun c hc => ?_)⟩
    rw [beq_iff_eq.mp hc]
    decide
  | some v =>
    obtain ⟨k, hk⟩ := v.exists_constant fun x hx => h x (hd.trans (congrArg some hx))
    obtain ⟨read, hread, hvalue⟩ := Value.scans_literal hk
    have hsql : (a.definition .sqlite).sql.toList = a.column.quoted.toList ++ (" ".toList ++
        ((a.type.sql .sqlite).toList ++ (" DEFAULT ".toList ++ v.literal.toList))) := by
      simp only [definition, hd, Rendered.ident, Rendered.text, Rendered.sql_append,
        String.toList_append, List.append_assoc]
    have hkeyword : Scans " DEFAULT ".toList [.word "DEFAULT".toList] Scanning.anything :=
      .of_run (by decide)
    rw [hsql]
    exact ⟨_, .present hk hvalue, hcolumn (htype.append (hkeyword.append_any hread) rfl)⟩

theorem sql_create {a : AddColumn} (hc : a.create = true) (d : Dialect) : (a.render d).sql =
    "CREATE TABLE " ++ (a.table.quoted ++ (" (" ++ ((a.definition d).sql ++ ")"))) := by
  unfold render
  rw [if_pos hc]
  simp only [Rendered.ident, Rendered.text, Rendered.sql_append, String.append_assoc]

theorem sql_alter {a : AddColumn} (hc : ¬ a.create = true) (d : Dialect) : (a.render d).sql =
    "ALTER TABLE " ++ (a.table.quoted ++ (" ADD COLUMN " ++ (a.definition d).sql)) := by
  unfold render
  rw [if_neg hc]
  simp only [Rendered.ident, Rendered.text, Rendered.sql_append, String.append_assoc]

theorem scan_render (a : AddColumn) (h : ∀ x, a.default ≠ some (.float x)) :
    ∃ default, DefaultTokens a.default default ∧
      scan (a.render .sqlite).sql.toList = some (a.openingTokens ++ a.column.tokens ++
        [.word (typeWord a.type).toList] ++ default ++ a.closingTokens) := by
  obtain ⟨default, hdefault, hdefinition⟩ := a.scans_definition h
  refine ⟨default, hdefault, ?_⟩
  have htable := a.table.scans_quoted
  unfold openingTokens closingTokens
  by_cases hc : a.create = true
  · have hbegin : Scans "CREATE TABLE ".toList [.word "CREATE".toList, .word "TABLE".toList]
        Scanning.anything := .of_run (by decide)
    have hopen : Scans " (".toList [.symbol '('] Scanning.anything := .of_run (by decide)
    have hclose : Scans ")".toList [.symbol ')'] Scanning.anything := .of_run (by decide)
    have hall := hbegin.append_any
      (htable.append (hopen.append_any (hdefinition.append hclose rfl)) rfl)
    rw [sql_create hc, String.toList_append, String.toList_append, String.toList_append,
      String.toList_append, hall.scan_eq, if_pos hc, if_pos hc]
    simp only [List.append_assoc]
  · have hbegin : Scans "ALTER TABLE ".toList [.word "ALTER".toList, .word "TABLE".toList]
        Scanning.anything := .of_run (by decide)
    have hadd : Scans " ADD COLUMN ".toList [.word "ADD".toList, .word "COLUMN".toList]
        Scanning.anything := .of_run (by decide)
    have hall := hbegin.append_any (htable.append (hadd.append_any hdefinition) rfl)
    rw [sql_alter hc, String.toList_append, String.toList_append, String.toList_append,
      hall.scan_eq, if_neg hc, if_neg hc]
    simp only [List.append_assoc, List.append_nil]

/-- A statement that adds a column is scanned as it is meant, whatever stands in its names and in its
default: the names part by part, the type, and one literal that stands for the default. Texts and
bytes that differ are written differently. -/
theorem definition_scanned_as_meant (a : AddColumn) (h : ∀ x, a.default ≠ some (.float x)) :
    (∃ default, DefaultTokens a.default default ∧
      scan (a.render .sqlite).sql.toList = some (a.openingTokens ++ a.column.tokens ++
        [.word (typeWord a.type).toList] ++ default ++ a.closingTokens)) ∧
      ∀ v w : Value, v.isQuoted = true → w.isQuoted = true → v.literal = w.literal → v = w :=
  ⟨a.scan_render h, fun _ _ hv hw => Value.eq_of_literal hv hw⟩

/-- Marks, semicolons and comments in a name and in a default stay where they are. -/
theorem hostile_definition_scanned :
    let text := "x\\'; DROP TABLE t --"
    let a : AddColumn := ⟨⟨"a\x60b.*"⟩, ⟨"c) --"⟩, .varchar 16, some (.text text), true⟩
    ∃ read, Constant.ofTokens? read = some (.string text.toList) ∧
      scan (a.render .sqlite).sql.toList = some ([.word "CREATE".toList, .word "TABLE".toList,
        .name "a\x60b".toList, .symbol '.', .symbol '*', .symbol '(', .name "c) --".toList,
        .word "TEXT".toList, .word "DEFAULT".toList] ++ read ++ [.symbol ')']) := by
  intro text a
  obtain ⟨⟨default, hdefault, hscan⟩, -⟩ :=
    definition_scanned_as_meant a fun x hx => by cases hx
  cases hdefault with
  | present hk hread =>
    cases hk
    refine ⟨_, hread, hscan.trans ?_⟩
    have hfront : a.openingTokens ++ a.column.tokens = [.word "CREATE".toList,
        .word "TABLE".toList, .name "a\x60b".toList, .symbol '.', .symbol '*', .symbol '(',
        .name "c) --".toList] := by decide
    rw [hfront]
    simp only [List.append_assoc]
    rfl

end AddColumn

end SqlClient
