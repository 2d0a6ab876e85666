import SqlClient.Proofs.Reading.Name

/-! # A scanner for statements

A statement is scanned from left to right, one character at a time, into words, numbers, names,
strings, bytes and symbols. Names stand in backticks or double quotes and strings in single quotes,
and a doubled mark in them stands for one; no other character has a meaning there. Bytes are pairs of
hexadecimal digits in single quotes behind an X. Comments and white space are left out.
-/
namespace SqlClient

namespace Text.Hex

def value? (c : Char) : Option Nat :=
  if '0' ≤ c ∧ c ≤ '9' then some (c.toNat - 0x30)
  else if 'A' ≤ c ∧ c ≤ 'F' then some (c.toNat - 0x37)
  else if 'a' ≤ c ∧ c ≤ 'f' then some (c.toNat - 0x57)
  else none

def decode? : List Char → Option (List UInt8)
  | [] => some []
  | [_] => none
  | high :: low :: rest => do
    let h ← value? high
    let l ← value? low
    let bs ← decode? rest
    return UInt8.ofNat (h * 16 + l) :: bs

theorem value?_capital {n : Nat} (h : n < 16) : value? (capital n) = some n := by
  revert n
  decide

theorem decode?_encode (bs : List UInt8) : decode? (encode capital bs) = some bs := by
  induction bs with
  | nil => rfl
  | cons b bs ih =>
    have hb : b.toNat < 256 := b.toNat_lt
    have hhigh := value?_capital (n := b.toNat / 16) (by omega)
    have hlow := value?_capital (n := b.toNat % 16) (by omega)
    have hbyte : b.toNat / 16 * 16 + b.toNat % 16 = b.toNat := by omega
    unfold encode at ih ⊢
    rw [List.flatMap_cons, List.cons_append, List.cons_append, List.nil_append, decode?, hhigh, hlow,
      ih]
    change some (UInt8.ofNat (b.toNat / 16 * 16 + b.toNat % 16) :: bs) = some (b :: bs)
    rw [hbyte, UInt8.ofNat_toNat]

theorem capital_ne_mark {n : Nat} (h : n < 16) : capital n ≠ '\'' := by
  revert n
  decide

theorem all_ne_mark (bs : List UInt8) :
    ((encode capital bs).all fun c => c != '\'') = true := by
  rw [List.all_eq_true]
  intro c hc
  obtain ⟨b, -, hb⟩ := List.mem_flatMap.mp hc
  have hlt : b.toNat < 256 := b.toNat_lt
  rw [List.mem_cons, List.mem_singleton] at hb
  rw [bne_iff_ne]
  rcases hb with rfl | rfl
  · exact capital_ne_mark (by omega)
  · exact capital_ne_mark (by omega)

end Text.Hex

namespace Scanning

inductive Token where
  | word (text : List Char)
  | number (text : List Char)
  | name (text : List Char)
  | string (text : List Char)
  | bytes (bs : List UInt8)
  | symbol (c : Char)
  deriving DecidableEq

/-- What stands between two marks is a string or a name. -/
def Token.quoted (mark : Char) (text : List Char) : Token :=
  if mark = '\'' then .string text else .name text

/-- What the scanner is in the middle of, with the characters of it that it has seen. -/
inductive Mode where
  | between
  | word (text : List Char)
  | number (text : List Char)
  | quoted (mark : Char) (text : List Char)
  /-- Behind a mark that ends what is quoted unless it is doubled. -/
  | marked (mark : Char) (text : List Char)
  | digits (ds : List Char)
  /-- Behind the mark that ends the digits. -/
  | bytes (ds : List Char)
  | dash
  | line
  | slash
  | block
  | star
  deriving DecidableEq

def opensWord (c : Char) : Bool := c.isAlpha || c == '_' || 0x80 ≤ c.toNat

def isWordChar (c : Char) : Bool := opensWord c || c.isDigit || c == '$'

namespace Mode

/-- The mode behind a character that belongs to what the scanner is in the middle of. -/
def next? : Mode → Char → Option Mode
  | between, _ => none
  | word text, c =>
    if isWordChar c then some (word (text ++ [c]))
    else if c = '\'' ∧ (text = ['X'] ∨ text = ['x']) then some (digits [])
    else none
  | number text, c => if isWordChar c || c == '.' then some (number (text ++ [c])) else none
  | quoted mark text, c =>
    some (if c = mark then marked mark text else quoted mark (text ++ [c]))
  | marked mark text, c => if c = mark then some (quoted mark (text ++ [c])) else none
  | digits ds, c => some (if c = '\'' then bytes ds else digits (ds ++ [c]))
  | bytes _, _ => none
  | dash, c => if c = '-' then some line else none
  | line, c => some (if c = '\n' then between else line)
  | slash, c => if c = '*' then some block else none
  | block, c => some (if c = '*' then star else block)
  | star, c => some (if c = '/' then between else if c = '*' then star else block)

/-- What has been read where nothing more belongs to it; nothing if it cannot end there. -/
def read? : Mode → Option (List Token)
  | between => some []
  | word text => some [.word text]
  | number text => some [.number text]
  | quoted _ _ => none
  | marked mark text => some [.quoted mark text]
  | digits _ => none
  | bytes ds => (Text.Hex.decode? ds).map fun bs => [.bytes bs]
  | dash => some [.symbol '-']
  | line => some []
  | slash => some [.symbol '/']
  | block => none
  | star => none

end Mode

/-- The mode behind a character that begins something, and the token that it is by itself. -/
def opening (c : Char) : Mode × List Token :=
  if c.isWhitespace then (.between, [])
  else if c = '\'' ∨ c = '"' ∨ c = '\x60' then (.quoted c [], [])
  else if c.isDigit then (.number [c], [])
  else if opensWord c then (.word [c], [])
  else if c = '-' then (.dash, [])
  else if c = '/' then (.slash, [])
  else (.between, [.symbol c])

def step (m : Mode) (c : Char) : Option (Mode × List Token) :=
  match m.next? c with
  | some m => some (m, [])
  | none => m.read?.map fun read => ((opening c).1, read ++ (opening c).2)

def scanFrom : Mode → List Char → Option (List Token)
  | m, [] => m.read?
  | m, c :: cs =>
    match step m c with
    | none => none
    | some (m, read) => (scanFrom m cs).map (read ++ ·)

def run : Mode → List Char → Option (Mode × List Token)
  | m, [] => some (m, [])
  | m, c :: cs =>
    match step m c with
    | none => none
    | some (m, read) => (run m cs).map fun behind => (behind.1, read ++ behind.2)

def scan (text : List Char) : Option (List Token) := scanFrom .between text

/-- A backslash means nothing in a string, and a dash begins a comment only with a second one. -/
example : scan "-5 'it''s \\' X'0aFF' -- '".toList =
    some [.symbol '-', .number ['5'], .string "it's \\".toList, .bytes [0x0A, 0xFF]] := by
  decide

/-! ## One character after the other -/

theorem scanFrom_append (m : Mode) (cs t : List Char) : scanFrom m (cs ++ t) =
    (run m cs).bind fun behind => (scanFrom behind.1 t).map (behind.2 ++ ·) := by
  induction cs generalizing m with
  | nil => simp [run]
  | cons c cs ih =>
    rw [List.cons_append, scanFrom, run]
    cases step m c with
    | none => rfl
    | some next => simp [ih, Option.map_bind, Option.bind_map, Function.comp_def]

theorem scanFrom_next {m m' : Mode} {c : Char} (h : m.next? c = some m') (t : List Char) :
    scanFrom m (c :: t) = scanFrom m' t := by
  rw [scanFrom, step, h]
  simp

theorem scan_cons (c : Char) (t : List Char) :
    scan (c :: t) = (scanFrom (opening c).1 t).map ((opening c).2 ++ ·) := by
  simp [scan, scanFrom, step, Mode.next?, Mode.read?]

theorem scan_opening {c : Char} {m : Mode} (h : opening c = (m, [])) (t : List Char) :
    scan (c :: t) = scanFrom m t := by
  simp [scan_cons, h]

theorem opening_of_isDigit {c : Char} (h : c.isDigit = true) :
    opening c = (.number [c], []) := by
  have hblank : ¬ c.isWhitespace = true := by
    intro hb
    simp only [Char.isWhitespace, Bool.or_eq_true, decide_eq_true_eq] at hb
    rcases hb with ((rfl | rfl) | rfl) | rfl <;> exact absurd h (by decide)
  have hmark : ¬ (c = '\'' ∨ c = '"' ∨ c = '\x60') := by
    rintro (rfl | rfl | rfl) <;> exact absurd h (by decide)
  rw [opening, if_neg hblank, if_neg hmark, if_pos h]

theorem scanFrom_ends {m : Mode} {read : List Token} (h : m.read? = some read) {t : List Char}
    (ht : ∀ c ∈ t.head?, m.next? c = none) : scanFrom m t = (scan t).map (read ++ ·) := by
  cases t with
  | nil =>
    have hnil : scan [] = some [] := rfl
    rw [scanFrom, h, hnil, Option.map_some, List.append_nil]
  | cons c t =>
    rw [scanFrom, step, ht c rfl, h, scan_cons]
    simp [Function.comp_def]

/-! ## Whole tokens -/

/-- In front of any text that begins as `follow` says these characters are read as these tokens. -/
def Scans (cs : List Char) (read : List Token) (follow : Char → Bool) : Prop :=
  ∀ t, Reading.Begins follow t → scan (cs ++ t) = (scan t).map (read ++ ·)

def anything (_ : Char) : Bool := true

def endsWord (c : Char) : Bool := !isWordChar c && c != '\''

def endsNumber (c : Char) : Bool := !isWordChar c && c != '.'

def isWord : List Char → Bool
  | [] => false
  | c :: cs => opening c = (.word [c], []) && cs.all isWordChar

/-- Characters that go on with what the scanner is in the middle of, one after the other. -/
theorem scanFrom_while {mode : List Char → Mode} {p : Char → Bool}
    (hmode : ∀ text c, p c = true → (mode text).next? c = some (mode (text ++ [c])))
    {text cs : List Char} (h : cs.all p = true) (t : List Char) :
    scanFrom (mode text) (cs ++ t) = scanFrom (mode (text ++ cs)) t := by
  induction cs generalizing text with
  | nil => simp
  | cons c cs ih =>
    rw [List.all_cons, Bool.and_eq_true] at h
    rw [List.cons_append, scanFrom_next (hmode text c h.1), ih h.2, List.append_assoc]
    rfl

/-- What is quoted with its marks doubled is read as it was. -/
theorem scanFrom_quoted {mark : Char} (text cs t : List Char) :
    scanFrom (.quoted mark text)
        ((cs.flatMap fun c => if c = mark then [mark, mark] else [c]) ++ mark :: t) =
      scanFrom (.marked mark (text ++ cs)) t := by
  have hmark : ∀ text, (Mode.quoted mark text).next? mark = some (.marked mark text) :=
    fun _ => congrArg some (if_pos rfl)
  induction cs generalizing text with
  | nil => simp [scanFrom_next (hmark text)]
  | cons c cs ih =>
    rw [List.flatMap_cons, List.append_assoc]
    by_cases hc : c = mark
    · -- The first mark could be the end, and the second one tells that it is not.
      have hdoubled : (Mode.marked mark text).next? mark = some (.quoted mark (text ++ [mark])) :=
        if_pos rfl
      rw [if_pos hc, List.cons_append, List.cons_append, List.nil_append,
        scanFrom_next (hmark text), scanFrom_next hdoubled, ih, List.append_assoc, hc]
      rfl
    · have hnext : (Mode.quoted mark text).next? c = some (.quoted mark (text ++ [c])) :=
        congrArg some (if_neg hc)
      rw [if_neg hc, List.cons_append, List.nil_append, scanFrom_next hnext, ih, List.append_assoc]
      rfl

namespace Scans

variable {cs ds : List Char} {read more : List Token} {follow follow' : Char → Bool}

theorem append_of (h : Scans cs read follow) (k : Scans ds more follow')
    (hf : ∀ t, Reading.Begins follow' t → Reading.Begins follow (ds ++ t)) :
    Scans (cs ++ ds) (read ++ more) follow' := by
  intro t ht
  rw [List.append_assoc, h _ (hf t ht), k t ht, Option.map_map]
  simp [Function.comp_def]

theorem append (h : Scans cs read follow) (k : Scans ds more follow')
    (hd : ds.head?.any follow = true) : Scans (cs ++ ds) (read ++ more) follow' := by
  refine h.append_of k fun t _ => ?_
  cases ds with
  | nil => cases hd
  | cons d ds =>
    intro c hc
    cases hc
    exact hd

theorem append_any (h : Scans cs read anything) (k : Scans ds more follow) :
    Scans (cs ++ ds) (read ++ more) follow :=
  h.append_of k fun _ _ _ _ => rfl

theorem weaken (h : Scans cs read follow) (hf : ∀ c, follow' c = true → follow c = true) :
    Scans cs read follow' :=
  fun t ht => h t fun c hc => hf c (ht c hc)

theorem scan_eq (h : Scans cs read follow) : scan cs = some read := by
  have hend := h [] (by simp [Reading.Begins])
  rw [List.append_nil] at hend
  rw [hend]
  simp [scan, scanFrom, Mode.read?]

theorem of_run (h : run .between cs = some (.between, read)) : Scans cs read anything := by
  intro t _
  rw [scan, scanFrom_append, h]
  rfl

theorem word (h : isWord cs = true) : Scans cs [.word cs] endsWord := by
  intro t ht
  cases cs with
  | nil => cases h
  | cons c cs =>
    rw [isWord, Bool.and_eq_true, decide_eq_true_eq] at h
    have hnext : ∀ text d, isWordChar d = true →
        (Mode.word text).next? d = some (.word (text ++ [d])) := fun _ _ hd => if_pos hd
    rw [List.cons_append, scan_opening h.1, scanFrom_while hnext h.2]
    refine scanFrom_ends rfl fun d hd => ?_
    have hend := ht d hd
    simp only [endsWord, Bool.and_eq_true, Bool.not_eq_true', bne_iff_ne] at hend
    rw [Mode.next?, if_neg (by simp [hend.1]), if_neg (by simp [hend.2])]

theorem number {c : Char} (hc : c.isDigit = true) (h : cs.all isWordChar = true) :
    Scans (c :: cs) [.number (c :: cs)] endsNumber := by
  intro t ht
  have hnext : ∀ text d, isWordChar d = true →
      (Mode.number text).next? d = some (.number (text ++ [d])) :=
    fun text d hd => if_pos (by rw [hd, Bool.true_or])
  rw [List.cons_append, scan_opening (opening_of_isDigit hc), scanFrom_while hnext h]
  refine scanFrom_ends rfl fun d hd => ?_
  have hend := ht d hd
  simp only [endsNumber, Bool.and_eq_true, Bool.not_eq_true', bne_iff_ne] at hend
  exact if_neg (by simp [hend])

theorem quoted {mark : Char} (hmark : opening mark = (.quoted mark [], [])) (text : List Char) :
    Scans (mark :: ((text.flatMap fun c => if c = mark then [mark, mark] else [c]) ++ [mark]))
      [.quoted mark text] (· != mark) := by
  intro t ht
  rw [List.cons_append, scan_opening hmark, List.append_assoc, List.singleton_append,
    scanFrom_quoted]
  refine scanFrom_ends rfl fun d hd => ?_
  exact if_neg (bne_iff_ne.mp (ht d hd))

/-- A dash in front of something other than a second one, with which it would begin a comment. -/
theorem dash : Scans ['-'] [.symbol '-'] (· != '-') := by
  intro t ht
  have hopening : opening '-' = (.dash, []) := by decide
  rw [List.singleton_append, scan_opening hopening]
  exact scanFrom_ends rfl fun c hc => if_neg (bne_iff_ne.mp (ht c hc))

theorem bytes (bs : List UInt8) :
    Scans ('X' :: '\'' :: (Text.Hex.encode Text.Hex.capital bs ++ ['\''])) [.bytes bs] anything := by
  intro t _
  have hread : (Mode.bytes (Text.Hex.encode Text.Hex.capital bs)).read? = some [.bytes bs] := by
    rw [Mode.read?, Text.Hex.decode?_encode]
    rfl
  have hopening : opening 'X' = (.word ['X'], []) := by decide
  have hmark : (Mode.word ['X']).next? '\'' = some (.digits []) := by decide
  have hnext : ∀ ds d, (d != '\'') = true →
      (Mode.digits ds).next? d = some (.digits (ds ++ [d])) :=
    fun ds d hd => congrArg some (if_neg (bne_iff_ne.mp hd))
  have hend : (Mode.digits (Text.Hex.encode Text.Hex.capital bs)).next? '\'' =
      some (.bytes (Text.Hex.encode Text.Hex.capital bs)) := rfl
  rw [List.cons_append, scan_opening hopening, List.cons_append, scanFrom_next hmark,
    List.append_assoc, List.singleton_append, scanFrom_while hnext (Text.Hex.all_ne_mark bs),
    List.nil_append, scanFrom_next hend]
  exact scanFrom_ends hread fun _ _ => rfl

end Scans

end Scanning

end SqlClient
