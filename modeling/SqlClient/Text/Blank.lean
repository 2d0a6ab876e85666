/-! # White space

The characters with the Unicode property `White_Space`, and the text left when they are taken off
its ends.
-/
namespace SqlClient.Text

/-- The twenty-five characters with the property `White_Space`. -/
def isBlank (c : Char) : Bool :=
  let n := c.toNat
  (0x09 ≤ n && n ≤ 0x0D) || n == 0x20 || n == 0x85 || n == 0xA0 || n == 0x1680 ||
    (0x2000 ≤ n && n ≤ 0x200A) || n == 0x2028 || n == 0x2029 || n == 0x202F || n == 0x205F ||
    n == 0x3000

def trimStart (cs : List Char) : List Char := cs.dropWhile isBlank

def trimEnd (cs : List Char) : List Char := (cs.reverse.dropWhile isBlank).reverse

def trim (cs : List Char) : List Char := trimEnd (trimStart cs)

/-- What is left of a text when the white space at both ends is taken off. -/
def Trimmed (cs body : List Char) : Prop :=
  ∃ before after, cs = before ++ body ++ after ∧ (∀ c ∈ before, isBlank c = true) ∧
    (∀ c ∈ after, isBlank c = true) ∧ (∀ c ∈ body.head?, isBlank c = false) ∧
    ∀ c ∈ body.getLast?, isBlank c = false

theorem isBlank_of_isDigit {c : Char} (h : c.isDigit = true) : isBlank c = false := by
  rw [Char.isDigit, Bool.and_eq_true, decide_eq_true_eq, decide_eq_true_eq] at h
  have hlow : '0'.toNat ≤ c.toNat := UInt32.le_iff_toNat_le.mp h.1
  have hhigh : c.toNat ≤ '9'.toNat := UInt32.le_iff_toNat_le.mp h.2
  have hzero : '0'.toNat = 48 := by decide
  have hnine : '9'.toNat = 57 := by decide
  rw [Bool.eq_false_iff]
  intro hb
  simp only [isBlank, Bool.or_eq_true, Bool.and_eq_true, decide_eq_true_eq, beq_iff_eq] at hb
  omega

theorem trimStart_of_all_blank {cs : List Char} (h : ∀ c ∈ cs, isBlank c = true) (ds : List Char) :
    trimStart (cs ++ ds) = trimStart ds := by
  induction cs with
  | nil => rfl
  | cons c cs ih =>
    simp only [List.mem_cons, forall_eq_or_imp] at h
    simp only [trimStart, List.cons_append, List.dropWhile_cons, h.1, ite_true]
    exact ih h.2

theorem trimStart_of_head {cs : List Char} (h : ∀ c ∈ cs.head?, isBlank c = false) :
    trimStart cs = cs := by
  cases cs with
  | nil => rfl
  | cons c cs => simp [trimStart, h c rfl]

theorem head_trimStart (cs : List Char) : ∀ c ∈ (trimStart cs).head?, isBlank c = false := by
  intro c hc
  have hnot := List.head?_dropWhile_not isBlank cs
  unfold trimStart at hc
  rw [hc] at hnot
  exact hnot

theorem trimStart_split (cs : List Char) :
    ∃ before, cs = before ++ trimStart cs ∧ ∀ c ∈ before, isBlank c = true :=
  ⟨cs.takeWhile isBlank, List.takeWhile_append_dropWhile.symm,
    List.all_eq_true.mp List.all_takeWhile⟩

theorem trimEnd_eq (cs : List Char) : trimEnd cs = (trimStart cs.reverse).reverse := rfl

theorem trimEnd_of_all_blank {ds : List Char} (h : ∀ c ∈ ds, isBlank c = true) (cs : List Char) :
    trimEnd (cs ++ ds) = trimEnd cs := by
  have hrev : ∀ c ∈ ds.reverse, isBlank c = true := fun c hc => h c (List.mem_reverse.mp hc)
  rw [trimEnd_eq, List.reverse_append, trimStart_of_all_blank hrev, trimEnd_eq]

theorem trimEnd_of_getLast {cs : List Char} (h : ∀ c ∈ cs.getLast?, isBlank c = false) :
    trimEnd cs = cs := by
  rw [← List.head?_reverse] at h
  rw [trimEnd_eq, trimStart_of_head h, List.reverse_reverse]

theorem getLast_trimEnd (cs : List Char) : ∀ c ∈ (trimEnd cs).getLast?, isBlank c = false := by
  rw [trimEnd_eq, List.getLast?_reverse]
  exact head_trimStart cs.reverse

theorem trimEnd_split (cs : List Char) :
    ∃ after, cs = trimEnd cs ++ after ∧ ∀ c ∈ after, isBlank c = true := by
  obtain ⟨before, hcs, hb⟩ := trimStart_split cs.reverse
  refine ⟨before.reverse, ?_, fun c hc => hb c (List.mem_reverse.mp hc)⟩
  rw [trimEnd_eq, ← List.reverse_append, ← hcs, List.reverse_reverse]

theorem trimmed_trim (cs : List Char) : Trimmed cs (trim cs) := by
  obtain ⟨before, hcs, hb⟩ := trimStart_split cs
  obtain ⟨after, hstart, ha⟩ := trimEnd_split (trimStart cs)
  refine ⟨before, after, ?_, hb, ha, fun c hc => ?_, getLast_trimEnd (trimStart cs)⟩
  · rw [List.append_assoc, trim, ← hstart]
    exact hcs
  · have hhead : (trim cs).head? = some c := hc
    refine head_trimStart cs c ?_
    rw [hstart, List.head?_append, ← trim, hhead]
    rfl

theorem trim_eq_iff {cs body : List Char} : trim cs = body ↔ Trimmed cs body := by
  constructor
  · rintro rfl
    exact trimmed_trim cs
  · rintro ⟨before, after, rfl, hb, ha, hhead, hlast⟩
    rw [trim, List.append_assoc, trimStart_of_all_blank hb]
    cases body with
    | nil =>
      have hnil := trimStart_of_all_blank ha []
      rw [List.append_nil] at hnil
      rw [List.nil_append, hnil]
      rfl
    | cons c cs =>
      have hstart : trimStart (c :: cs ++ after) = c :: cs ++ after := trimStart_of_head hhead
      rw [hstart, trimEnd_of_all_blank ha, trimEnd_of_getLast hlast]

theorem trim_of_no_blank {cs before after : List Char} (h : ∀ c ∈ cs, isBlank c = false)
    (hb : ∀ c ∈ before, isBlank c = true) (ha : ∀ c ∈ after, isBlank c = true) :
    trim (before ++ cs ++ after) = cs :=
  trim_eq_iff.mpr ⟨before, after, rfl, hb, ha, fun c hc => h c (List.mem_of_mem_head? hc),
    fun c hc => h c (List.mem_of_mem_getLast? hc)⟩

end SqlClient.Text
