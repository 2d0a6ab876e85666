import SqlClient.Row

/-! # Rows read by label

A label is looked up among the columns or in the map of a row. The lookup stops at the first label
that is equal up to the case of ASCII letters, and the map holds the last value that stands under
exactly that label. So the two readings can only differ where a label is repeated, be it in another
case.
-/
namespace SqlClient.Row

/-- Every value with the label that it stands under. A label without a value is left out, and so is
a value without a label. -/
def cells (r : Row) : List (String × Value) := r.columns.zip r.values

theorem get?_eq_find? (r : Row) (label : String) :
    r.get? label = (r.cells.find? fun c => Text.sameName c.1 label).map Prod.snd := by
  obtain ⟨columns, values⟩ := r
  unfold get? at? cells
  dsimp only
  induction columns generalizing values with
  | nil => rfl
  | cons column columns ih =>
    rw [List.findIdx?_cons]
    cases values with
    | nil => simp
    | cons v values =>
      rw [List.zip_cons_cons, List.find?_cons]
      by_cases hc : Text.sameName column label = true
      · simp [hc]
      · rw [Bool.not_eq_true] at hc
        rw [if_neg (by simp [hc]), hc, ← ih, Option.bind_map]
        rfl

theorem get?_toMap (r : Row) (label : String) :
    r.toMap.get? label = (r.cells.reverse.find? fun c => c.1 = label).map Prod.snd := by
  rw [toMap, OrderedMap.get?_ofList, List.getLast?_filter]
  rfl

/-- The map of texts is the map of values with every value replaced by its text, also where labels
are repeated and where labels or values are missing. -/
theorem toStringMap_eq (r : Row) : r.toStringMap = r.toMap.map Value.text? := by
  rw [toMap, ← OrderedMap.ofList_map, toStringMap, toStrings, List.zip_map_right]
  rfl

theorem map_find?_eq_some {cs : List (String × Value)} {p : String × Value → Bool}
    {c : String × Value} (hc : c ∈ cs) (hp : p c = true)
    (hall : ∀ d ∈ cs, p d = true → d.2 = c.2) : (cs.find? p).map Prod.snd = some c.2 := by
  obtain ⟨d, hd⟩ := Option.isSome_iff_exists.mp (List.find?_isSome.mpr ⟨c, hc, hp⟩)
  rw [hd, Option.map_some, hall d (List.mem_of_find?_eq_some hd) (List.find?_some hd)]

/-- A lookup gives the value under the first label that is equal up to the case of ASCII letters,
a map the value under the last label that is equal to the letter, and the map of texts the text of
that value. A label that stands over a value is found by each of them. They agree where no other
value stands under a label equal up to case. -/
theorem read_by_label (r : Row) (label : String) :
    r.get? label = (r.cells.find? fun c => Text.sameName c.1 label).map Prod.snd ∧
      r.toMap.get? label = (r.cells.reverse.find? fun c => c.1 = label).map Prod.snd ∧
      r.toStringMap.get? label = (r.toMap.get? label).map Value.text? ∧
      ∀ (i : Nat) (v : Value), r.columns[i]? = some label → r.values[i]? = some v →
        (r.get? label).isSome = true ∧ (r.toMap.get? label).isSome = true ∧
          ((∀ c ∈ r.cells, Text.sameName c.1 label = true → c.2 = v) →
            r.get? label = some v ∧ r.toMap.get? label = some v ∧
              r.toStringMap.get? label = some v.text?) := by
  have htexts : r.toStringMap.get? label = (r.toMap.get? label).map Value.text? := by
    rw [toStringMap_eq, OrderedMap.get?_map]
  refine ⟨r.get?_eq_find? label, r.get?_toMap label, htexts, fun i v hi hv => ?_⟩
  have hcell : (label, v) ∈ r.cells :=
    List.mem_of_getElem? (List.getElem?_zip_eq_some.mpr ⟨hi, hv⟩)
  rw [htexts, r.get?_eq_find? label, r.get?_toMap label]
  refine ⟨?_, ?_, fun hall => ?_⟩
  · rw [Option.isSome_map, List.find?_isSome]
    exact ⟨_, hcell, Text.sameName_refl label⟩
  · rw [Option.isSome_map, List.find?_isSome]
    exact ⟨_, List.mem_reverse.mpr hcell, decide_eq_true rfl⟩
  · have hlast : (r.cells.reverse.find? fun c => c.1 = label).map Prod.snd = some v := by
      refine map_find?_eq_some (List.mem_reverse.mpr hcell) (decide_eq_true rfl) ?_
      intro d hd hlabel
      refine hall d (List.mem_reverse.mp hd) ?_
      rw [of_decide_eq_true hlabel]
      exact Text.sameName_refl label
    rw [hlast]
    exact ⟨map_find?_eq_some hcell (Text.sameName_refl label) hall, rfl, rfl⟩

/-- A label that stands over one value in a row with more labels than values. -/
theorem single_label_read :
    let r : Row := ⟨["id", "Name", "note", "id"], [.int 3, .null, .text "x"]⟩
    r.columns[0]? = some "id" ∧ r.values[0]? = some (.int 3) ∧
      (∀ c ∈ r.cells, Text.sameName c.1 "id" = true → c.2 = .int 3) ∧
      r.get? "id" = some (.int 3) ∧ r.toMap.get? "id" = some (.int 3) ∧
      r.toStringMap.get? "id" = some (some "3") := by
  intro r
  have hall : ∀ c ∈ r.cells, Text.sameName c.1 "id" = true → c.2 = .int 3 := by
    decide
  exact ⟨rfl, rfl, hall, ((read_by_label r "id").2.2.2 0 (.int 3) rfl rfl).2.2 hall⟩

/-- Two labels that differ in case, and two equal ones: the lookup gives the first value and the map
the last. -/
theorem repeated_labels_read_apart :
    let r : Row := ⟨["ID", "id"], [.int 1, .int 2]⟩
    let t : Row := ⟨["id", "id"], [.int 1, .int 2]⟩
    (r.columns[1]? = some "id" ∧ r.values[1]? = some (.int 2) ∧ r.get? "id" = some (.int 1) ∧
        r.toMap.get? "id" = some (.int 2) ∧ r.toStringMap.get? "id" = some (some "2") ∧
        r.get? "id" ≠ r.toMap.get? "id") ∧
      t.columns[0]? = some "id" ∧ t.values[0]? = some (.int 1) ∧ t.get? "id" = some (.int 1) ∧
        t.toMap.get? "id" = some (.int 2) ∧ t.toStringMap.get? "id" = some (some "2") ∧
        t.get? "id" ≠ t.toMap.get? "id" := by
  decide

end SqlClient.Row
