import GrammarLexer.Proofs.Text.Cursor

/-!
# Slices

A text has a slice between two offsets if these are boundaries of it, and otherwise none
(`exists_slice?_iff`). Two slices that meet make up one (`slice?_append_slice?`).

Indices of characters go up by one where byte offsets go up by the size of a character.
`charsBefore` moves an offset to an index by counting the characters that start before it. An
offset within a character counts that one, too, so only at a boundary is the count the number
of characters that lie before it (`charsBefore_byteLength`). Between the ends of a slice it goes
up by the length of the slice (`charsBefore_of_slice?`), which stands between these indices
(`extract_of_slice?`).
-/

namespace GrammarLexer.Text

variable {text covered further : List Char} {start middle stop offset : Nat}

/-! ## Parts of a text -/

/-- A slice has a part of the text on each side, and its ends are where it meets them. -/
theorem slice?_eq_some_iff : slice? start stop text = some covered ↔
    ∃ front back, text = front ++ (covered ++ back) ∧ start = byteLength front ∧
      stop = start + byteLength covered := by
  constructor
  · intro sliced
    have parts := splitAtByte_append start text
    rw [← splitAtByte_append (stop - start) (splitAtByte start text).2] at parts
    unfold slice? at sliced
    simp only [Option.ite_none_right_eq_some, Option.some.injEq] at sliced
    obtain ⟨⟨starts, stops⟩, rfl⟩ := sliced
    exact ⟨_, _, parts.symm, starts.symm, stops.symm⟩
  · rintro ⟨front, back, rfl, rfl, rfl⟩
    exact slice?_append front covered back

/-- There is a slice between two offsets just if both are boundaries, in this order. -/
theorem exists_slice?_iff : (∃ covered, slice? start stop text = some covered) ↔
    IsBoundary text start ∧ IsBoundary text stop ∧ start ≤ stop := by
  constructor
  · rintro ⟨covered, sliced⟩
    obtain ⟨front, back, rfl, rfl, rfl⟩ := slice?_eq_some_iff.1 sliced
    refine ⟨⟨front, covered ++ back, rfl, rfl⟩, ⟨front ++ covered, back, ?_, ?_⟩,
      Nat.le_add_right _ _⟩
    · rw [List.append_assoc]
    · exact byteLength_append front covered
  · rintro ⟨first, last, le⟩
    obtain ⟨cursor, front, back, parts, starts, stops, -, -⟩ :=
      Cursor.exists_spans first last le
    exact ⟨cursor.rest, slice?_eq_some_iff.2 ⟨front, back, parts, starts, stops⟩⟩

/-- A slice is empty just if its ends are the same. -/
theorem eq_nil_iff_of_slice? (sliced : slice? start stop text = some covered) :
    covered = [] ↔ start = stop := by
  obtain ⟨-, -, -, -, stops⟩ := slice?_eq_some_iff.1 sliced
  cases covered with
  | nil => exact iff_of_true rfl stops.symm
  | cons c cs =>
    have positive := Char.utf8Size_pos c
    rw [byteLength_cons] at stops
    have apart : start ≠ stop := by omega
    exact iff_of_false (List.cons_ne_nil c cs) apart

/-- Between its first and its last byte stands the whole text. -/
theorem slice?_whole (text : List Char) : slice? 0 (byteLength text) text = some text := by
  refine slice?_eq_some_iff.2 ⟨[], [], ?_, rfl, (Nat.zero_add _).symm⟩
  rw [List.append_nil, List.nil_append]

/-- Two slices that meet make up one. -/
theorem slice?_append_slice? (left : slice? start middle text = some covered)
    (right : slice? middle stop text = some further) :
    slice? start stop text = some (covered ++ further) := by
  obtain ⟨front, rest, rfl, rfl, rfl⟩ := slice?_eq_some_iff.1 left
  obtain ⟨front', back, parts, meet, rfl⟩ := slice?_eq_some_iff.1 right
  -- the second slice begins what the first one leaves
  rw [← List.append_assoc] at parts
  rw [← byteLength_append] at meet
  obtain ⟨-, rfl⟩ := append_inj_of_byteLength parts meet
  refine slice?_eq_some_iff.2 ⟨front, back, ?_, rfl, ?_⟩
  · rw [List.append_assoc]
  · rw [byteLength_append, Nat.add_assoc]

/-! ## Indices of characters -/

/-- No character starts before the beginning. -/
theorem charsBefore_zero (text : List Char) : charsBefore 0 text = 0 := by
  cases text with
  | nil => rfl
  | cons c cs => exact if_pos rfl

/-- All characters start before the end, and none behind it. -/
theorem charsBefore_of_le (le : byteLength text ≤ offset) :
    charsBefore offset text = text.length := by
  induction text generalizing offset with
  | nil => rfl
  | cons c cs ih =>
    have positive := Char.utf8Size_pos c
    rw [byteLength_cons] at le
    have later : ¬ offset = 0 := by omega
    have rest : byteLength cs ≤ offset - c.utf8Size := by omega
    rw [charsBefore, if_neg later, ih rest, List.length_cons]

/-- Before a boundary as many characters start as lie before it. -/
theorem charsBefore_byteLength (front back : List Char) :
    charsBefore (byteLength front) (front ++ back) = front.length := by
  induction front with
  | nil => exact charsBefore_zero back
  | cons c front ih =>
    have positive := Char.utf8Size_pos c
    have later : ¬ c.utf8Size + byteLength front = 0 := by omega
    rw [List.cons_append, byteLength_cons, charsBefore, if_neg later, Nat.add_sub_cancel_left,
      ih, List.length_cons]

/-- Behind a slice there are as many characters more as it has. -/
theorem charsBefore_of_slice? (sliced : slice? start stop text = some covered) :
    charsBefore stop text = charsBefore start text + covered.length := by
  obtain ⟨front, back, rfl, rfl, rfl⟩ := slice?_eq_some_iff.1 sliced
  have behind := charsBefore_byteLength (front ++ covered) back
  rw [List.append_assoc, byteLength_append, List.length_append] at behind
  rw [behind, charsBefore_byteLength front (covered ++ back)]

/-- A slice stands between the indices that go with its ends. -/
theorem extract_of_slice? (sliced : slice? start stop text = some covered) :
    text.extract (charsBefore start text) (charsBefore stop text) = covered := by
  rw [charsBefore_of_slice? sliced]
  obtain ⟨front, back, rfl, rfl, -⟩ := slice?_eq_some_iff.1 sliced
  rw [charsBefore_byteLength, List.extract_eq_take_drop, List.drop_left,
    Nat.add_sub_cancel_left, List.take_left]

end GrammarLexer.Text
