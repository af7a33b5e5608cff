import GrammarLexer.Text.Utf8

/-!
# Character boundaries

A byte offset of a text is a boundary if the bytes before it are whole
characters (`IsBoundary`). A boundary determines the two parts of the text
(`append_inj_of_byteLength`), and the boundaries of a part are boundaries of
the whole: this is what `Marks` carries through every cut that a scan makes,
for whatever property the boundaries of the whole text have.
-/

namespace GrammarLexer.Text

/-! ## Lengths of parts -/

/-- Taking some characters and then some more. -/
theorem byteLength_take_add (cs : List Char) (start count : Nat) :
    byteLength (cs.take start) + byteLength ((cs.drop start).take count) =
      byteLength (cs.take (start + count)) := by
  rw [List.take_add, byteLength_append]

/-- More characters take at least as many bytes. -/
theorem byteLength_take_mono (cs : List Char) {start stop : Nat} (le : start ≤ stop) :
    byteLength (cs.take start) ≤ byteLength (cs.take stop) := by
  have parts := byteLength_take_add cs start (stop - start)
  rw [Nat.add_sub_cancel' le] at parts
  omega

/-- The characters taken and those left make up the text. -/
theorem byteLength_take_drop (cs : List Char) (count : Nat) :
    byteLength (cs.take count) + byteLength (cs.drop count) = byteLength cs := by
  rw [← byteLength_append, List.take_append_drop]

/-- Two ways to split a text at one byte offset are the same. -/
theorem append_inj_of_byteLength {front back front' back' : List Char}
    (same : front ++ back = front' ++ back')
    (length : byteLength front = byteLength front') : front = front' ∧ back = back' := by
  have left := splitAtByte_byteLength front back
  have right := splitAtByte_byteLength front' back'
  rw [length, same, right] at left
  exact ⟨congrArg Prod.fst left.symm, congrArg Prod.snd left.symm⟩

/-- The bytes counted are those of the text in UTF-8. -/
theorem byteLength_toList (text : String) : byteLength text.toList = text.utf8ByteSize := by
  have counted (cs : List Char) : (String.ofList cs).utf8ByteSize = byteLength cs := by
    induction cs with
    | nil => rfl
    | cons c cs ih =>
      have split : String.ofList (c :: cs) = String.singleton c ++ String.ofList cs := by
        rw [String.singleton_eq_ofList, ← String.ofList_append, List.singleton_append]
      rw [split, String.utf8ByteSize_append, String.utf8ByteSize_singleton, ih,
        byteLength_cons]
  rw [← counted, String.ofList_toList]

/-! ## Boundaries -/

/-- A byte offset with whole characters before it. -/
def IsBoundary (cs : List Char) (offset : Nat) : Prop :=
  ∃ front back, cs = front ++ back ∧ byteLength front = offset

/-- A boundary lies within the text. -/
theorem IsBoundary.le {cs : List Char} {offset : Nat} (boundary : IsBoundary cs offset) :
    offset ≤ byteLength cs := by
  obtain ⟨front, back, rfl, rfl⟩ := boundary
  rw [byteLength_append]
  exact Nat.le_add_right _ _

/-- A text is split at a boundary. -/
theorem isBoundary_splitAtByte (offset : Nat) (cs : List Char) :
    IsBoundary cs (byteLength (splitAtByte offset cs).1) :=
  ⟨_, _, (splitAtByte_append offset cs).symm, rfl⟩

/-- No later boundary is within reach of the offset. -/
theorem IsBoundary.le_splitAtByte {cs : List Char} {boundary offset : Nat}
    (isBoundary : IsBoundary cs boundary) (le : boundary ≤ offset) :
    boundary ≤ byteLength (splitAtByte offset cs).1 := by
  obtain ⟨front, back, rfl, rfl⟩ := isBoundary
  induction front generalizing offset with
  | nil => exact Nat.zero_le _
  | cons c front ih =>
    rw [byteLength_cons] at le
    have fits : c.utf8Size ≤ offset := by omega
    have rest := ih (by omega : byteLength front ≤ offset - c.utf8Size)
    rw [List.cons_append, splitAtByte, if_pos fits]
    simp only [byteLength_cons]
    omega

/-- A property that holds at every boundary of a part that starts at an offset. -/
def Marks (mark : Nat → Prop) (position : Nat) (rest : List Char) : Prop :=
  ∀ count, mark (position + byteLength (rest.take count))

section Marks

variable {mark : Nat → Prop} {position : Nat} {rest : List Char}

/-- The part begins at a boundary. -/
theorem Marks.start (marks : Marks mark position rest) : mark position := by
  simpa using marks 0

/-- The part ends at a boundary. -/
theorem Marks.stop (marks : Marks mark position rest) :
    mark (position + byteLength rest) := by
  simpa using marks rest.length

/-- What is left after some characters keeps its boundaries. -/
theorem Marks.drop (marks : Marks mark position rest) (count : Nat) :
    Marks mark (position + byteLength (rest.take count)) (rest.drop count) := by
  intro more
  rw [Nat.add_assoc, byteLength_take_add]
  exact marks (count + more)

/-- A part of the part keeps its boundaries. -/
theorem Marks.take (marks : Marks mark position rest) (count : Nat) :
    Marks mark position (rest.take count) := by
  intro more
  rw [List.take_take]
  exact marks (min more count)

end Marks

/-- The boundaries of what follows some characters of a text. -/
theorem marks_isBoundary (front rest : List Char) :
    Marks (IsBoundary (front ++ rest)) (byteLength front) rest := by
  intro count
  refine ⟨front ++ rest.take count, rest.drop count, ?_, byteLength_append _ _⟩
  rw [List.append_assoc, List.take_append_drop]

end GrammarLexer.Text
