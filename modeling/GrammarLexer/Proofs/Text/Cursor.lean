import GrammarLexer.Proofs.Text.Boundary
import GrammarLexer.Text.Cursor

/-!
# Spans of a text

A cursor spans the text between two byte offsets if its rest is what stands there and it knows
the characters next to it (`Cursor.Spans`). Any two boundaries are spanned (`exists_spans`), and
moving a cursor or ending its span early spans less of the same text (`Spans.slice`).
-/

namespace GrammarLexer.Text

/-- What stands between two boundaries is cut out. -/
theorem slice?_append (front middle back : List Char) :
    slice? (byteLength front) (byteLength front + byteLength middle) (front ++ (middle ++ back)) =
      some middle := by
  unfold slice?
  simp only [splitAtByte_byteLength, Nat.add_sub_cancel_left, and_self, if_true]

namespace Cursor

/-- A cursor at the beginning of a span of a text, between two byte offsets. -/
def Spans (text : List Char) (start stop : Nat) (cursor : Cursor) : Prop :=
  ∃ front back, text = front ++ (cursor.rest ++ back) ∧ start = byteLength front ∧
    stop = start + byteLength cursor.rest ∧ cursor.before = front.getLast? ∧
    cursor.after = back.head?

variable {text : List Char} {start stop : Nat} {cursor : Cursor}

/-- There is a span between any two boundaries. -/
theorem exists_spans (first : IsBoundary text start) (last : IsBoundary text stop)
    (le : start ≤ stop) : ∃ cursor : Cursor, cursor.Spans text start stop := by
  obtain ⟨front, rest, rfl, rfl⟩ := first
  obtain ⟨front', back, parts, rfl⟩ := last
  rcases List.append_eq_append_iff.1 parts with ⟨middle, rfl, rfl⟩ | ⟨middle, rfl, rfl⟩
  · exact ⟨⟨front.getLast?, middle, back.head?⟩, front, back, rfl, rfl, byteLength_append _ _,
      rfl, rfl⟩
  · -- the second boundary is not before the first, so they are the same
    rw [byteLength_append] at le
    have nothing : middle = [] := by
      cases middle with
      | nil => rfl
      | cons c cs =>
        have := Char.utf8Size_pos c
        rw [byteLength_cons] at le
        omega
    subst nothing
    exact ⟨⟨front'.getLast?, [], rest.head?⟩, front', rest, by simp, by simp, by simp, rfl, rfl⟩

/-- Going on spans what is left. -/
theorem Spans.advance (spans : cursor.Spans text start stop) (count : Nat) :
    (cursor.advance count).Spans text (start + cursor.bytesTo count) stop := by
  obtain ⟨front, back, rfl, rfl, rfl, before, after⟩ := spans
  refine ⟨front ++ cursor.rest.take count, back, ?_, (byteLength_append _ _).symm, ?_, ?_, after⟩
  · show _ = _ ++ (cursor.rest.drop count ++ back)
    rw [List.append_assoc, ← List.append_assoc (cursor.rest.take count), List.take_append_drop]
  · have parts := byteLength_take_drop cursor.rest count
    simp only [advance, bytesTo]
    omega
  · show lastOr cursor.before (cursor.rest.take count) = _
    rw [before, List.getLast?_append, lastOr, Option.orElse_eq_orElse, Option.orElse_eq_or]

/-- Ending early spans the beginning. -/
theorem Spans.take (spans : cursor.Spans text start stop) (count : Nat) :
    (cursor.take count).Spans text start (start + cursor.bytesTo count) := by
  obtain ⟨front, back, rfl, rfl, rfl, before, after⟩ := spans
  refine ⟨front, cursor.rest.drop count ++ back, ?_, rfl, rfl, before, ?_⟩
  · show _ = front ++ (cursor.rest.take count ++ _)
    rw [← List.append_assoc (cursor.rest.take count), List.take_append_drop]
  · show ((cursor.rest.drop count).head? <|> cursor.after) = _
    rw [after, List.head?_append, Option.orElse_eq_orElse, Option.orElse_eq_or]

/-- More characters of the span take more bytes. -/
theorem bytesTo_lt {first last : Nat} (lt : first < last) (within : last ≤ cursor.rest.length) :
    cursor.bytesTo first < cursor.bytesTo last := by
  have parts := byteLength_take_add cursor.rest first (last - first)
  rw [Nat.add_sub_cancel' (Nat.le_of_lt lt)] at parts
  cases middle : (cursor.rest.drop first).take (last - first) with
  | nil =>
    have length := congrArg List.length middle
    simp only [List.length_take, List.length_drop, List.length_nil] at length
    omega
  | cons c cs =>
    have := Char.utf8Size_pos c
    rw [middle, byteLength_cons] at parts
    simp only [bytesTo]
    omega

/-- A part of a span. -/
theorem Spans.slice (spans : cursor.Spans text start stop) {first last : Nat}
    (le : first ≤ last) :
    (cursor.slice first last).Spans text (start + cursor.bytesTo first)
      (start + cursor.bytesTo last) := by
  have part := (spans.advance first).take (last - first)
  have parts := byteLength_take_add cursor.rest first (last - first)
  rw [Nat.add_sub_cancel' le] at parts
  have reaches : start + cursor.bytesTo first + (cursor.advance first).bytesTo (last - first) =
      start + cursor.bytesTo last := by
    simp only [bytesTo, Cursor.advance]
    omega
  rwa [reaches] at part

end Cursor

end GrammarLexer.Text
