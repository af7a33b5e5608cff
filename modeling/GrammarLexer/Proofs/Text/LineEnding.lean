import GrammarLexer.Proofs.Text.Boundary
import GrammarLexer.Text.LineEnding
import Mathlib.Order.Monotone.Basic

/-!
# Offsets of a folded text

An offset of the folded text and the offset of the source that it stands for
determine each other: `toSource` is strictly monotone for every offset map
(`toSource_strictMono`), and `toFolded` inverts it where the places of the pairs
ascend (`toFolded_toSource`), as they do in the map of a text.

What lies before a boundary of the folded text is the folded form of what lies
before its offset in the source (`exists_source_parts`), and the source is not cut
there between a carriage return and its line feed. So every boundary goes to a
boundary of the source that divides no pair (`isCut_toSource`).
-/

namespace GrammarLexer.Text

/-! ## Places of the pairs -/

theorem utf8Size_return : '\r'.utf8Size = 1 := rfl

theorem utf8Size_newline : '\n'.utf8Size = 1 := rfl

/-- A character that does not begin a pair leaves no place behind. -/
theorem joinsFrom_cons {c : Char} {cs : List Char} (offset : Nat)
    (single : c = '\r' → cs.head? ≠ some '\n') :
    OffsetMap.joinsFrom offset (c :: cs) = OffsetMap.joinsFrom (offset + c.utf8Size) cs := by
  rw [OffsetMap.joinsFrom]
  rintro rest rfl rfl
  exact single rfl rfl

/-- A carriage return that does not begin a pair is folded alone. -/
theorem foldLineEndings_return {cs : List Char} (single : cs.head? ≠ some '\n') :
    foldLineEndings ('\r' :: cs) = '\n' :: foldLineEndings cs := by
  rw [foldLineEndings]
  rintro rest rfl
  exact single rfl

/-- Any other character stays. -/
theorem foldLineEndings_cons {c : Char} (cs : List Char) (other : c ≠ '\r') :
    foldLineEndings (c :: cs) = c :: foldLineEndings cs := by
  rw [foldLineEndings]
  · rintro rest rfl
    exact absurd rfl other
  · exact other

/-- Nothing is folded to nothing only. -/
theorem foldLineEndings_eq_nil {cs : List Char} : foldLineEndings cs = [] ↔ cs = [] := by
  fun_cases foldLineEndings cs <;> simp

/-- No carriage return is left. -/
theorem return_notMem_foldLineEndings (cs : List Char) : '\r' ∉ foldLineEndings cs := by
  fun_induction foldLineEndings cs with
  | case1 cs ih => exact List.not_mem_cons_of_ne_of_not_mem (by decide) ih
  | case2 cs single ih => exact List.not_mem_cons_of_ne_of_not_mem (by decide) ih
  | case3 c cs pair other ih => exact List.not_mem_cons_of_ne_of_not_mem (Ne.symm other) ih
  | case4 => exact List.not_mem_nil

/-- A text without carriage returns is folded already. -/
theorem foldLineEndings_of_notMem {cs : List Char} (none : '\r' ∉ cs) :
    foldLineEndings cs = cs := by
  induction cs with
  | nil => rfl
  | cons c cs ih =>
    obtain ⟨other, none⟩ := List.ne_and_not_mem_of_not_mem_cons none
    rw [foldLineEndings_cons cs (Ne.symm other), ih none]

/-- Folding twice changes nothing more. -/
theorem foldLineEndings_idem (cs : List Char) :
    foldLineEndings (foldLineEndings cs) = foldLineEndings cs :=
  foldLineEndings_of_notMem (return_notMem_foldLineEndings cs)

namespace OffsetMap

/-- The places in a text lie behind its beginning. -/
theorem lt_of_mem_joinsFrom {offset join : Nat} {cs : List Char}
    (member : join ∈ joinsFrom offset cs) : offset < join := by
  fun_induction joinsFrom offset cs with
  | case1 offset cs ih =>
    rcases List.mem_cons.1 member with here | later
    · omega
    · have := ih later
      omega
  | case2 offset c cs single ih =>
    have := ih member
    have := Char.utf8Size_pos c
    omega
  | case3 => exact absurd member List.not_mem_nil

/-- The places in a text ascend. -/
theorem joinsFrom_ascending (offset : Nat) (cs : List Char) :
    (joinsFrom offset cs).Pairwise (· < ·) := by
  fun_induction joinsFrom offset cs with
  | case1 offset cs ih =>
    exact List.pairwise_cons.2 ⟨fun join member => lt_of_mem_joinsFrom member, ih⟩
  | case2 offset c cs single ih => exact ih
  | case3 => exact List.Pairwise.nil

/-- No place lies at or before the beginning. -/
theorem countP_joinsFrom_self (offset : Nat) (cs : List Char) :
    (joinsFrom offset cs).countP (· ≤ offset) = 0 := by
  rw [List.countP_eq_zero]
  intro join member
  have := lt_of_mem_joinsFrom member
  simp only [decide_eq_true_eq]
  omega

/-- A text without carriage returns has no pairs. -/
theorem joinsFrom_of_notMem {cs : List Char} (offset : Nat) (none : '\r' ∉ cs) :
    joinsFrom offset cs = [] := by
  induction cs generalizing offset with
  | nil => rfl
  | cons c cs ih =>
    obtain ⟨other, none⟩ := List.ne_and_not_mem_of_not_mem_cons none
    rw [joinsFrom_cons offset fun begins => absurd begins.symm other, ih _ none]

/-- A folded text has the offsets it has. -/
theorem ofText_foldLineEndings (cs : List Char) : ofText (foldLineEndings cs) = ⟨[]⟩ :=
  congrArg OffsetMap.mk (joinsFrom_of_notMem 0 (return_notMem_foldLineEndings cs))

/-! ## There and back -/

/-- A greater offset has at least as many pairs before it. -/
theorem toSource_strictMono (m : OffsetMap) : StrictMono m.toSource := by
  intro left right less
  have grows : m.joins.countP (· ≤ left) ≤ m.joins.countP (· ≤ right) := by
    refine List.countP_mono_left ?_
    intro join _ before
    simp only [decide_eq_true_eq] at before ⊢
    omega
  unfold toSource
  omega

/-- The number of ends of pairs in the source at or before the offset that stands
for `folded`, where `shift` pairs have gone before. -/
theorem countP_sourceJoins {joins : List Nat} (ascending : joins.Pairwise (· < ·))
    (folded shift : Nat) :
    (joins.mapIdx fun k join => join + (k + 1 + shift)).countP
        (· ≤ folded + joins.countP (· ≤ folded) + shift) =
      joins.countP (· ≤ folded) := by
  induction joins generalizing shift with
  | nil => rfl
  | cons join rest ih =>
    obtain ⟨before, ascending⟩ := List.pairwise_cons.1 ascending
    have shifted : (rest.mapIdx fun k join => join + (k + 1 + 1 + shift)) =
        rest.mapIdx fun k join => join + (k + 1 + (shift + 1)) := by
      congr 1
      funext k join
      omega
    rw [List.mapIdx_cons, shifted]
    by_cases reached : join ≤ folded
    · have total : (join :: rest).countP (· ≤ folded) = rest.countP (· ≤ folded) + 1 :=
        List.countP_cons_of_pos (by simpa using reached)
      have inner := ih ascending (shift + 1)
      have same : folded + (rest.countP (· ≤ folded) + 1) + shift =
          folded + rest.countP (· ≤ folded) + (shift + 1) := by omega
      rw [total, same, List.countP_cons_of_pos (by simp; omega), inner]
    · -- no later place is reached either, since the places ascend
      have none : (join :: rest).countP (· ≤ folded) = 0 := by
        rw [List.countP_eq_zero]
        intro other member
        simp only [decide_eq_true_eq]
        rcases List.mem_cons.1 member with rfl | later
        · exact reached
        · have := before other later
          omega
      rw [none, List.countP_eq_zero]
      intro other member
      simp only [decide_eq_true_eq]
      rcases List.mem_cons.1 member with rfl | later
      · omega
      · obtain ⟨k, bound, rfl⟩ := List.mem_mapIdx.1 later
        have := before rest[k] (List.getElem_mem bound)
        omega

/-- Moving an offset to the source and back changes nothing. -/
theorem toFolded_toSource {m : OffsetMap} (ascending : m.joins.Pairwise (· < ·))
    (folded : Nat) : m.toFolded (m.toSource folded) = folded := by
  have counted := countP_sourceJoins ascending folded 0
  simp only [Nat.add_zero] at counted
  unfold toFolded toSource sourceJoins
  rw [counted]
  omega

/-- The map of a text is inverted. -/
theorem toFolded_toSource_ofText (cs : List Char) (folded : Nat) :
    (ofText cs).toFolded ((ofText cs).toSource folded) = folded :=
  toFolded_toSource (joinsFrom_ascending 0 cs) folded

end OffsetMap

/-! ## Boundaries of the source -/

/-- A place between a carriage return and its line feed. -/
def SplitsPair (front back : List Char) : Prop :=
  front.getLast? = some '\r' ∧ back.head? = some '\n'

/-- A character put in front divides no pair, unless it begins one. -/
theorem not_splitsPair_cons {c : Char} {front back : List Char}
    (whole : ¬ SplitsPair front back)
    (single : c = '\r' → (front ++ back).head? ≠ some '\n') :
    ¬ SplitsPair (c :: front) back := by
  rintro ⟨last, next⟩
  cases front with
  | nil => exact single (by simpa using last) next
  | cons first front =>
    rw [List.getLast?_cons_cons] at last
    exact whole ⟨last, next⟩

/-- A boundary of the folded text divides the source, too, and not within a pair. What
lies on each side in the folded text is the folded form of what lies there in the
source. -/
theorem exists_source_parts {cs front back : List Char}
    (folded : foldLineEndings cs = front ++ back) (offset : Nat) :
    ∃ sourceFront sourceBack, cs = sourceFront ++ sourceBack ∧
      foldLineEndings sourceFront = front ∧ foldLineEndings sourceBack = back ∧
      ¬ SplitsPair sourceFront sourceBack ∧
      byteLength sourceFront = byteLength front +
        (OffsetMap.joinsFrom offset cs).countP (· ≤ offset + byteLength front) := by
  -- the places of the pairs further on are counted from the character after the first
  induction front generalizing cs offset with
  | nil =>
    refine ⟨[], cs, rfl, rfl, folded, ?_, ?_⟩
    · intro split
      exact absurd split.1 (by simp)
    · simp only [byteLength_nil, Nat.add_zero, Nat.zero_add]
      exact (OffsetMap.countP_joinsFrom_self offset cs).symm
  | cons first front ih =>
    revert folded
    fun_cases foldLineEndings cs with
    | case1 cs =>
      intro folded
      obtain ⟨rfl, tail⟩ := List.cons.inj folded
      obtain ⟨sourceFront, sourceBack, rfl, here, there, whole, length⟩ :=
        ih tail (offset + 1)
      refine ⟨'\r' :: '\n' :: sourceFront, sourceBack, rfl, ?_, there, ?_, ?_⟩
      · rw [foldLineEndings, here]
      · unfold SplitsPair
        rw [List.getLast?_cons_cons]
        exact not_splitsPair_cons whole fun other => absurd other (by decide)
      · rw [OffsetMap.joinsFrom, List.countP_cons_of_pos (by simp [utf8Size_newline])]
        simp only [byteLength_cons, utf8Size_return, utf8Size_newline, length,
          ← Nat.add_assoc]
        omega
    | case2 cs single =>
      intro folded
      obtain ⟨rfl, tail⟩ := List.cons.inj folded
      obtain ⟨sourceFront, sourceBack, rfl, here, there, whole, length⟩ :=
        ih tail (offset + 1)
      have alone : (sourceFront ++ sourceBack).head? ≠ some '\n' := by
        intro next
        obtain ⟨rest, joined⟩ := List.head?_eq_some_iff.1 next
        exact single rest joined
      refine ⟨'\r' :: sourceFront, sourceBack, rfl, ?_, there,
        not_splitsPair_cons whole fun _ => alone, ?_⟩
      · rw [foldLineEndings_return, here]
        intro next
        obtain ⟨rest, rfl⟩ := List.head?_eq_some_iff.1 next
        exact alone rfl
      · rw [joinsFrom_cons offset fun _ => alone]
        simp only [byteLength_cons, utf8Size_return, utf8Size_newline, length,
          ← Nat.add_assoc]
    | case3 c cs pair other =>
      intro folded
      obtain ⟨rfl, tail⟩ := List.cons.inj folded
      obtain ⟨sourceFront, sourceBack, rfl, here, there, whole, length⟩ :=
        ih tail (offset + c.utf8Size)
      refine ⟨c :: sourceFront, sourceBack, rfl, ?_, there,
        not_splitsPair_cons whole fun begins => absurd begins other, ?_⟩
      · rw [foldLineEndings_cons _ other, here]
      · rw [joinsFrom_cons offset fun begins => absurd begins other]
        simp only [byteLength_cons, length, ← Nat.add_assoc]
    | case4 => intro folded; exact absurd folded (by simp)

/-- A place to cut a text: a boundary that does not lie between a carriage return and
its line feed. -/
def IsCut (cs : List Char) (offset : Nat) : Prop :=
  ∃ front back, cs = front ++ back ∧ byteLength front = offset ∧ ¬ SplitsPair front back

/-- A cut is a boundary. -/
theorem IsCut.isBoundary {cs : List Char} {offset : Nat} (cut : IsCut cs offset) :
    IsBoundary cs offset := by
  obtain ⟨front, back, parts, length, _⟩ := cut
  exact ⟨front, back, parts, length⟩

namespace OffsetMap

/-- Every boundary of the folded text stands for a cut of the source. -/
theorem isCut_toSource {cs : List Char} {offset : Nat}
    (boundary : IsBoundary (foldLineEndings cs) offset) :
    IsCut cs ((ofText cs).toSource offset) := by
  obtain ⟨front, back, folded, rfl⟩ := boundary
  obtain ⟨sourceFront, sourceBack, parts, _, _, whole, length⟩ :=
    exists_source_parts folded 0
  refine ⟨sourceFront, sourceBack, parts, ?_, whole⟩
  rw [length, Nat.zero_add]
  rfl

/-- The beginnings of both texts go together. -/
theorem toSource_ofText_zero (cs : List Char) : (ofText cs).toSource 0 = 0 := by
  rw [toSource, Nat.zero_add]
  exact countP_joinsFrom_self 0 cs

/-- The ends of both texts go together. -/
theorem toSource_ofText_byteLength (cs : List Char) :
    (ofText cs).toSource (byteLength (foldLineEndings cs)) = byteLength cs := by
  obtain ⟨sourceFront, sourceBack, parts, _, there, _, length⟩ :=
    exists_source_parts (List.append_nil (foldLineEndings cs)).symm 0
  rw [foldLineEndings_eq_nil] at there
  rw [there, List.append_nil] at parts
  rw [← parts, Nat.zero_add] at length
  exact length.symm

end OffsetMap

end GrammarLexer.Text
