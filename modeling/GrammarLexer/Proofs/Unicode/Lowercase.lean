import GrammarLexer.Unicode.Lowercase

/-!
# Lower case once and for all

What is in lower case stays as it is (`lowercase_lowercase`), so two texts that are alike in lower
case are alike to every further look at their case. This rests on a property of the tables: no
run moves a code point to one that the same or another run moves (`clears_lower`).
-/

namespace GrammarLexer.Unicode

/-- True if a run moves nothing to what another one moves, because one of them ends before the other
begins, or because they alternate. -/
def CaseRun.clears (run other : CaseRun) : Bool :=
  run.lastTarget.blt other.first || (other.last.blt run.target ||
    (other.step.beq 2 && (run.step.beq 2 || run.first.beq run.last) &&
      ((run.target + other.first) % 2).beq 1))

theorem CaseRun.moves_image {run other : CaseRun} (clears : run.clears other = true) {code : Nat}
    (moves : run.moves code = true) : other.moves (run.image code) = false := by
  rw [Bool.eq_false_iff]
  intro moves'
  simp only [CaseRun.moves, Bool.and_eq_true, decide_eq_true_eq, beq_iff_eq] at moves moves'
  obtain ⟨⟨reaches, within⟩, inStep⟩ := moves
  obtain ⟨⟨reaches', within'⟩, inStep'⟩ := moves'
  rw [CaseRun.image] at reaches' within' inStep'
  simp only [CaseRun.clears, CaseRun.lastTarget, Bool.or_eq_true, Bool.and_eq_true, Nat.blt_eq,
    Nat.beq_eq] at clears
  rcases clears with before | behind | ⟨⟨alternate, single⟩, odd⟩
  · omega
  · omega
  · rw [alternate] at inStep'
    rcases single with twos | same
    · rw [twos] at inStep
      omega
    · omega

/-- The capital i with a dot, as if a run moved it. -/
def dottedRun : CaseRun := ⟨'İ'.toNat, 'İ'.toNat, 1, 'i'.toNat⟩

theorem clears_lower : (Current.lower.all fun run =>
    (dottedRun :: Current.lower).all fun other => run.clears other) = true := by
  decide +kernel

/-- True of a character that lower case leaves as it is, wherever it stands. -/
def Settled (c : Char) : Prop := c ≠ 'Σ' ∧ lowercaseChar c = [c]

/-- A code point that no run moves, and not that of the capital i, is one of a settled character. -/
theorem settled_of_moves {c : Char}
    (still : ∀ run ∈ dottedRun :: Current.lower, run.moves c.toNat = false) : Settled c := by
  obtain ⟨dotless, others⟩ := List.forall_mem_cons.1 still
  constructor
  · rintro rfl
    exact absurd others (by decide +kernel)
  · have other : c ≠ 'İ' := by
      rintro rfl
      exact absurd dotless (by decide)
    have nothing : (Current.lower.find? fun run => run.moves c.toNat) = none :=
      List.find?_eq_none.2 fun run among => by simp [others run among]
    rw [lowercaseChar, if_neg other, nothing]

theorem toNat_ofNat_eq_or (code : Nat) :
    (Char.ofNat code).toNat = code ∨ (Char.ofNat code).toNat = 0 := by
  by_cases valid : code.isValidChar
  · rw [Char.ofNat, dif_pos valid]
    exact .inl rfl
  · rw [Char.ofNat, dif_neg valid]
    exact .inr rfl

/-- Lower case gives settled characters. -/
theorem settled_lowercaseChar {c : Char} (other : c ≠ 'Σ') : ∀ d ∈ lowercaseChar c, Settled d := by
  unfold lowercaseChar
  split
  · -- the small i, and the dot as a mark of its own
    have small : Settled 'i' := ⟨by decide, by decide +kernel⟩
    have dot : Settled '\u0307' := ⟨by decide, by decide +kernel⟩
    exact List.forall_mem_cons.2 ⟨small, List.forall_mem_singleton.2 dot⟩
  · rename_i dotless
    cases found : Current.lower.find? fun run => run.moves c.toNat with
    | none =>
      refine List.forall_mem_singleton.2 ⟨other, ?_⟩
      rw [lowercaseChar, if_neg dotless, found]
    | some run =>
      have among := List.mem_of_find?_eq_some found
      have moves : run.moves c.toNat = true := by simpa using List.find?_some found
      refine List.forall_mem_singleton.2 (settled_of_moves fun next listed => ?_)
      rcases toNat_ofNat_eq_or (run.image c.toNat) with same | zero
      · rw [same]
        have clears := List.all_eq_true.1 (List.all_eq_true.1 clears_lower run among) next listed
        exact CaseRun.moves_image clears moves
      · -- an image that is no character, of which there is none, would be read as zero
        have none : ∀ run ∈ dottedRun :: Current.lower, run.moves 0 = false := by decide +kernel
        rw [zero]
        exact none next listed

theorem settled_lowercaseFrom (before cs : List Char) :
    ∀ d ∈ lowercaseFrom before cs, Settled d := by
  induction cs generalizing before with
  | nil => exact fun _ absent => absurd absent List.not_mem_nil
  | cons c cs ih =>
    rw [lowercaseFrom]
    refine List.forall_mem_append.2 ⟨?_, ih (c :: before)⟩
    split
    · have final : Settled 'ς' := ⟨by decide, by decide +kernel⟩
      have sigma : Settled 'σ' := ⟨by decide, by decide +kernel⟩
      split
      · exact List.forall_mem_singleton.2 final
      · exact List.forall_mem_singleton.2 sigma
    · rename_i other
      exact settled_lowercaseChar other

theorem lowercaseFrom_of_settled (before : List Char) {cs : List Char}
    (settled : ∀ c ∈ cs, Settled c) : lowercaseFrom before cs = cs := by
  induction cs generalizing before with
  | nil => rfl
  | cons c cs ih =>
    obtain ⟨⟨other, same⟩, rest⟩ := List.forall_mem_cons.1 settled
    rw [lowercaseFrom, if_neg other, same, ih _ rest]
    rfl

/-- **Lower case.** A text in lower case is its own lower case. -/
theorem lowercase_lowercase (text : String) : lowercase (lowercase text) = lowercase text := by
  have settled := settled_lowercaseFrom [] text.toList
  unfold lowercase
  rw [String.toList_ofList, lowercaseFrom_of_settled [] settled]

end GrammarLexer.Unicode
