import GrammarLexer.Catalog.FileName
import Mathlib.Data.List.Basic

/-!
# The names of copies

`FileName.stem?` looks for the first suffix of a copy that a name ends with. None of them ends with
another one, so there is at most one to find, and their order does not matter (`stem?_eq_some_iff`).
-/

namespace GrammarLexer

/-- A tail can be taken off the texts that end with it. -/
theorem Text.dropTail?_eq_some_iff {tail text front : String} :
    Text.dropTail? tail text = some front ↔ text = front ++ tail := by
  rw [Text.dropTail?, Option.map_eq_some_iff, ← String.toList_inj, String.toList_append]
  constructor
  · rintro ⟨cs, dropped, rfl⟩
    rw [String.toList_ofList]
    exact (List.isSuffixOf?_eq_some_iff_append_eq.1 dropped).symm
  · intro whole
    exact ⟨_, List.isSuffixOf?_eq_some_iff_append_eq.2 whole.symm, String.ofList_toList⟩

namespace FileName

/-- True of what is left of a name without the suffix of a copy. -/
def IsStem (name stem : String) : Prop :=
  stem ≠ "" ∧ ∃ suffix ∈ copySuffixes, name = stem ++ suffix

/-- No suffix of a copy ends with another one. -/
theorem copySuffixes_apart : ∀ first ∈ copySuffixes, ∀ second ∈ copySuffixes,
    first.toList <:+ second.toList → first = second := by
  decide +kernel

/-- So a name without the suffix of a copy is always the same. -/
theorem eq_of_append_copySuffix {stem stem' suffix suffix' : String}
    (copy : suffix ∈ copySuffixes) (copy' : suffix' ∈ copySuffixes)
    (same : stem ++ suffix = stem' ++ suffix') : stem = stem' := by
  have whole : stem.toList ++ suffix.toList = stem'.toList ++ suffix'.toList := by
    rw [← String.toList_append, ← String.toList_append, same]
  have equal : suffix = suffix' := by
    rcases List.suffix_or_suffix_of_suffix ⟨_, whole⟩ (List.suffix_append _ _) with ends | ends
    · exact copySuffixes_apart _ copy _ copy' ends
    · exact (copySuffixes_apart _ copy' _ copy ends).symm
  rw [equal] at whole
  exact String.toList_inj.1 (List.append_cancel_right whole)

/-- The suffix is taken off a name that has one and is more than that. -/
theorem stem?_eq_some_iff {name stem : String} : stem? name = some stem ↔ IsStem name stem := by
  unfold stem?
  cases found : copySuffixes.findSome? (Text.dropTail? · name) with
  | none =>
    rw [List.findSome?_eq_none_iff] at found
    constructor
    · exact fun none => nomatch none
    · rintro ⟨-, suffix, copy, whole⟩
      exact nomatch (found suffix copy).symm.trans (Text.dropTail?_eq_some_iff.2 whole)
  | some front =>
    obtain ⟨suffix, copy, dropped⟩ := List.exists_of_findSome?_eq_some found
    have whole := Text.dropTail?_eq_some_iff.1 dropped
    have only : IsStem name stem ↔ stem ≠ "" ∧ front = stem := by
      refine and_congr_right fun _ => ⟨?_, ?_⟩
      · rintro ⟨suffix', copy', whole'⟩
        exact eq_of_append_copySuffix copy copy' (whole.symm.trans whole')
      · rintro rfl
        exact ⟨suffix, copy, whole⟩
    rw [only]
    dsimp only
    split
    · rename_i empty
      simp only [reduceCtorEq, false_iff, not_and]
      rintro nonempty rfl
      exact nonempty empty
    · rename_i nonempty
      rw [Option.some.injEq]
      exact ⟨fun same => ⟨same ▸ nonempty, same⟩, And.right⟩

end FileName

end GrammarLexer
