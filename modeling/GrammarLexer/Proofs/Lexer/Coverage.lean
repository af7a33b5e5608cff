import GrammarLexer.Proofs.Lexer.Tiling
import GrammarLexer.Proofs.Text.Cursor
import GrammarLexer.Proofs.Text.Offsets

/-!
# What tokens cover

Line endings are folded before a text is scanned, and the spans of tokens are moved back after.
So what a token covers in the text as it was given is, folded, what has been scanned
(`tokens_cover`). It need not be so for any part of a text: if a carriage return is cut off from
its line feed, each of them becomes a line feed of its own. But tokens start and stop at cuts,
and between two cuts a text is folded by itself (`exists_slice_of_isCut`).
-/

namespace GrammarLexer

open Text

namespace Text

variable {text : List Char} {start stop : Nat}

/-- At a cut no pair is divided. -/
theorem IsCut.not_splitsPair {front back : List Char}
    (cut : IsCut (front ++ back) (byteLength front)) : ¬ SplitsPair front back := by
  obtain ⟨front', back', parts, length, whole⟩ := cut
  obtain ⟨rfl, rfl⟩ := append_inj_of_byteLength parts length.symm
  exact whole

/-- **Between two cuts.** What stands there in the source is, folded, what stands in the folded
text between the offsets that go with the cuts. -/
theorem exists_slice_of_isCut (first : IsCut text start) (last : IsCut text stop)
    (le : start ≤ stop) :
    ∃ covered, slice? start stop text = some covered ∧
      slice? ((OffsetMap.ofText text).toFolded start) ((OffsetMap.ofText text).toFolded stop)
        (foldLineEndings text) = some (foldLineEndings covered) := by
  obtain ⟨⟨before, covered, after⟩, front, back, rfl, rfl, rfl, -, -⟩ :=
    Cursor.exists_spans first.isBoundary last.isBoundary le
  simp only at first last ⊢
  have begins := first.not_splitsPair
  have ends : ¬ SplitsPair (front ++ covered) back := by
    refine IsCut.not_splitsPair ?_
    rw [List.append_assoc, byteLength_append]
    exact last
  -- neither what is covered nor what comes before it ends within a pair
  have inner : ¬ SplitsPair covered back := fun divided => ends (divided.behind front)
  have outer : ¬ SplitsPair front covered := by
    rintro ⟨return_, feed⟩
    refine begins ⟨return_, ?_⟩
    rw [List.head?_append, feed, Option.some_or]
  refine ⟨covered, slice?_append front covered back, ?_⟩
  have there := OffsetMap.toFolded_byteLength front (covered ++ back)
  have there' := OffsetMap.toFolded_byteLength (front ++ covered) back
  rw [List.append_assoc, byteLength_append, foldLineEndings_append outer,
    byteLength_append] at there'
  rw [there, there', foldLineEndings_append begins, foldLineEndings_append inner]
  exact slice?_append _ _ _

end Text

/-- **What tokens cover.** The source between the offsets that go with two boundaries of the
folded text is, folded, what stands between these. And each token covers a part of the source
that is, folded, what stands in the folded text between the offsets that go with its ends. -/
theorem Lexer.tokens_cover (lexer : Lexer) (text : String) (options : Options) :
    (∀ start stop, IsBoundary (lexer.start text options).folded start →
        IsBoundary (lexer.start text options).folded stop → start ≤ stop →
        ∃ covered,
          slice? ((lexer.start text options).offsets.toSource start)
              ((lexer.start text options).offsets.toSource stop) text.toList = some covered ∧
            slice? start stop (lexer.start text options).folded =
              some (foldLineEndings covered)) ∧
      ∀ token ∈ lexer.tokens text options, ∃ covered,
        slice? token.start token.stop text.toList = some covered ∧
          token.text text = String.ofList covered ∧
          slice? ((lexer.start text options).offsets.toFolded token.start)
              ((lexer.start text options).offsets.toFolded token.stop)
              (lexer.start text options).folded = some (foldLineEndings covered) := by
  have reads := (lexer.tiled_start text options).reads
  rw [reads.folded, reads.offsets]
  refine ⟨?_, ?_⟩
  · intro start stop first last le
    have between := exists_slice_of_isCut (OffsetMap.isCut_toSource first)
      (OffsetMap.isCut_toSource last) ((OffsetMap.toSource_strictMono _).monotone le)
    rw [OffsetMap.toFolded_toSource_ofText, OffsetMap.toFolded_toSource_ofText] at between
    exact between
  · intro token member
    obtain ⟨first, last, -⟩ := (lexer.tiled_start text options).drain.of_mem member
    obtain ⟨covered, here, there⟩ :=
      exists_slice_of_isCut first last (Nat.le_add_right token.start token.length)
    refine ⟨covered, here, ?_, there⟩
    rw [Token.text, here]

end GrammarLexer
