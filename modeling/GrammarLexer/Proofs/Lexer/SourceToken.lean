import GrammarLexer.Lexer.Run
import GrammarLexer.Proofs.Text.LineEnding
import GrammarLexer.Proofs.Token.Tiling

/-!
# Tokens moved to the source

Moving tokens back to the text as it was given keeps all that matters of them. Since
offsets move strictly monotonely, tokens that meet still meet and others still do not,
so moving and joining can be exchanged (`join?_sourceToken`), and a tiling of the folded
text becomes one of the source (`Tiles.map_sourceToken`).
-/

namespace GrammarLexer

open Text

namespace Text.OffsetMap

variable (offsets : OffsetMap)

/-- A token never starts behind its stop, and no more so after it is moved. -/
theorem toSource_start_le (token : Token) :
    offsets.toSource token.start ≤ offsets.toSource token.stop :=
  offsets.toSource_strictMono.monotone (Nat.le_add_right _ _)

/-- The stop of a moved token is its stop, moved. -/
theorem stop_sourceToken (token : Token) :
    (offsets.sourceToken token).stop = offsets.toSource token.stop :=
  Nat.add_sub_cancel' (offsets.toSource_start_le token)

/-- A token is as empty as before. -/
theorem length_sourceToken_pos {token : Token} (positive : 0 < token.length) :
    0 < (offsets.sourceToken token).length :=
  Nat.sub_pos_of_lt (offsets.toSource_strictMono (Nat.lt_add_of_pos_right positive))

/-- A map without pairs leaves tokens where they are. -/
theorem sourceToken_plain (token : Token) : (OffsetMap.mk []).sourceToken token = token := by
  obtain ⟨kind, start, length⟩ := token
  have length' : start + length - start = length := by omega
  simp only [sourceToken, toSource, List.countP_nil, Nat.add_zero, Token.stop, length']

/-- Neighbours are joined as they were before they were moved. -/
theorem join?_sourceToken (left right : Token) :
    (offsets.sourceToken left).join? (offsets.sourceToken right) =
      (left.join? right).map offsets.sourceToken := by
  unfold Token.join?
  rw [stop_sourceToken]
  by_cases joins : left.kind = right.kind ∧ left.stop = right.start
  · obtain ⟨same, meet⟩ := joins
    rw [if_pos ⟨same, by rw [meet]; rfl⟩, if_pos ⟨same, meet⟩, Option.map_some]
    have first := offsets.toSource_start_le left
    have second := offsets.toSource_start_le right
    have whole : (⟨left.kind, left.start, left.length + right.length⟩ : Token).stop =
        right.stop := by
      rw [Token.stop, Token.stop, ← meet, Token.stop, Nat.add_assoc]
    simp only [sourceToken, whole, Option.some.injEq, Token.mk.injEq, true_and]
    rw [meet] at first ⊢
    omega
  · have apart : ¬ ((offsets.sourceToken left).kind = (offsets.sourceToken right).kind ∧
        offsets.toSource left.stop = (offsets.sourceToken right).start) := by
      rintro ⟨same, meet⟩
      exact joins ⟨same, offsets.toSource_strictMono.injective meet⟩
    rw [if_neg apart, if_neg joins, Option.map_none]

end Text.OffsetMap

/-- The tokens of a stretch of the folded text, moved, tile what it stands for. -/
theorem Tiles.map_sourceToken {mark moved : Nat → Prop} {start stop : Nat}
    {tokens : List Token} (offsets : OffsetMap)
    (marks : ∀ offset, mark offset → moved (offsets.toSource offset))
    (tiles : Tiles mark start stop tokens) :
    Tiles moved (offsets.toSource start) (offsets.toSource stop)
      (tokens.map offsets.sourceToken) := by
  induction tokens generalizing start with
  | nil => exact ⟨marks start tiles.1, congrArg offsets.toSource tiles.2⟩
  | cons token rest ih =>
    obtain ⟨here, rfl, positive, tiles⟩ := tiles
    refine ⟨marks _ here, rfl, offsets.length_sourceToken_pos positive, ?_⟩
    rw [offsets.stop_sourceToken]
    exact ih tiles

end GrammarLexer
