import GrammarLexer.Proofs.Lexer.Tiling
import GrammarLexer.Proofs.Text.Slice

/-!
# Tokens counted in characters

A reader of tokens who counts characters, not bytes, sees no gap either: the ranges in
characters of the tokens of a text lead from 0 to the number of its characters, each is as long
as the text of its token, and these texts make up the text (`charRanges_tile`).

This is so because tokens start and stop at boundaries of the text as it was given. Any other
token has no text at all (`Token.whole_iff`), and its range counts a character that it divides
as one that starts before the offset. What holds of all tokens of a text holds as well of those
that tile a part of it between two boundaries (`Tiles.adjoining`, `Tiles.slice?_join`).
-/

namespace GrammarLexer

open Text

/-- Ranges that lead from one index to another. None is empty, the first starts at the one
index, each further one starts where the range before it stops, and the last stops at the other
index. -/
def Adjoining : Nat → Nat → List (Nat × Nat) → Prop
  | start, stop, [] => start = stop
  | start, stop, range :: rest =>
    range.1 = start ∧ range.1 < range.2 ∧ Adjoining range.2 stop rest

/-- A token covers whole characters of a text, at least one, and its range in characters says
which ones: it is as long as what the token covers, and that is what stands there. -/
structure Token.Whole (source : String) (token : Token) : Prop where
  nonempty : token.text source ≠ ""
  length : (token.charRange source).1 + (token.text source).length = (token.charRange source).2
  extract : source.toList.extract (token.charRange source).1 (token.charRange source).2 =
    (token.text source).toList

variable {source : String} {start stop : Nat} {tokens : List Token}

/-! ## One token -/

namespace Token

variable {token : Token} {covered : List Char}

/-- The text of a token is what stands between its ends. -/
theorem text_of_slice? (sliced : slice? token.start token.stop source.toList = some covered) :
    token.text source = String.ofList covered := by
  rw [Token.text, sliced]

/-- A token that covers something covers whole characters. -/
theorem whole_of_slice? (sliced : slice? token.start token.stop source.toList = some covered)
    (positive : 0 < token.length) : token.Whole source := by
  have spelled := text_of_slice? sliced
  refine ⟨?_, ?_, ?_⟩
  · have apart : token.start ≠ token.stop := by
      unfold Token.stop
      omega
    rw [spelled, Ne, String.ofList_eq_empty_iff, eq_nil_iff_of_slice? sliced]
    exact apart
  · rw [spelled, String.length_ofList]
    exact (charsBefore_of_slice? sliced).symm
  · rw [spelled, String.toList_ofList]
    exact extract_of_slice? sliced

/-- A token covers whole characters just if it is not empty and lies between two boundaries. -/
theorem whole_iff : token.Whole source ↔
    IsBoundary source.toList token.start ∧ IsBoundary source.toList token.stop ∧
      0 < token.length := by
  constructor
  · intro whole
    cases sliced : slice? token.start token.stop source.toList with
    | none => exact absurd (by rw [Token.text, sliced]) whole.nonempty
    | some covered =>
      obtain ⟨first, last, -⟩ := exists_slice?_iff.1 ⟨covered, sliced⟩
      refine ⟨first, last, Nat.pos_of_ne_zero fun empty => whole.nonempty ?_⟩
      have same : token.start = token.stop := by rw [Token.stop, empty, Nat.add_zero]
      rw [text_of_slice? sliced, (eq_nil_iff_of_slice? sliced).2 same, String.ofList_nil]
  · rintro ⟨first, last, positive⟩
    obtain ⟨covered, sliced⟩ := exists_slice?_iff.2 ⟨first, last, Nat.le_add_right _ _⟩
    exact whole_of_slice? sliced positive

/-- A token over both bytes of a character has it as its text; one over the second byte has none. -/
example : (⟨.text, 0, 2⟩ : Token).text "é" = "é" ∧ (⟨.text, 1, 1⟩ : Token).text "é" = "" ∧
    (⟨.text, 1, 1⟩ : Token).charRange "é" = (1, 1) := by decide +kernel

/-- The range of such a token is not empty. -/
theorem Whole.lt (whole : token.Whole source) :
    (token.charRange source).1 < (token.charRange source).2 := by
  have positive : (token.text source).length ≠ 0 := by
    rw [Ne, String.length_eq_zero_iff]
    exact whole.nonempty
  have length := whole.length
  omega

end Token

/-! ## The tokens of a stretch -/

namespace Tiles

/-- Each token of a tiling covers whole characters. -/
theorem whole (tiles : Tiles (IsBoundary source.toList) start stop tokens) {token : Token}
    (member : token ∈ tokens) : token.Whole source :=
  Token.whole_iff.2 (tiles.of_mem member)

/-- The ranges of the tokens lead from the index where the stretch starts to the one where it
stops. -/
theorem adjoining (tiles : Tiles (IsBoundary source.toList) start stop tokens) :
    Adjoining (charsBefore start source.toList) (charsBefore stop source.toList)
      (tokens.map (·.charRange source)) := by
  induction tokens generalizing start with
  | nil => exact congrArg (charsBefore · source.toList) tiles.2
  | cons token rest ih =>
    have whole := tiles.whole List.mem_cons_self
    obtain ⟨-, rfl, -, tiles⟩ := tiles
    exact ⟨rfl, whole.lt, ih tiles⟩

/-- The texts of the tokens make up what stands in the stretch. -/
theorem slice?_join (tiles : Tiles (IsBoundary source.toList) start stop tokens) :
    slice? start stop source.toList =
      some (String.join (tokens.map (·.text source))).toList := by
  induction tokens generalizing start with
  | nil =>
    obtain ⟨here, rfl⟩ := tiles
    obtain ⟨covered, sliced⟩ := exists_slice?_iff.2 ⟨here, here, Nat.le_refl start⟩
    obtain rfl := (eq_nil_iff_of_slice? sliced).2 rfl
    exact sliced
  | cons token rest ih =>
    obtain ⟨first, rfl, -, tiles⟩ := tiles
    obtain ⟨covered, sliced⟩ :=
      exists_slice?_iff.2 ⟨first, tiles.mark_start, Nat.le_add_right token.start token.length⟩
    rw [slice?_append_slice? sliced (ih tiles), List.map_cons, String.join_cons,
      String.toList_append, Token.text_of_slice? sliced, String.toList_ofList]

end Tiles

/-! ## The tokens of a text -/

/-- **Character ranges.** The ranges in characters of the tokens of a text, from whatever lexer
and with whatever options, lead from 0 to the number of characters of the text as it was given.
Each is as long as the text of its token, which is never empty, and is where that text stands.
The texts of the tokens, one after the other, are the text. -/
theorem Lexer.charRanges_tile (lexer : Lexer) (text : String) (options : Options) :
    Adjoining 0 text.length ((lexer.tokens text options).map (·.charRange text)) ∧
      (∀ token ∈ lexer.tokens text options, token.Whole text) ∧
      String.join ((lexer.tokens text options).map (·.text text)) = text := by
  have tiles : Tiles (IsBoundary text.toList) 0 (byteLength text.toList)
      (lexer.tokens text options) :=
    (lexer.tiled_start text options).drain.mono fun _ cut => cut.isBoundary
  refine ⟨?_, fun token member => tiles.whole member, ?_⟩
  · have adjoining := tiles.adjoining
    rw [charsBefore_zero, charsBefore_of_le (Nat.le_refl _), String.length_toList] at adjoining
    exact adjoining
  · have joined := tiles.slice?_join
    rw [slice?_whole, Option.some.injEq] at joined
    exact (String.toList_inj.1 joined).symm

end GrammarLexer
