import GrammarLexer.Text.CharSet

/-!
# Characters as byte ranges

The UTF-8 forms of the characters in a range, as a few sequences of byte ranges: a
sequence stands for every choice of one byte from each of its ranges. Such a
sequence covers a range of characters only if the range does not cross certain
bounds, so a range is first cut there: at the surrogates, where the number of bytes
changes, and where a change in one byte meets incomplete runs of the bytes after it.
-/

namespace GrammarLexer.Text

/-- All bytes between two, both included. -/
structure ByteRange where
  first : Nat
  last : Nat
deriving DecidableEq, Repr

/-- The UTF-8 form of a code point. -/
def utf8Bytes (code : Nat) : List Nat :=
  if code ≤ 0x7F then [code]
  else if code ≤ 0x7FF then [0xC0 + code / 0x40, 0x80 + code % 0x40]
  else if code ≤ 0xFFFF then
    [0xE0 + code / 0x1000, 0x80 + code / 0x40 % 0x40, 0x80 + code % 0x40]
  else
    [0xF0 + code / 0x40000, 0x80 + code / 0x1000 % 0x40, 0x80 + code / 0x40 % 0x40,
     0x80 + code % 0x40]

/-- Where to cut a range that lies in several blocks of a size, if it does not begin
with a block or does not end with one: behind the block it begins in, or before the
one it ends in. -/
def blockCut? (block first last : Nat) : Option Nat :=
  if first / block = last / block then none
  else if first % block ≠ 0 then some ((first / block + 1) * block)
  else if last % block ≠ block - 1 then some (last / block * block)
  else none

/-- Where to cut a range whose code points take different numbers of bytes. -/
def lengthCut? (first last : Nat) : Option Nat :=
  [0x80, 0x800, 0x10000].find? fun bound => first < bound && bound ≤ last

/-- Where to cut a range so that its parts are closer to sequences of byte ranges. -/
def byteCut? (first last : Nat) : Option Nat :=
  lengthCut? first last <|> blockCut? 0x40 first last <|> blockCut? 0x1000 first last <|>
    blockCut? 0x40000 first last

theorem blockCut?_bounds {block first last cut : Nat} (pos : 0 < block) (le : first ≤ last)
    (found : blockCut? block first last = some cut) : first < cut ∧ cut ≤ last := by
  have before : first / block ≤ last / block := Nat.div_le_div_right le
  have firstParts := Nat.div_add_mod first block
  have lastParts := Nat.div_add_mod last block
  have firstRest := Nat.mod_lt first pos
  unfold blockCut? at found
  split at found
  · simp at found
  · rename_i apart
    have step : first / block + 1 ≤ last / block := by omega
    have grows : block * (first / block + 1) ≤ block * (last / block) :=
      Nat.mul_le_mul_left block step
    rw [Nat.mul_add, Nat.mul_one] at grows
    split at found
    · simp only [Option.some.injEq] at found
      rw [Nat.mul_comm, Nat.mul_add, Nat.mul_one] at found
      omega
    · split at found
      · simp only [Option.some.injEq] at found
        rw [Nat.mul_comm] at found
        omega
      · simp at found

theorem lengthCut?_bounds {first last cut : Nat}
    (found : lengthCut? first last = some cut) : first < cut ∧ cut ≤ last := by
  have := List.find?_some found
  simpa using this

/-- A cut leaves a part of the range on each side. -/
theorem byteCut?_bounds {first last cut : Nat} (le : first ≤ last)
    (found : byteCut? first last = some cut) : first < cut ∧ cut ≤ last := by
  unfold byteCut? at found
  simp only [Option.orElse_eq_orElse, Option.orElse_eq_or, Option.or_eq_some_iff] at found
  rcases found with found | ⟨_, found | ⟨_, found | ⟨_, found⟩⟩⟩
  · exact lengthCut?_bounds found
  · exact blockCut?_bounds (by decide) le found
  · exact blockCut?_bounds (by decide) le found
  · exact blockCut?_bounds (by decide) le found

/-- The sequences of byte ranges of the code points between two, in ascending order. -/
def byteSequences (first last : Nat) : List (List ByteRange) :=
  if le : first ≤ last then
    match found : byteCut? first last with
    | some cut =>
      have := byteCut?_bounds le found
      byteSequences first (cut - 1) ++ byteSequences cut last
    | none => [List.zipWith ByteRange.mk (utf8Bytes first) (utf8Bytes last)]
  else []
termination_by last - first

/-- The sequences of byte ranges of the characters in a range of code points, leaving
out the surrogates. -/
def CharRange.byteSequences (range : CharRange) : List (List ByteRange) :=
  if range.first < 0xE000 && 0xD7FF < range.last then
    Text.byteSequences range.first 0xD7FF ++ Text.byteSequences 0xE000 range.last
  else Text.byteSequences range.first range.last

/-- The sequences of byte ranges of the members of a set. -/
def CharSet.byteSequences (set : CharSet) : List (List ByteRange) :=
  set.ranges.flatMap CharRange.byteSequences

end GrammarLexer.Text
