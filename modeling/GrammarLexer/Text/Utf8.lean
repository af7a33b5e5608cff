/-!
# Byte offsets in UTF-8 text

A text is a list of characters, and every offset in it is a count of UTF-8
bytes. This module relates the two: how many bytes a text takes, where it
splits at a byte offset, and how many characters start before one.

An offset inside a character is no place to split, so `splitAtByte` goes back
to the last character boundary, while `slice?` refuses it.
-/

namespace GrammarLexer.Text

/-- The number of bytes a text takes in UTF-8. -/
def byteLength : List Char → Nat
  | [] => 0
  | c :: cs => c.utf8Size + byteLength cs

@[simp] theorem byteLength_nil : byteLength [] = 0 := rfl

@[simp] theorem byteLength_cons (c : Char) (cs : List Char) :
    byteLength (c :: cs) = c.utf8Size + byteLength cs := rfl

@[simp] theorem byteLength_append (xs ys : List Char) :
    byteLength (xs ++ ys) = byteLength xs + byteLength ys := by
  induction xs with
  | nil => simp
  | cons x xs ih => simp [ih, Nat.add_assoc]

/-- Split at the last character boundary that is not above the byte offset. -/
def splitAtByte : Nat → List Char → List Char × List Char
  | _, [] => ([], [])
  | n, c :: cs =>
    if c.utf8Size ≤ n then
      let parts := splitAtByte (n - c.utf8Size) cs
      (c :: parts.1, parts.2)
    else ([], c :: cs)

/-- Splitting loses nothing. -/
theorem splitAtByte_append (n : Nat) (cs : List Char) :
    (splitAtByte n cs).1 ++ (splitAtByte n cs).2 = cs := by
  induction cs generalizing n with
  | nil => rfl
  | cons c cs ih =>
    unfold splitAtByte
    split
    · simp [ih]
    · rfl

/-- The first part never passes the byte offset. -/
theorem byteLength_splitAtByte_le (n : Nat) (cs : List Char) :
    byteLength (splitAtByte n cs).1 ≤ n := by
  induction cs generalizing n with
  | nil => simp [splitAtByte]
  | cons c cs ih =>
    unfold splitAtByte
    split
    · have := ih (n - c.utf8Size)
      simp only [byteLength_cons]
      omega
    · simp

/-- A split at a character boundary is exact. -/
theorem splitAtByte_byteLength (xs ys : List Char) :
    splitAtByte (byteLength xs) (xs ++ ys) = (xs, ys) := by
  induction xs with
  | nil =>
    cases ys with
    | nil => rfl
    | cons y ys =>
      have := Char.utf8Size_pos y
      simp [splitAtByte]
      omega
  | cons x xs ih => simp [splitAtByte, ih]

/-- The characters between two byte offsets, provided both are character
boundaries of the text. -/
def slice? (start stop : Nat) (cs : List Char) : Option (List Char) :=
  let front := splitAtByte start cs
  let middle := splitAtByte (stop - start) front.2
  if byteLength front.1 = start ∧ start + byteLength middle.1 = stop then some middle.1 else none

/-- How many characters start before a byte offset. -/
def charsBefore : Nat → List Char → Nat
  | _, [] => 0
  | n, c :: cs => if n = 0 then 0 else charsBefore (n - c.utf8Size) cs + 1

/-- Remove a leading text, if it is there. -/
def dropHead? (head text : String) : Option String :=
  (head.toList.isPrefixOf? text.toList).map String.ofList

/-- Remove a trailing text, if it is there. -/
def dropTail? (tail text : String) : Option String :=
  (tail.toList.isSuffixOf? text.toList).map String.ofList

end GrammarLexer.Text
