/-!
# Sets of characters

A set of characters is the ascending list of the ranges of code points in it.
Ranges that overlap or touch are kept as one. Counting from one character to the
next leaves out the surrogates, but two ranges with nothing but the surrogates
between them do not touch: they stay apart, and `complement` finds a gap there.
-/

namespace GrammarLexer.Text

/-- All code points between two, both included. -/
structure CharRange where
  first : Nat
  last : Nat
deriving DecidableEq, Repr

/-- The highest code point. -/
def lastCodePoint : Nat := 0x10FFFF

/-- The code point of the next character. -/
def nextCodePoint (code : Nat) : Nat := if code = 0xD7FF then 0xE000 else code + 1

/-- The code point of the character before. -/
def previousCodePoint (code : Nat) : Nat := if code = 0xE000 then 0xD7FF else code - 1

/-- A set of characters, as the ascending ranges of its code points. -/
structure CharSet where
  ranges : List CharRange
deriving DecidableEq, Repr

namespace CharSet

/-- The set without members. -/
def empty : CharSet := ⟨[]⟩

/-- The set of all characters. -/
def all : CharSet := ⟨[⟨0, lastCodePoint⟩]⟩

/-- The set of the characters between two, both included. -/
def range (first last : Char) : CharSet := ⟨[⟨first.toNat, last.toNat⟩]⟩

/-- The set of one character. -/
def single (c : Char) : CharSet := range c c

/-- Read a table that lists the first and the last code point of each range. -/
def ofBounds (bounds : List Nat) : CharSet := ⟨pairUp bounds⟩
where
  pairUp : List Nat → List CharRange
    | first :: last :: rest => ⟨first, last⟩ :: pairUp rest
    | _ => []

/-- Search ascending ranges for a code point. -/
def covers (code : Nat) : List CharRange → Bool
  | [] => false
  | range :: rest => if code < range.first then false else code ≤ range.last || covers code rest

/-- Membership. -/
def contains (set : CharSet) (c : Char) : Bool := covers c.toNat set.ranges

/-- True of the set without members. -/
def isEmpty (set : CharSet) : Bool := set.ranges.isEmpty

/-- The member of a set that has just one. -/
def only? (set : CharSet) : Option Char :=
  match set.ranges with
  | [⟨first, last⟩] => if first = last then some (Char.ofNat first) else none
  | _ => none

/-- Join the ranges of an ascending list that overlap or touch. -/
def joinInto (current : CharRange) : List CharRange → List CharRange
  | [] => [current]
  | next :: rest =>
    if next.first ≤ current.last + 1 then
      joinInto ⟨current.first, max current.last next.last⟩ rest
    else current :: joinInto next rest

/-- The set of the code points in ascending ranges. -/
def ofAscending : List CharRange → CharSet
  | [] => empty
  | range :: rest => ⟨joinInto range rest⟩

/-- The same set with the ranges that touch joined. -/
def joined (set : CharSet) : CharSet := ofAscending set.ranges

/-- Put a range at its place in an ascending list, and go on from there with
the ranges that are still to come. -/
def placeThen (range : CharRange) (others : List CharRange → List CharRange) :
    List CharRange → List CharRange
  | [] => range :: others []
  | next :: rest =>
    if range.first ≤ next.first then range :: others (next :: rest)
    else next :: placeThen range others rest

/-- Merge two ascending lists of ranges. -/
def mergeRanges : List CharRange → List CharRange → List CharRange
  | [], ys => ys
  | x :: xs, ys => placeThen x (mergeRanges xs) ys

/-- The members of either set. -/
def union (left right : CharSet) : CharSet := ofAscending (mergeRanges left.ranges right.ranges)

/-- The members of any of the sets. -/
def unionAll (sets : List CharSet) : CharSet := sets.foldl union empty

/-- The gaps before and after the rest of some ascending ranges, given the end of the
range before. A gap lies between two characters; where there is none, since only the
surrogates keep two ranges apart, the gap is made of the characters next to them. -/
def gapsAfter (last : Nat) : List CharRange → List CharRange
  | [] => if last < lastCodePoint then [⟨nextCodePoint last, lastCodePoint⟩] else []
  | range :: rest =>
    let first := nextCodePoint last
    let final := previousCodePoint range.first
    ⟨min first final, max first final⟩ :: gapsAfter range.last rest

/-- The characters that are not in the set: those in the gaps between its ranges. -/
def complement (set : CharSet) : CharSet :=
  match set.ranges with
  | [] => all
  | range :: rest =>
    let gaps := gapsAfter range.last rest
    if 0 < range.first then ⟨⟨0, previousCodePoint range.first⟩ :: gaps⟩ else ⟨gaps⟩

/-- The parts of a range that are in ascending ranges. -/
def within (range : CharRange) : List CharRange → List CharRange
  | [] => []
  | other :: rest =>
    if range.last < other.first then []
    else if other.last < range.first then within range rest
    else ⟨max range.first other.first, min range.last other.last⟩ :: within range rest

/-- The parts of a range that are outside of ascending ranges. -/
def outside (range : CharRange) : List CharRange → List CharRange
  | [] => [range]
  | other :: rest =>
    if range.last < other.first then [range]
    else if other.last < range.first then outside range rest
    else
      let after :=
        if other.last < range.last then outside ⟨nextCodePoint other.last, range.last⟩ rest
        else []
      if range.first < other.first then ⟨range.first, previousCodePoint other.first⟩ :: after
      else after

/-- The members of both sets. -/
def inter (left right : CharSet) : CharSet :=
  ⟨left.ranges.flatMap fun range => within range right.ranges⟩

/-- The members of the first set that are not in the second. -/
def diff (left right : CharSet) : CharSet :=
  ⟨left.ranges.flatMap fun range => outside range right.ranges⟩

/-- The members of exactly one of the sets. -/
def symmDiff (left right : CharSet) : CharSet :=
  (left.union right).diff (left.inter right)

/-- True if every member is an ASCII character. -/
def isAscii (set : CharSet) : Bool := set.ranges.all fun range => range.last ≤ 0x7F

end CharSet

end GrammarLexer.Text
