/-!
# Globs

A glob describes file names. In it `?` stands for any character, `*` for any number
of them, and brackets for one of a list of characters and ranges, or for any other
character if the list begins with `!`. None of the first two crosses a separator,
which `**` does; it may stand only for whole components of a path.

`Glob.parse?` is `none` on a text that is no glob.
-/

namespace GrammarLexer

/-- One of the members of a list in brackets. -/
inductive GlobMember where
  | char (c : Char)
  | range (first last : Char)
deriving DecidableEq, Repr

/-- A part of a glob. -/
inductive GlobToken where
  | char (c : Char)
  | anyChar
  | anySequence
  | anyComponents
  | within (members : List GlobMember)
  | except (members : List GlobMember)
deriving DecidableEq, Repr

/-- The parts of a glob. -/
structure Glob where
  tokens : List GlobToken
deriving DecidableEq, Repr

namespace Glob

/-- The separator of the components of a path. -/
def separator : Char := '/'

/-! ## Reading -/

/-- Read the members of a list: ranges where a dash stands between two characters,
and else single characters. -/
def readMembers : List Char → List GlobMember
  | first :: '-' :: last :: rest => .range first last :: readMembers rest
  | c :: rest => .char c :: readMembers rest
  | [] => []

/-- Read a list up to its closing bracket. The first character always belongs to it. -/
def readList? : List Char → Option (List GlobMember × List Char)
  | [] => none
  | c :: rest =>
    match rest.dropWhile (· != ']') with
    | [] => none
    | _ :: after => some (readMembers (c :: rest.takeWhile (· != ']')), after)

/-- Add the mark for any components, unless it has just been added. -/
def addComponents : List GlobToken → List GlobToken
  | .anyComponents :: token :: before => .anyComponents :: token :: before
  | before => .anyComponents :: before

/-- Read a glob from a place on. It is given the parts so far in reverse, and whether
a component of a path begins there. -/
def readFrom? : Nat → List GlobToken → Bool → List Char → Option (List GlobToken)
  | _, tokens, _, [] => some tokens.reverse
  | 0, _, _, _ => none
  | fuel + 1, tokens, _, '?' :: rest => readFrom? fuel (.anyChar :: tokens) false rest
  | fuel + 1, tokens, starts, '*' :: rest =>
    match rest with
    | '*' :: rest =>
      if !starts then none
      else
        match rest with
        | [] => some (addComponents tokens).reverse
        | c :: rest =>
          if c = separator then readFrom? fuel (addComponents tokens) true rest else none
    | rest => readFrom? fuel (.anySequence :: tokens) false rest
  | fuel + 1, tokens, _, '[' :: '!' :: rest =>
    match readList? rest with
    | some (members, rest) => readFrom? fuel (.except members :: tokens) false rest
    | none => none
  | fuel + 1, tokens, _, '[' :: rest =>
    match readList? rest with
    | some (members, rest) => readFrom? fuel (.within members :: tokens) false rest
    | none => none
  | fuel + 1, tokens, _, c :: rest =>
    readFrom? fuel (.char c :: tokens) (c == separator) rest

/-- The glob that a text writes. -/
def parse? (text : String) : Option Glob :=
  (readFrom? text.toList.length [] true text.toList).map Glob.mk

/-! ## Matching -/

/-- True if a list in brackets has a character. -/
def hasMember (members : List GlobMember) (c : Char) : Bool :=
  members.any fun
    | .char member => member == c
    | .range first last => first ≤ c && c ≤ last

/-- True if a part that stands for one character admits this one. -/
def admits : GlobToken → Char → Bool
  | .char member, c => member == c
  | .anyChar, c => c != separator
  | .within members, c => c != separator && hasMember members c
  | .except members, c => c != separator && !hasMember members c
  | _, _ => false

/-- True if the rest of a glob matches after any number of characters of the same
component. -/
def afterSequence (rest : List Char → Bool) : List Char → Bool
  | [] => rest []
  | c :: cs => rest (c :: cs) || (c != separator && afterSequence rest cs)

/-- True if the rest of a glob matches after any number of components, or at the end
of the text. -/
def afterComponents (rest : List Char → Bool) : List Char → Bool
  | [] => rest []
  | c :: cs => (c == separator && rest cs) || afterComponents rest cs

/-- True if the parts of a glob match a text. -/
def matchTokens : List GlobToken → List Char → Bool
  | [], cs => cs.isEmpty
  | .anySequence :: rest, cs => afterSequence (matchTokens rest) cs
  | .anyComponents :: rest, cs => matchTokens rest cs || afterComponents (matchTokens rest) cs
  | _ :: _, [] => false
  | token :: rest, c :: cs => admits token c && matchTokens rest cs

/-- True if a glob matches a text. -/
def isMatch (glob : Glob) (text : String) : Bool := matchTokens glob.tokens text.toList

end Glob

end GrammarLexer
