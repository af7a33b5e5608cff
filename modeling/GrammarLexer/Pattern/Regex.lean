import GrammarLexer.Pattern.Expr
import GrammarLexer.Unicode.Query

/-!
# Regular expressions

What a pattern means once its switches have been applied: classes are sets of
characters, and literals that ignore case are classes too.

Regular expressions are built by `concat`, `alternation`, `set` and `repeated`,
which keep them in a normal form. In it sequences and alternations are flat,
neighbouring literals are one, alternatives of single characters are one class,
and alternatives that all begin with the same items share them.
-/

namespace GrammarLexer.Pattern

open Text Unicode

/-- A condition on a place between two characters. -/
inductive Look where
  | textStart
  | textEnd
  | lineStart (crlf : Bool)
  | lineEnd (crlf : Bool)
  | wordBoundary (negated unicode : Bool)
  | wordStart (unicode : Bool)
  | wordEnd (unicode : Bool)
  | wordStartHalf (unicode : Bool)
  | wordEndHalf (unicode : Bool)
deriving DecidableEq, Repr

/-- A regular expression. -/
inductive Regex where
  | empty
  | literal (chars : List Char)
  | set (members : CharSet)
  | look (condition : Look)
  | repeated (min : Nat) (max : Option Nat) (greedy : Bool) (body : Regex)
  | capture (index : Nat) (body : Regex)
  | concat (items : List Regex)
  | alternation (branches : List Regex)
deriving Repr

namespace Regex

/-! ## Comparison -/

mutual

/-- True of two regular expressions that are written alike. -/
def same : Regex → Regex → Bool
  | .empty, .empty => true
  | .literal xs, .literal ys => xs == ys
  | .set xs, .set ys => xs == ys
  | .look x, .look y => x == y
  | .repeated min max greedy x, .repeated min' max' greedy' y =>
    min == min' && max == max' && greedy == greedy' && same x y
  | .capture index x, .capture index' y => index == index' && same x y
  | .concat xs, .concat ys => sameList xs ys
  | .alternation xs, .alternation ys => sameList xs ys
  | _, _ => false

/-- The same for two lists. -/
def sameList : List Regex → List Regex → Bool
  | [], [] => true
  | x :: xs, y :: ys => same x y && sameList xs ys
  | _, _ => false

end

/-! ## Building -/

/-- A class; one of a single character is that character. -/
def ofSet (members : CharSet) : Regex :=
  match members.only? with
  | some c => .literal [c]
  | none => .set members

/-- The items of a regular expression in a sequence. -/
def items : Regex → List Regex
  | .empty => []
  | .concat items => items
  | r => [r]

/-- Join neighbouring literals. -/
def joinLiterals : List Regex → List Regex
  | [] => []
  | .literal xs :: rest =>
    match joinLiterals rest with
    | .literal ys :: rest => .literal (xs ++ ys) :: rest
    | rest => .literal xs :: rest
  | r :: rest => r :: joinLiterals rest

/-- A sequence. -/
def ofItems (regexes : List Regex) : Regex :=
  match joinLiterals (regexes.flatMap items) with
  | [] => .empty
  | [r] => r
  | rs => .concat rs

/-- The branches of a regular expression in an alternation. -/
def branches : Regex → List Regex
  | .alternation branches => branches
  | r => [r]

/-- The character that a regular expression is, if it is one. -/
def char? : Regex → Option Char
  | .literal [c] => some c
  | _ => none

/-- The class that a regular expression is, if it is one. -/
def set? : Regex → Option CharSet
  | .set members => some members
  | _ => none

/-- Alternatives that are all single characters, or all classes, as one class. -/
def asClass? (regexes : List Regex) : Option Regex :=
  match regexes.mapM char? with
  | some chars => some (ofSet (.unionAll (chars.map .single)))
  | none => (regexes.mapM set?).map fun sets => ofSet (.unionAll sets)

/-- How many items two lists have in common at their beginning. -/
def commonLength : List Regex → List Regex → Nat
  | x :: xs, y :: ys => if same x y then commonLength xs ys + 1 else 0
  | _, _ => 0

/-- How many items all of some alternatives begin with; none if one of them is no
sequence. -/
def sharedLength : List Regex → Nat
  | .concat first :: rest =>
    rest.foldl (fun shared r =>
      match r with
      | .concat items => min shared (commonLength first items)
      | _ => 0) first.length
  | _ => 0

/-- An alternation, but for the sharing of first items. -/
def ofBranchesPlain (regexes : List Regex) : Regex :=
  match regexes.flatMap branches with
  | [] => .set .empty
  | [r] => r
  | rs => (asClass? rs).getD (.alternation rs)

/-- An alternation. -/
def ofBranches (regexes : List Regex) : Regex :=
  match ofBranchesPlain regexes with
  | .alternation rs =>
    let shared := sharedLength rs
    if shared = 0 then .alternation rs
    else
      let tails := rs.map fun r => ofItems (r.items.drop shared)
      ofItems ((rs.head?.map items).getD [] |>.take shared |> (· ++ [ofBranchesPlain tails]))
  | r => r

mutual

/-- True of a regular expression that takes no character, whatever it matches. -/
def takesNothing : Regex → Bool
  | .empty => true
  | .look _ => true
  | .repeated _ _ _ body => body.takesNothing
  | .capture _ body => body.takesNothing
  | .concat items => allTakeNothing items
  | .alternation branches => allTakeNothing branches
  | _ => false

/-- The same for all of a list. -/
def allTakeNothing : List Regex → Bool
  | [] => true
  | r :: rest => r.takesNothing && allTakeNothing rest

end

mutual

/-- The least number of characters that a match takes; none if a part cannot match. -/
def leastLength? : Regex → Option Nat
  | .empty => some 0
  | .literal chars => some chars.length
  | .set members => if members.ranges.isEmpty then none else some 1
  | .look _ => some 0
  | .repeated min _ _ body => body.leastLength?.map (min * ·)
  | .capture _ body => body.leastLength?
  | .concat items => leastOfItems? items
  | .alternation branches => leastOfBranches? branches

/-- The same for a sequence of items. -/
def leastOfItems? : List Regex → Option Nat
  | [] => some 0
  | item :: rest => do
    let first ← item.leastLength?
    let others ← leastOfItems? rest
    some (first + others)

/-- The same for branches. -/
def leastOfBranches? : List Regex → Option Nat
  | [] => none
  | [branch] => branch.leastLength?
  | branch :: rest => do
    let first ← branch.leastLength?
    let others ← leastOfBranches? rest
    some (Nat.min first others)

end

/-- True of a regular expression all parts of which can match and that takes a
character in every match. -/
def alwaysTakes (r : Regex) : Bool := r.leastLength?.any (0 < ·)

/-- A repetition. What takes no character is repeated once at most. -/
def ofRepeated (min : Nat) (max : Option Nat) (greedy : Bool) (body : Regex) : Regex :=
  let (min, max) :=
    if body.takesNothing then (Nat.min min 1, some ((max.map (Nat.min 1)).getD 1)) else (min, max)
  if min = 0 && max = some 0 then .empty
  else if min = 1 && max = some 1 then body
  else .repeated min max greedy body

end Regex

/-! ## Switches -/

/-- The switches in force at a place of a pattern. -/
structure Flags where
  caseInsensitive : Bool
  multiLine : Bool
  dotMatchesNewline : Bool
  swapGreed : Bool
  unicode : Bool
  crlf : Bool
deriving DecidableEq, Repr

namespace Flags

/-- Set one switch. Blanks have been dealt with in reading. -/
def set (flags : Flags) : Flag × Bool → Flags
  | (.caseInsensitive, value) => { flags with caseInsensitive := value }
  | (.multiLine, value) => { flags with multiLine := value }
  | (.dotMatchesNewline, value) => { flags with dotMatchesNewline := value }
  | (.swapGreed, value) => { flags with swapGreed := value }
  | (.unicode, value) => { flags with unicode := value }
  | (.crlf, value) => { flags with crlf := value }
  | (.ignoreSpace, _) => flags

/-- Make a change of switches. -/
def apply (flags : Flags) (change : FlagChange) : Flags := change.foldl set flags

/-- Close a class under case, if case is ignored. -/
def foldClass (flags : Flags) (members : CharSet) : CharSet :=
  if !flags.caseInsensitive then members
  else if flags.unicode then closeUnderCase members
  else closeUnderAsciiCase members

/-- Turn a class round. Without Unicode a class must stay in ASCII, since it could
match part of a character otherwise. -/
def negateClass? (flags : Flags) (negated : Bool) (members : CharSet) : Option CharSet :=
  let result := if negated then members.complement else members
  if flags.unicode || result.isAscii then some result else none

/-- The character that a literal stands for. Without Unicode, a byte that is no
ASCII character is none. -/
def literalChar? (flags : Flags) (literal : Literal) : Option Char :=
  if !flags.unicode && literal.byByte && 0x7F < literal.char.toNat then none
  else some literal.char

/-- The character that a literal stands for in a class. Without Unicode, it must
be an ASCII character. -/
def classChar? (flags : Flags) (literal : Literal) : Option Char :=
  if flags.unicode || literal.char.toNat ≤ 0x7F then some literal.char else none

/-- A literal character, which is a class if case is ignored and it has case. -/
def literal? (flags : Flags) (literal : Literal) : Option Regex :=
  (flags.literalChar? literal).map fun c => .ofSet (flags.foldClass (.single c))

end Flags

/-! ## Classes -/

/-- The members of a class with a letter of its own. -/
def Shorthand.chars (unicode : Bool) : Shorthand → CharSet
  | .digit => if unicode then Property.digit else .ofBounds [0x30, 0x39]
  | .space => if unicode then Property.whiteSpace else .ofBounds [0x9, 0xD, 0x20, 0x20]
  | .word =>
    if unicode then Property.word
    else .ofBounds [0x30, 0x39, 0x41, 0x5A, 0x5F, 0x5F, 0x61, 0x7A]

/-- The members of a class with a letter of its own, turned round if so written.
These are closed under case as they are. -/
def shorthandClass? (flags : Flags) (letters : Shorthand) (negated : Bool) : Option CharSet :=
  flags.negateClass? negated (letters.chars flags.unicode)

/-- The members of a class of ASCII characters. -/
def posixClass (name : String) : CharSet :=
  match name with
  | "alnum" => .ofBounds [0x30, 0x39, 0x41, 0x5A, 0x61, 0x7A]
  | "alpha" => .ofBounds [0x41, 0x5A, 0x61, 0x7A]
  | "ascii" => .ofBounds [0x0, 0x7F]
  | "blank" => .ofBounds [0x9, 0x9, 0x20, 0x20]
  | "cntrl" => .ofBounds [0x0, 0x1F, 0x7F, 0x7F]
  | "digit" => .ofBounds [0x30, 0x39]
  | "graph" => .ofBounds [0x21, 0x7E]
  | "lower" => .ofBounds [0x61, 0x7A]
  | "print" => .ofBounds [0x20, 0x7E]
  | "punct" => .ofBounds [0x21, 0x2F, 0x3A, 0x40, 0x5B, 0x60, 0x7B, 0x7E]
  | "space" => .ofBounds [0x9, 0xD, 0x20, 0x20]
  | "upper" => .ofBounds [0x41, 0x5A]
  | "word" => .ofBounds [0x30, 0x39, 0x41, 0x5A, 0x5F, 0x5F, 0x61, 0x7A]
  | "xdigit" => .ofBounds [0x30, 0x39, 0x41, 0x46, 0x61, 0x66]
  | _ => .empty

/-- The members of a class named by a property. -/
def queryClass? : PropertyQuery → Option CharSet
  | .named name => charsOfName? name
  | .valued property value => charsOfValue? property value

/-- The members of a class named by a property, turned round if so written. There
are none without Unicode. -/
def propertyClass? (flags : Flags) (query : PropertyQuery) (negated : Bool) : Option CharSet := do
  if !flags.unicode then none
  else flags.negateClass? negated (flags.foldClass (← queryClass? query))

/-- Combine two classes. -/
def ClassOperator.combine : ClassOperator → CharSet → CharSet → CharSet
  | .intersection => .inter
  | .difference => .diff
  | .symmetricDifference => .symmDiff

mutual

/-- The members of a class, before case is ignored in it as a whole. A class in
another has its ranges joined. -/
def classMembers? (flags : Flags) : ClassExpr → Option CharSet
  | .nothing => some .empty
  | .literal literal => (flags.classChar? literal).map .single
  | .range first last => do
    some (.range (← flags.classChar? first) (← flags.classChar? last))
  | .posix name negated => flags.negateClass? negated (flags.foldClass (posixClass name))
  | .property query negated => propertyClass? flags query negated
  | .shorthand letters negated => shorthandClass? flags letters negated
  | .bracketed negated body => do
    let members ← classMembers? flags body
    (flags.negateClass? negated (flags.foldClass members)).map CharSet.joined
  | .union items => unionMembers? flags items
  | .combined operator left right => do
    let left ← classMembers? flags left
    let right ← classMembers? flags right
    some (operator.combine (flags.foldClass left) (flags.foldClass right)).joined

/-- The members of any of several classes. -/
def unionMembers? (flags : Flags) : List ClassExpr → Option CharSet
  | [] => some .empty
  | item :: rest => do
    some ((← classMembers? flags item).union (← unionMembers? flags rest))

end

/-! ## Patterns -/

/-- The condition that an assertion makes. -/
def Flags.look (flags : Flags) : Assertion → Look
  | .lineStart => if flags.multiLine then .lineStart flags.crlf else .textStart
  | .lineEnd => if flags.multiLine then .lineEnd flags.crlf else .textEnd
  | .textStart => .textStart
  | .textEnd => .textEnd
  | .wordBoundary => .wordBoundary false flags.unicode
  | .notWordBoundary => .wordBoundary true flags.unicode
  | .wordStart => .wordStart flags.unicode
  | .wordEnd => .wordEnd flags.unicode
  | .wordStartHalf => .wordStartHalf flags.unicode
  | .wordEndHalf => .wordEndHalf flags.unicode

/-- The characters that a dot stands for. Without Unicode it could match part of a
character, so there are none. -/
def Flags.dot? (flags : Flags) : Option CharSet :=
  if !flags.unicode then none
  else if flags.dotMatchesNewline then some .all
  else if flags.crlf then some (CharSet.ofBounds [0xA, 0xA, 0xD, 0xD]).complement
  else some (CharSet.single '\n').complement

mutual

/-- The regular expression that a pattern means under some switches, and the
switches in force after it. -/
def meaning? (flags : Flags) : Expr → Option (Regex × Flags)
  | .empty => some (.empty, flags)
  | .setFlags change => some (.empty, flags.apply change)
  | .literal literal => (flags.literal? literal).map (·, flags)
  | .dot => flags.dot?.map fun members => (.ofSet members, flags)
  | .assertion place => some (.look (flags.look place), flags)
  | .property query negated =>
    (propertyClass? flags query negated).map fun members => (.ofSet members, flags)
  | .shorthand letters negated =>
    (shorthandClass? flags letters negated).map fun members => (.ofSet members, flags)
  | .bracketed negated body => do
    let members ← flags.negateClass? negated (flags.foldClass (← classMembers? flags body))
    some (.ofSet members, flags)
  | .repeated min max greedy body => do
    let (regex, flags) ← meaning? flags body
    some (.ofRepeated min max (greedy != flags.swapGreed) regex, flags)
  | .group (.capturing index) body => do
    let (regex, _) ← meaning? flags body
    some (.capture index regex, flags)
  | .group (.plain change) body => do
    let (regex, _) ← meaning? (flags.apply change) body
    some (regex, flags)
  | .alternation branches => do
    let (regexes, flags) ← meanings? flags branches
    some (.ofBranches regexes, flags)
  | .concat items => do
    let (regexes, flags) ← meanings? flags items
    some (.ofItems regexes, flags)

/-- The regular expressions that several patterns mean one after the other. -/
def meanings? (flags : Flags) : List Expr → Option (List Regex × Flags)
  | [] => some ([], flags)
  | item :: rest => do
    let (regex, flags) ← meaning? flags item
    let (regexes, flags) ← meanings? flags rest
    some (regex :: regexes, flags)

end

end GrammarLexer.Pattern
