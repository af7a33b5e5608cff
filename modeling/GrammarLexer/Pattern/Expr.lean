/-!
# Patterns as they are written

The tree of a pattern: what stands where, before flags have been applied to it.
`Expr.depth` measures how deeply a pattern is nested, which is limited.
-/

namespace GrammarLexer.Pattern

/-- The switches that a pattern can turn on and off for a part of itself. -/
inductive Flag where
  | caseInsensitive
  | multiLine
  | dotMatchesNewline
  | swapGreed
  | unicode
  | crlf
  | ignoreSpace
deriving DecidableEq, Repr

/-- Switches to set, each with its new value. -/
abbrev FlagChange := List (Flag × Bool)

/-- A literal character. One written by its byte, in two digits, stands for
that byte where Unicode is off. -/
structure Literal where
  char : Char
  byByte : Bool
deriving DecidableEq, Repr

/-- The classes with a letter of their own. -/
inductive Shorthand where
  | digit
  | space
  | word
deriving DecidableEq, Repr

/-- Conditions on a place in the text. -/
inductive Assertion where
  | lineStart
  | lineEnd
  | textStart
  | textEnd
  | wordBoundary
  | notWordBoundary
  | wordStart
  | wordEnd
  | wordStartHalf
  | wordEndHalf
deriving DecidableEq, Repr

/-- A class named by a property of characters, or by a property and its value. -/
inductive PropertyQuery where
  | named (name : String)
  | valued (property value : String)
deriving DecidableEq, Repr

/-- How two classes are combined. -/
inductive ClassOperator where
  | intersection
  | difference
  | symmetricDifference
deriving DecidableEq, Repr

/-- What stands inside the brackets of a class. -/
inductive ClassExpr where
  | nothing
  | literal (literal : Literal)
  | range (first last : Literal)
  | posix (name : String) (negated : Bool)
  | property (query : PropertyQuery) (negated : Bool)
  | shorthand (shorthand : Shorthand) (negated : Bool)
  | bracketed (negated : Bool) (body : ClassExpr)
  | union (items : List ClassExpr)
  | combined (operator : ClassOperator) (left right : ClassExpr)
deriving Repr

/-- What the parentheses of a group are for. -/
inductive GroupKind where
  | capturing (index : Nat)
  | plain (change : FlagChange)
deriving Repr

/-- A pattern. -/
inductive Expr where
  | empty
  | setFlags (change : FlagChange)
  | literal (literal : Literal)
  | dot
  | assertion (assertion : Assertion)
  | property (query : PropertyQuery) (negated : Bool)
  | shorthand (shorthand : Shorthand) (negated : Bool)
  | bracketed (negated : Bool) (body : ClassExpr)
  | repeated (min : Nat) (max : Option Nat) (greedy : Bool) (body : Expr)
  | group (kind : GroupKind) (body : Expr)
  | alternation (branches : List Expr)
  | concat (items : List Expr)
deriving Repr

mutual

/-- How deeply the contents of a class are nested. -/
def ClassExpr.depth : ClassExpr → Nat
  | .bracketed _ body => body.depth + 1
  | .union items => ClassExpr.depthOfList items + 1
  | .combined _ left right => max left.depth right.depth + 1
  | _ => 0

/-- The greatest depth of several class contents. -/
def ClassExpr.depthOfList : List ClassExpr → Nat
  | [] => 0
  | item :: rest => max item.depth (ClassExpr.depthOfList rest)

end

mutual

/-- How deeply a pattern is nested: the number of classes, repetitions, groups,
alternations and sequences around its innermost part. -/
def Expr.depth : Expr → Nat
  | .bracketed _ body => body.depth + 1
  | .repeated _ _ _ body => body.depth + 1
  | .group _ body => body.depth + 1
  | .alternation branches => Expr.depthOfList branches + 1
  | .concat items => Expr.depthOfList items + 1
  | _ => 0

/-- The greatest depth of several patterns. -/
def Expr.depthOfList : List Expr → Nat
  | [] => 0
  | item :: rest => max item.depth (Expr.depthOfList rest)

end

/-- The sequence of some items; a single item stands for itself. -/
def Expr.ofItems : List Expr → Expr
  | [] => .empty
  | [item] => item
  | items => .concat items

/-- The alternation of some branches; a single branch stands for itself. -/
def Expr.ofBranches : List Expr → Expr
  | [branch] => branch
  | branches => .alternation branches

/-- The union of some class items; a single item stands for itself. -/
def ClassExpr.ofItems : List ClassExpr → ClassExpr
  | [] => .nothing
  | [item] => item
  | items => .union items

end GrammarLexer.Pattern
