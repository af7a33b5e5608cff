import GrammarLexer.Pattern.Basic

/-!
# What can be wrong with a grammar

A grammar that cannot be built fails with one cause. `GrammarError.message` gives
the wording.
-/

namespace GrammarLexer

/-- Directives of a rule that do not go together. -/
inductive RuleConflict where
  | empty
  | pushAndPop
  | tokenAndSplice
  | tokenAndGroups
  | spliceAndGroups
  | spliceAndMove
  | spliceAndDelegate
  | combinedAndDirective
  | delegateAndEmitter
deriving DecidableEq, Repr

/-- Why a grammar cannot be built. -/
inductive GrammarError where
  | missingRoot
  | duplicateState (name : String)
  | danglingStates (names : List String)
  | conflictingRule (state : String) (index : Nat) (conflict : RuleConflict)
  | invalidPattern (state : String) (index : Nat) (pattern : String)
      (cause : Pattern.PatternError)
  | unknownKind (state : String) (index : Nat) (name : String)
  | includeCycle (chain : List String)
deriving DecidableEq, Repr

/-- The wording of a conflict, after the name of the rule. -/
def RuleConflict.message : RuleConflict → String
  | .empty => "has no pattern, no include, no push and no pop"
  | .pushAndPop => "has both a push and a pop"
  | .tokenAndSplice => "has both a token and an include"
  | .tokenAndGroups => "has both a token and a by-groups"
  | .spliceAndGroups => "has both an include and a by-groups"
  | .spliceAndMove => "has both an include and a push or pop"
  | .spliceAndDelegate => "has both an include and a using-self"
  | .combinedAndDirective => "has both a combined and either a push, pop or include"
  | .delegateAndEmitter => "has a using-self together with a token or by-groups"

namespace GrammarError

/-- How a rule is named in an error. -/
def ruleName (state : String) (index : Nat) : String :=
  "rule " ++ Nat.repr index ++ " of state `" ++ state ++ "` "

/-- The wording of an error. -/
def message : GrammarError → String
  | .missingRoot => "no `root` state is defined"
  | .duplicateState name => "state `" ++ name ++ "` is defined more than once"
  | .danglingStates names =>
    "the following states are referred to from rules but aren't defined: " ++
      String.intercalate ", " names
  | .conflictingRule state index conflict => ruleName state index ++ conflict.message
  | .invalidPattern state index pattern cause =>
    ruleName state index ++ "has an invalid pattern `" ++ pattern ++ "`: " ++ cause.message
  | .unknownKind state index name =>
    ruleName state index ++ "uses unknown token type `" ++ name ++ "`"
  | .includeCycle chain => "include cycle: " ++ String.intercalate " -> " chain

end GrammarError

end GrammarLexer
