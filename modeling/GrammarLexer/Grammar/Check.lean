import GrammarLexer.Grammar.Basic
import GrammarLexer.Grammar.Error

/-!
# Checks on declarations

What can be said of a grammar before its patterns are looked at: state names are
distinct and one of them is the root, the directives of each rule go together, and
each rule refers only to states that are declared.
-/

namespace GrammarLexer

namespace RuleDecl

/-- True if the rule pushes or pops. -/
def moves (rule : RuleDecl) : Bool := rule.push.isSome || rule.pop.isSome

/-- The first conflict between the directives of a rule. A rule carries one of a
token, groups, a delegate and nothing, together with one of a push, a pop, a
combined state and nothing; or else it is there for the rules of another state. -/
def conflict? (rule : RuleDecl) : Option RuleConflict :=
  if rule.pattern = "" && !rule.moves && rule.splice.isNone && rule.combined.isNone then
    some .empty
  else if rule.push.isSome && rule.pop.isSome then some .pushAndPop
  else if rule.token.isSome && rule.splice.isSome then some .tokenAndSplice
  else if rule.token.isSome && rule.groups.isSome then some .tokenAndGroups
  else if rule.splice.isSome && rule.groups.isSome then some .spliceAndGroups
  else if rule.splice.isSome && rule.moves then some .spliceAndMove
  else if rule.splice.isSome && rule.delegate.isSome then some .spliceAndDelegate
  else if rule.combined.isSome && (rule.moves || rule.splice.isSome) then
    some .combinedAndDirective
  else if rule.delegate.isSome && (rule.token.isSome || rule.groups.isSome) then
    some .delegateAndEmitter
  else none

/-- The states that the delegates among some groups name. -/
def delegateNames (groups : List GroupDecl) : List String :=
  groups.filterMap fun
    | .token _ => none
    | .delegate delegate => delegate.state

/-- Every state that a rule names, in the order of its directives. The empty name
and the target for the current state name none. -/
def references (rule : RuleDecl) : List String :=
  let named :=
    rule.push.toList ++ rule.splice.toList ++ rule.combined.getD [] ++
      (rule.delegate.bind (·.state)).toList ++ delegateNames (rule.groups.getD [])
  named.filter fun name => name != "" && name != pushCurrent

end RuleDecl

namespace Grammar

/-- The first name that has occurred before. -/
def firstRepeated? (seen : List String) : List String → Option String
  | [] => none
  | name :: rest => if name ∈ seen then some name else firstRepeated? (name :: seen) rest

/-- The first of some rules whose directives do not go together, with its index. -/
def firstConflictFrom? (index : Nat) : List RuleDecl → Option (Nat × RuleConflict)
  | [] => none
  | rule :: rest =>
    match rule.conflict? with
    | some conflict => some (index, conflict)
    | none => firstConflictFrom? (index + 1) rest

/-- The first rule whose directives do not go together. -/
def firstConflict? : List StateDecl → Option GrammarError
  | [] => none
  | state :: rest =>
    match firstConflictFrom? 0 state.rules with
    | some (index, conflict) => some (.conflictingRule state.name index conflict)
    | none => firstConflict? rest

/-- Each member of a list once, in the order in which they first occur. -/
def distinct (names : List String) : List String :=
  names.foldl (fun kept name => if name ∈ kept then kept else kept ++ [name]) []

/-- The names that rules refer to and no state has, each once, in the order of the
first reference. -/
def danglingNames (grammar : Grammar) : List String :=
  distinct ((grammar.states.flatMap fun state => state.rules.flatMap RuleDecl.references).filter
    fun name => !grammar.stateNames.contains name)

/-- Check the declarations of a grammar. -/
def check (grammar : Grammar) : Except GrammarError Unit :=
  match firstRepeated? [] grammar.stateNames with
  | some name => .error (.duplicateState name)
  | none =>
    if !grammar.stateNames.contains rootState then .error .missingRoot
    else
      match firstConflict? grammar.states, grammar.danglingNames with
      | some error, _ => .error error
      | none, [] => .ok ()
      | none, names => .error (.danglingStates names)

end Grammar

end GrammarLexer
