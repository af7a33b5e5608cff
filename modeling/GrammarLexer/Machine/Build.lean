import GrammarLexer.Grammar.Check
import GrammarLexer.Machine.Basic

/-!
# Building a machine

A grammar whose declarations pass the checks is built in three passes. The rules
are compiled in order, and each list of states to be pushed as one is noted where
it is first used. Then includes are replaced by the rules of the state they name.
At last each noted list becomes a state of its own, with the rules of its members
in the order listed.
-/

namespace GrammarLexer

/-- The name of the state for a list of states to be pushed as one. -/
def combinedName (members : List String) : String :=
  "__combined_" ++ String.intercalate "__" members

/-- How the patterns of a grammar begin: with Unicode, and with line anchors unless
that is turned off. -/
def PatternOptions.flags (options : PatternOptions) : Pattern.Flags where
  caseInsensitive := options.caseInsensitive
  multiLine := !options.notMultiline
  dotMatchesNewline := options.dotAll
  swapGreed := false
  unicode := true
  crlf := false

/-- A rule before includes are replaced. -/
inductive Item where
  | rule (rule : Rule)
  | splice (state : String)

/-! ## Compiling rules -/

/-- What the rules of a grammar are compiled against: the declared states, and how
patterns are read. -/
structure RuleContext where
  declared : List String
  flags : Pattern.Flags

namespace RuleContext

/-- The context of a grammar. -/
def ofGrammar (grammar : Grammar) : RuleContext :=
  ⟨grammar.stateNames, grammar.config.options.flags⟩

/-- A state that must be declared. -/
def declaredState (context : RuleContext) (name : String) : Except GrammarError String :=
  if context.declared.contains name then .ok name else .error (.danglingStates [name])

/-- The target that a name stands for. No name, the empty name and the target for
the current state all stand for the state on top of the stack. -/
def target (context : RuleContext) : Option String → Except GrammarError Target
  | none => .ok .current
  | some name =>
    if name = "" || name = pushCurrent then .ok .current
    else (context.declaredState name).map .named

/-- The kind of a name. -/
def kind (state : String) (index : Nat) (name : String) : Except GrammarError Kind :=
  match Kind.ofName? name with
  | some kind => .ok kind
  | none => .error (.unknownKind state index name)

/-- What a group emits. -/
def groupAction (context : RuleContext) (state : String) (index : Nat) :
    GroupDecl → Except GrammarError GroupAction
  | .token name => (kind state index name).map .token
  | .delegate delegate => (context.target delegate.state).map .delegate

/-- What the groups of a rule emit. -/
def groupActions (context : RuleContext) (state : String) (index : Nat) :
    List GroupDecl → Except GrammarError (List GroupAction)
  | [] => .ok []
  | group :: rest => do
    let action ← context.groupAction state index group
    let actions ← context.groupActions state index rest
    .ok (action :: actions)

/-- What a rule emits. -/
def action (context : RuleContext) (state : String) (index : Nat) (rule : RuleDecl) :
    Except GrammarError Action :=
  match rule.token, rule.groups, rule.delegate with
  | some name, _, _ => (kind state index name).map .token
  | none, some groups, _ => (context.groupActions state index groups).map .groups
  | none, none, some delegate => (context.target delegate.state).map .delegate
  | none, none, none => .ok .nothing

/-- What a rule does to the stack. A pop takes away at least one state. -/
def move (context : RuleContext) (rule : RuleDecl) : Except GrammarError Move :=
  match rule.combined, rule.push, rule.pop with
  | some members, _, _ => .ok (.push (.named (combinedName members)))
  | none, some name, _ => (context.target (some name)).map .push
  | none, none, some depth => .ok (.pop (max depth 1))
  | none, none, none => .ok .stay

/-- Compile the pattern of a rule. -/
def program (context : RuleContext) (state : String) (index : Nat) (rule : RuleDecl) :
    Except GrammarError Pattern.Program :=
  match Pattern.compile context.flags rule.pattern with
  | .ok program => .ok program
  | .error cause => .error (.invalidPattern state index rule.pattern cause)

/-- Note a list of states to be pushed as one, where it is first used. Its members
are declared, and no other state has its name. -/
def note (context : RuleContext) (noted : List (List String)) (members : List String) :
    Except GrammarError (List (List String)) :=
  if noted.contains members then .ok noted
  else
    match members.find? fun member => !context.declared.contains member with
    | some member => .error (.danglingStates [member])
    | none =>
      let name := combinedName members
      if context.declared.contains name || (noted.map combinedName).contains name then
        .error (.duplicateState name)
      else .ok (noted ++ [members])

/-- Compile a rule, and note the list of states that it pushes as one. -/
def item (context : RuleContext) (state : String) (index : Nat) (noted : List (List String))
    (rule : RuleDecl) : Except GrammarError (Item × List (List String)) :=
  match rule.splice with
  | some target => do
    let name ← context.declaredState target
    .ok (.splice name, noted)
  | none => do
    let program ← context.program state index rule
    let action ← context.action state index rule
    let noted ← match rule.combined with
      | some members => context.note noted members
      | none => .ok noted
    let move ← context.move rule
    .ok (.rule ⟨rule.pattern, program, action, move⟩, noted)

/-- Compile the rules of a state. -/
def items (context : RuleContext) (state : String) :
    Nat → List (List String) → List RuleDecl →
      Except GrammarError (List Item × List (List String))
  | _, noted, [] => .ok ([], noted)
  | index, noted, rule :: rest => do
    let (item, noted) ← context.item state index noted rule
    let (items, noted) ← context.items state (index + 1) noted rest
    .ok (item :: items, noted)

/-- Compile the rules of all states. -/
def allItems (context : RuleContext) :
    List (List String) → List StateDecl →
      Except GrammarError (List (String × List Item) × List (List String))
  | noted, [] => .ok ([], noted)
  | noted, state :: rest => do
    let (items, noted) ← context.items state.name 0 noted state.rules
    let (others, noted) ← context.allItems noted rest
    .ok ((state.name, items) :: others, noted)

end RuleContext

/-! ## Replacing includes -/

/-- The rules of the states that have been resolved. -/
abbrev Resolved := List (String × List Rule)

/-- The rules of a resolved state. -/
def Resolved.rulesOf (resolved : Resolved) (name : String) : List Rule :=
  (resolved.lookup name).getD []

/-- The rules of a state, given the items of each. A state that is being resolved
further up the path cannot be included: the path from there on is a cycle. No path
is longer than the number of states, which bounds the recursion. -/
def resolve (items : List (String × List Item)) :
    Nat → List String → Resolved → String → Except GrammarError (List Rule × Resolved)
  | 0, path, _, name => .error (.includeCycle (path ++ [name]))
  | fuel + 1, path, resolved, name =>
    match resolved.lookup name with
    | some rules => .ok (rules, resolved)
    | none =>
      if path.contains name then
        .error (.includeCycle (path.dropWhile (· != name) ++ [name]))
      else do
        let (rules, resolved) ← ((items.lookup name).getD []).foldlM
          (fun (rules, resolved) item =>
            match item with
            | .rule rule => .ok (rules ++ [rule], resolved)
            | .splice target => do
              let (more, resolved) ← resolve items fuel (path ++ [name]) resolved target
              .ok (rules ++ more, resolved)) ([], resolved)
        .ok (rules, (name, rules) :: resolved)

/-- Resolve some states one after the other. -/
def resolveAll (items : List (String × List Item)) :
    Resolved → List String → Except GrammarError Resolved
  | resolved, [] => .ok resolved
  | resolved, name :: rest => do
    let (_, resolved) ← resolve items (items.length + 1) [] resolved name
    resolveAll items resolved rest

/-! ## The machine -/

/-- The machine of resolved states and of lists of states to be pushed as one. -/
def Machine.assemble (declared : List String) (resolved : Resolved)
    (noted : List (List String)) : Machine where
  states :=
    declared.map (fun name => ⟨name, resolved.rulesOf name⟩) ++
      noted.map fun members => ⟨combinedName members, members.flatMap resolved.rulesOf⟩

/-- Build the machine of a grammar. -/
def Grammar.build (grammar : Grammar) : Except GrammarError Machine := do
  grammar.check
  let (items, noted) ← (RuleContext.ofGrammar grammar).allItems [] grammar.states
  let resolved ← resolveAll items [] grammar.stateNames
  .ok (.assemble grammar.stateNames resolved noted)

end GrammarLexer
