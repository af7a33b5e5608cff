import GrammarLexer.Machine.Build

/-!
# Numbered tables

The states of a machine in a table, where rules refer to them by number. A list of states to
be pushed as one is given the next number where it is first used, before there is a state for
it, and the states of all lists are made last, from a map whose entries come in any order.

Look-ups that ought to succeed are steps here that can fail (`Failure.broken`), and so is the
check that each state made last has the number given out for it.
-/

namespace GrammarLexer

namespace Table

/-- A state that a rule refers to: the one on top of the stack, or one by number. -/
inductive Target where
  | current
  | numbered (state : Nat)
deriving DecidableEq, Repr

/-- What to emit for the span of a group. -/
inductive GroupAction where
  | token (kind : Kind)
  | delegate (target : Target)
deriving DecidableEq, Repr

/-- What to emit for a match. -/
inductive Action where
  | nothing
  | token (kind : Kind)
  | groups (actions : List GroupAction)
  | delegate (target : Target)
deriving DecidableEq, Repr

/-- What to do to the stack of states after a match. -/
inductive Move where
  | stay
  | push (target : Target)
  | pop (depth : Nat)
deriving DecidableEq, Repr

/-- A rule that can be matched. -/
structure Rule where
  pattern : String
  program : Pattern.Program
  action : Action
  move : Move
deriving DecidableEq, Repr

/-- A state with its rules. -/
structure State where
  name : String
  rules : List Rule
deriving DecidableEq, Repr

/-- A rule before includes are replaced. -/
inductive Item where
  | rule (rule : Rule)
  | splice (state : Nat)

/-- Why there is no table: the grammar is refused, or something is not where it should be. -/
inductive Failure where
  | refused (error : GrammarError)
  | broken
deriving DecidableEq, Repr

/-- A check that refuses a grammar. -/
def refusing {α : Type} : Except GrammarError α → Except Failure α
  | .ok value => .ok value
  | .error error => .error (.refused error)

/-- What must be there. -/
def sure {α : Type} : Option α → Except Failure α
  | some value => .ok value
  | none => .error .broken

end Table

/-- A numbered table: states by number, numbers by name, and the number of the root. A program
holds the numbers in 32 bits, so a table stands for what it builds if there are at most 2^32
states. -/
structure Table where
  states : List Table.State
  byName : List (String × Nat)
  root : Nat
deriving DecidableEq, Repr

namespace Table

/-- The names of the states. -/
def stateNames (table : Table) : List String := table.states.map (·.name)

/-- The number of a name. -/
def lookup (table : Table) (name : String) : Option Nat := table.byName.lookup name

/-! ## Compiling rules -/

/-- What is known while rules are compiled: the numbers of the declared states, how patterns
are read, the name for each number given out, and the numbers of lists of states. -/
structure Builder where
  ids : List (String × Nat)
  flags : Pattern.Flags
  names : List String
  combined : List (List String × Nat)

namespace Builder

/-- Declared states are numbered in order. -/
def ofGrammar (grammar : Grammar) : Builder :=
  ⟨grammar.stateNames.zipIdx, grammar.config.options.flags, grammar.stateNames, []⟩

/-- The number of a state that must be declared. -/
def id (builder : Builder) (name : String) : Except Failure Nat :=
  match builder.ids.lookup name with
  | some id => .ok id
  | none => .error (.refused (.danglingStates [name]))

/-- The target that a name stands for. -/
def target (builder : Builder) : Option String → Except Failure Target
  | none => .ok .current
  | some name =>
    if name = "" || name = pushCurrent then .ok .current
    else (builder.id name).map .numbered

/-- The kind of a name. -/
def kind (state : String) (index : Nat) (name : String) : Except Failure Kind :=
  refusing (RuleContext.kind state index name)

/-- What a group emits. -/
def groupAction (builder : Builder) (state : String) (index : Nat) :
    GroupDecl → Except Failure GroupAction
  | .token name => (kind state index name).map .token
  | .delegate delegate => (builder.target delegate.state).map .delegate

/-- What the groups of a rule emit. -/
def groupActions (builder : Builder) (state : String) (index : Nat) :
    List GroupDecl → Except Failure (List GroupAction)
  | [] => .ok []
  | group :: rest => do
    let action ← builder.groupAction state index group
    let actions ← builder.groupActions state index rest
    .ok (action :: actions)

/-- What a rule emits. -/
def action (builder : Builder) (state : String) (index : Nat) (rule : RuleDecl) :
    Except Failure Action :=
  match rule.token, rule.groups, rule.delegate with
  | some name, _, _ => (kind state index name).map .token
  | none, some groups, _ => (builder.groupActions state index groups).map .groups
  | none, none, some delegate => (builder.target delegate.state).map .delegate
  | none, none, none => .ok .nothing

/-- The number of a list of states to be pushed as one: the one it has, or the next one,
unless its name is taken. -/
def combinedState (builder : Builder) (members : List String) :
    Except Failure (Nat × Builder) :=
  match builder.combined.lookup members with
  | some id => .ok (id, builder)
  | none => do
    let _ ← members.mapM builder.id
    let name := combinedName members
    if (builder.ids.lookup name).isSome || builder.names.contains name then
      .error (.refused (.duplicateState name))
    else
      let id := builder.names.length
      let names := builder.names ++ [name]
      .ok (id, { builder with names, combined := builder.combined ++ [(members, id)] })

/-- What a rule does to the stack. -/
def move (builder : Builder) (rule : RuleDecl) : Except Failure (Move × Builder) :=
  match rule.combined, rule.push, rule.pop with
  | some members, _, _ => do
    let (id, builder) ← builder.combinedState members
    .ok (.push (.numbered id), builder)
  | none, some name, _ => do
    let move ← (builder.target (some name)).map .push
    .ok (move, builder)
  | none, none, some depth => .ok (.pop (max depth 1), builder)
  | none, none, none => .ok (.stay, builder)

/-- Compile the pattern of a rule. -/
def program (builder : Builder) (state : String) (index : Nat) (rule : RuleDecl) :
    Except Failure Pattern.Program :=
  match Pattern.compile builder.flags rule.pattern with
  | .ok program => .ok program
  | .error cause => .error (.refused (.invalidPattern state index rule.pattern cause))

/-- Compile a rule. -/
def item (builder : Builder) (state : String) (index : Nat) (rule : RuleDecl) :
    Except Failure (Item × Builder) :=
  match rule.splice with
  | some target => do
    let id ← builder.id target
    .ok (.splice id, builder)
  | none => do
    let program ← builder.program state index rule
    let action ← builder.action state index rule
    let (move, builder) ← builder.move rule
    .ok (.rule ⟨rule.pattern, program, action, move⟩, builder)

/-- Compile the rules of a state. -/
def items (state : String) : Nat → Builder → List RuleDecl → Except Failure (List Item × Builder)
  | _, builder, [] => .ok ([], builder)
  | index, builder, rule :: rest => do
    let (item, builder) ← builder.item state index rule
    let (items, builder) ← items state (index + 1) builder rest
    .ok (item :: items, builder)

/-- Compile the rules of all states. -/
def allItems : Builder → List StateDecl → Except Failure (List (List Item) × Builder)
  | builder, [] => .ok ([], builder)
  | builder, state :: rest => do
    let (items, builder) ← items state.name 0 builder state.rules
    let (others, builder) ← allItems builder rest
    .ok (items :: others, builder)

end Builder

/-! ## Replacing includes -/

/-- The rules of the states that have been resolved, by number. -/
abbrev Resolved := List (Option (List Rule))

/-- The cycle that a path of states closes, by name. -/
def cycle {α : Type} (names : List String) (path : List Nat) : Except Failure α := do
  let chain ← path.mapM fun id => sure names[id]?
  .error (.refused (.includeCycle chain))

/-- Resolve an item of a state, after some rules. -/
def resolveItem (nested : Resolved → Nat → Except Failure Resolved) :
    List Rule × Resolved → Item → Except Failure (List Rule × Resolved)
  | (rules, resolved), .rule rule => .ok (rules ++ [rule], resolved)
  | (rules, resolved), .splice target => do
    let resolved ← nested resolved target
    let more ← sure resolved[target]?
    .ok (rules ++ more.getD [], resolved)

/-- Resolve a state, unless it has been resolved or closes a cycle. -/
def resolve (names : List String) (items : List (List Item)) :
    Nat → List Nat → Resolved → Nat → Except Failure Resolved
  | 0, path, _, id => cycle names (path ++ [id])
  | fuel + 1, path, resolved, id => do
    match ← sure resolved[id]? with
    | some _ => .ok resolved
    | none =>
      if path.contains id then cycle names (path.dropWhile (· != id) ++ [id])
      else do
        let body ← sure items[id]?
        let (rules, resolved) ← body.foldlM
          (resolveItem (resolve names items fuel (path ++ [id]))) ([], resolved)
        .ok (resolved.set id (some rules))

/-- Resolve some states one after the other. -/
def resolveAll (names : List String) (items : List (List Item)) :
    Resolved → List Nat → Except Failure Resolved
  | resolved, [] => .ok resolved
  | resolved, id :: rest => do
    let resolved ← resolve names items (items.length + 1) [] resolved id
    resolveAll names items resolved rest

/-! ## The table -/

/-- An order in which the entries of a map are met. It may be any. -/
structure Iteration where
  order : List (List String × Nat) → List (List String × Nat)
  perm : ∀ entries, (order entries).Perm entries

/-- The rules of the members of a list, one after the other. -/
def memberRules (ids : List (String × Nat)) (states : List State) :
    List String → Except Failure (List Rule)
  | [] => .ok []
  | member :: rest => do
    let id ← sure (ids.lookup member)
    let state ← sure states[id]?
    let others ← memberRules ids states rest
    .ok (state.rules ++ others)

/-- Make a state for each list, behind those there are. Its number is the one given out. -/
def synthesize (ids : List (String × Nat)) :
    List State → List (List String × Nat) → Except Failure (List State)
  | states, [] => .ok states
  | states, (members, id) :: rest => do
    let rules ← memberRules ids states members
    if states.length = id then
      synthesize ids (states ++ [⟨combinedName members, rules⟩]) rest
    else .error .broken

/-- The table of some states. Where two states have one name, the later one counts. -/
def ofStates (states : List State) : Except Failure Table := do
  let byName := (states.map (·.name)).zipIdx.reverse
  let root ← sure (byName.lookup rootState)
  .ok ⟨states, byName, root⟩

/-- The table of resolved states and of the lists of states to be pushed as one, which are
brought into the order of their numbers. -/
def assemble (iteration : Iteration) (builder : Builder) (resolved : Resolved) :
    Except Failure Table := do
  let declared := List.zipWith (fun name rules => ⟨name, rules.getD []⟩) builder.names resolved
  let combined := (iteration.order builder.combined).mergeSort fun left right =>
    left.2 ≤ right.2
  let states ← synthesize builder.ids declared combined
  ofStates states

/-- Build the table of a grammar. -/
def build (iteration : Iteration) (grammar : Grammar) : Except Failure Table := do
  refusing grammar.check
  let (items, builder) ← (Builder.ofGrammar grammar).allItems grammar.states
  let resolved ← resolveAll builder.names items
    (List.replicate items.length none) (List.range items.length)
  assemble iteration builder resolved

end Table

end GrammarLexer
