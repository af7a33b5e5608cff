import GrammarLexer.Proofs.Machine.Parallel
import GrammarLexer.Proofs.Machine.Repetition

/-!
# Shadowed rules

A rule whose pattern is that of an earlier rule of the same state is dead: without it a lexer makes
the same tokens, with the same snapshots (`shadowed_rules`). So are all the rules that a state has
by being included once more, and those that the state of a list has by a member's coming again. In
the latter case the state of the shorter list has another name, so snapshots are the same but for
such names (`Repeats.Kept`). To compare the two lexers, all dead rules are taken out of both: what
is left then is alike, rule by rule (`Repeats.firsts_alike`).
-/

namespace GrammarLexer

/-! ## Lists with members that come again -/

/-- A rule, and the rule with a list of states to push where some members are left out that come
again later. -/
inductive RuleDecl.Repeats : RuleDecl → RuleDecl → Prop
  | shorten {rule : RuleDecl} {combined : Option (List String)}
      (lists : Option.Rel (Sheds id []) rule.combined combined) :
      Repeats rule { rule with combined }

theorem RuleDecl.Repeats.refl (rule : RuleDecl) : rule.Repeats rule := by
  have lists : Option.Rel (Sheds id []) rule.combined rule.combined := by
    cases rule.combined with
    | none => exact .none
    | some members => exact .some (.refl members)
  exact .shorten lists

namespace Grammar

/-- Grammars that are the same but for lists of states to push, where in the second one some members
are left out that come again later. -/
def Repeats (grammar shorter : Grammar) : Prop := grammar.Parallel RuleDecl.Repeats shorter

namespace Repeats

/-- The states that go with each other: each declared one with itself, and that of a list with that
of the shorter list. -/
inductive Kept (grammar shorter : Grammar) : String → String → Prop
  | single {name : String} (declared : name ∈ grammar.stateNames) : Kept grammar shorter name name
  | combined {members kept : List String} (used : members ∈ grammar.combinedLists)
      (used' : kept ∈ shorter.combinedLists) (sheds : Sheds id [] members kept) :
      Kept grammar shorter (combinedName members) (combinedName kept)

variable {grammar shorter : Grammar}

theorem splice_eq (rule rule' : RuleDecl) (repeats : rule.Repeats rule') :
    rule.splice = rule'.splice := by
  cases repeats
  rfl

/-! ## Rules -/

theorem target_alike {name : Option String} {target : Target}
    (refers : (RuleContext.ofGrammar grammar).target name = .ok target) :
    target.Alike (Kept grammar shorter) target := by
  obtain ⟨known, rfl⟩ := RuleContext.target_eq_ok.1 refers
  cases name with
  | none => exact .current
  | some name =>
    rw [Target.ofName]
    split
    · exact .current
    · rename_i special
      rw [not_or] at special
      have declared := ((known name rfl).resolve_left special.1).resolve_left special.2
      exact .named (.single declared)

/-- What a rule emits refers to declared states only, which go with themselves. -/
theorem acts_alike {token : Option String} {groups : Option (List GroupDecl)}
    {delegate : Option Delegate} {action : Action}
    (acts : (RuleContext.ofGrammar grammar).Acts token groups delegate action) :
    action.Alike (Kept grammar shorter) action := by
  cases acts with
  | token => exact .token _
  | groups each =>
    refine .groups (List.forall₂_same.2 fun action member => ?_)
    obtain ⟨group, -, acts⟩ := exists_of_forall₂ each member
    cases acts with
    | token => exact .token _
    | delegate refers => exact .delegate (target_alike refers)
  | delegate refers => exact .delegate (target_alike refers)
  | nothing => exact .nothing

theorem moves_alike {combined combined' : Option (List String)} {push : Option String}
    {pop : Option Nat} {move move' : Move} (lists : Option.Rel (Sheds id []) combined combined')
    (used : ∀ members ∈ combined, members ∈ grammar.combinedLists)
    (used' : ∀ members ∈ combined', members ∈ shorter.combinedLists)
    (moves : (RuleContext.ofGrammar grammar).Moves combined push pop move)
    (moves' : (RuleContext.ofGrammar grammar).Moves combined' push pop move') :
    move.Alike (Kept grammar shorter) move' := by
  cases lists with
  | some sheds =>
    cases moves
    cases moves'
    exact .push (.named (.combined (used _ rfl) (used' _ rfl) sheds))
  | none =>
    cases moves with
    | push refers =>
      cases moves' with
      | push refers' =>
        cases refers.symm.trans refers'
        exact .push (target_alike refers)
    | pop =>
      cases moves'
      exact .pop _
    | stay =>
      cases moves'
      exact .stay

theorem mem_combinedLists_of {rule : RuleDecl} (member : rule ∈ grammar.rules)
    {members : List String} (combined : members ∈ rule.combined) :
    members ∈ grammar.combinedLists :=
  List.mem_flatMap.2 ⟨rule, member, Option.mem_toList.2 combined⟩

/-- The rules that they become have the same pattern and are alike. -/
theorem become_alike (repeats : grammar.Repeats shorter) {rule rule' : Rule}
    (become : Parallel.Become RuleDecl.Repeats grammar shorter rule rule') :
    rule.pattern = rule'.pattern ∧ rule.Alike (Kept grammar shorter) rule' := by
  obtain ⟨decl, member, _, member', ⟨lists⟩, yields, yields'⟩ := become
  rw [← repeats.yields] at yields'
  obtain ⟨-, pattern, program, ⟨_, _, acts⟩, moves⟩ := yields
  obtain ⟨-, pattern', program', ⟨_, _, acts'⟩, moves'⟩ := yields'
  rw [RuleContext.move_iff] at moves moves'
  have action := Except.ok.inj (acts.symm.trans (RuleContext.action_congr acts'))
  refine ⟨pattern.symm.trans pattern', Except.ok.inj (program.symm.trans program'), ?_, ?_⟩
  · rw [← action]
    exact acts_alike (RuleContext.action_iff.1 acts)
  · exact moves_alike lists (fun _ => mem_combinedLists_of member)
      (fun _ => mem_combinedLists_of member') moves moves'

/-! ## Machines -/

variable {machine machine' : Machine}

/-- Without their dead rules, the machines are alike. -/
theorem firsts_alike (repeats : grammar.Repeats shorter) (acceptable : grammar.Acceptable)
    (acceptable' : shorter.Acceptable) (specifies : grammar.Specifies machine)
    (specifies' : shorter.Specifies machine') :
    machine.firsts.Alike (Kept grammar shorter) machine'.firsts := by
  have single : ∀ name ∈ grammar.stateNames, List.Forall₂
      (fun rule rule' => rule.pattern = rule'.pattern ∧ rule.Alike (Kept grammar shorter) rule')
      (machine.rulesOf name) (machine'.rulesOf name) := fun name declared =>
    (Parallel.forall₂_rulesOf splice_eq repeats specifies specifies' declared).imp
      fun _ _ => repeats.become_alike
  intro name name' related
  rw [Machine.rulesOf_firsts, Machine.rulesOf_firsts]
  cases related with
  | single declared =>
    exact (forall₂_firsts (fun _ _ => And.left) (single _ declared)).imp fun _ _ => And.right
  | @combined members kept used used' sheds =>
    have declared := acceptable'.members kept used'
    rw [← repeats.stateNames] at declared
    have rules := specifies.rulesOf_combinedName used (acceptable.members members used)
    have rules' := specifies'.rulesOf_combinedName used' (acceptable'.members kept used')
    -- the rules of a member that comes again are dead
    have shed : Sheds Rule.pattern [] (members.flatMap machine.rulesOf)
        (kept.flatMap machine.rulesOf) := sheds.flatMap fun _ none => nomatch none
    rw [rules, rules', shed.firsts_eq]
    have each : List.Forall₂ _ (kept.flatMap machine.rulesOf) (kept.flatMap machine'.rulesOf) :=
      forall₂_flatMap fun name member => single name (declared name member)
    exact (forall₂_firsts (fun _ _ => And.left) each).imp fun _ _ => And.right

/-! ## Initial states -/

/-- States that go with each other are states of the two machines. -/
theorem mem_stateNames (repeats : grammar.Repeats shorter) (specifies : grammar.Specifies machine)
    (specifies' : shorter.Specifies machine') {name name' : String}
    (kept : Kept grammar shorter name name') :
    name ∈ machine.stateNames ∧ name' ∈ machine'.stateNames := by
  rw [specifies.names, specifies'.names, map_name_allStates, map_name_allStates]
  cases kept with
  | single declared =>
    exact ⟨List.mem_append_left _ declared,
      List.mem_append_left _ (repeats.stateNames ▸ declared)⟩
  | combined used used' =>
    exact ⟨List.mem_append_right _ (List.mem_map_of_mem (mem_usedLists.2 used)),
      List.mem_append_right _ (List.mem_map_of_mem (mem_usedLists.2 used'))⟩

/-- The root goes with itself only. -/
theorem eq_root_iff (acceptable : grammar.Acceptable) (acceptable' : shorter.Acceptable)
    {name name' : String} (kept : Kept grammar shorter name name') :
    name = rootState ↔ name' = rootState := by
  cases kept with
  | single => rfl
  | @combined members kept used used' =>
    constructor
    · intro root
      exact absurd acceptable.root (root ▸ acceptable.fresh members used)
    · intro root
      exact absurd acceptable'.root (root ▸ acceptable'.fresh kept used')

/-- Initial states that go with each other, or are none in either lexer. -/
inductive Begin (grammar shorter : Grammar) (machine machine' : Machine) :
    Option String → Option String → Prop
  | root : Begin grammar shorter machine machine' none none
  | kept {name name' : String} (kept : Kept grammar shorter name name') :
      Begin grammar shorter machine machine' (some name) (some name')
  | unknown {name name' : String} (unknown : name ∉ machine.stateNames)
      (unknown' : name' ∉ machine'.stateNames) :
      Begin grammar shorter machine machine' (some name) (some name')

/-- Runs begin with stacks that go with each other. -/
theorem startStack_alike (repeats : grammar.Repeats shorter) (acceptable : grammar.Acceptable)
    (acceptable' : shorter.Acceptable) {lexer lexer' : Lexer}
    (specifies : grammar.Specifies lexer.machine) (specifies' : shorter.Specifies lexer'.machine)
    {state state' : Option String}
    (begins : Begin grammar shorter lexer.machine lexer'.machine state state') :
    (lexer.startStack state).Alike (Kept grammar shorter) (lexer'.startStack state') := by
  have root : Kept grammar shorter rootState rootState := .single acceptable.root
  cases begins with
  | root => exact ⟨root, .nil⟩
  | @kept name name' kept =>
    obtain ⟨known, known'⟩ := repeats.mem_stateNames specifies specifies' kept
    have same := eq_root_iff acceptable acceptable' kept
    rw [← Machine.knows_iff] at known known'
    simp only [Lexer.startStack, known, known', Bool.true_and, bne_iff_ne, ne_eq, same]
    split
    · exact ⟨kept, .cons root .nil⟩
    · exact ⟨root, .nil⟩
  | unknown unknown unknown' =>
    rw [← Machine.knows_iff, Bool.not_eq_true] at unknown unknown'
    simp only [Lexer.startStack, unknown, unknown', Bool.false_and, Bool.false_eq_true, if_false]
    exact ⟨root, .nil⟩

end Repeats

end Grammar

namespace Lexer

variable {grammar : Grammar}

theorem runsLike_of_sheds {lexer lexer' : Lexer} (specifies : grammar.Specifies lexer.machine)
    (known : ∀ name, lexer.machine.knows name = lexer'.machine.knows name)
    (sheds : ∀ name,
      Sheds Rule.pattern [] (lexer.machine.rulesOf name) (lexer'.machine.rulesOf name)) :
    lexer.RunsLike lexer' :=
  runsLike_of_agrees known (Machine.agrees_of_sheds specifies.compiled sheds)

/-- The lexer without its dead rules. -/
def firsts (lexer : Lexer) : Lexer := ⟨lexer.config, lexer.machine.firsts⟩

theorem runsLike_firsts {lexer : Lexer} (specifies : grammar.Specifies lexer.machine) :
    lexer.RunsLike lexer.firsts :=
  runsLike_of_sheds specifies lexer.machine.sheds_firsts.knows_eq lexer.machine.sheds_firsts.rulesOf

theorem startStack_firsts (lexer : Lexer) : lexer.firsts.startStack = lexer.startStack :=
  (startStack_congr lexer.machine.sheds_firsts.knows_eq).symm

/-- **Lists.** Lexers of grammars that are the same but for members that come again in lists run
alike from initial states that go with each other. -/
theorem alike_of_repeats {shorter : Grammar} (repeats : grammar.Repeats shorter)
    {lexer lexer' : Lexer} (built : ofGrammar grammar = .ok lexer)
    (built' : ofGrammar shorter = .ok lexer') {state state' : Option String}
    (begins : Grammar.Repeats.Begin grammar shorter lexer.machine lexer'.machine state state')
    (text : String) (merging : Bool) :
    lexer.tokens text ⟨merging, state⟩ = lexer'.tokens text ⟨merging, state'⟩ ∧
      ∀ count, ((lexer.start text ⟨merging, state⟩).after count).snapshot.Alike
        (Grammar.Repeats.Kept grammar shorter)
          ((lexer'.start text ⟨merging, state'⟩).after count).snapshot := by
  obtain ⟨acceptable, specifies⟩ := specifies_of_ofGrammar built
  obtain ⟨acceptable', specifies'⟩ := specifies_of_ofGrammar built'
  -- without their dead rules, the lexers run as they do with them, and alike
  obtain ⟨tokens, snapshots⟩ := runsLike_firsts specifies text ⟨merging, state⟩
  obtain ⟨tokens', snapshots'⟩ := runsLike_firsts specifies' text ⟨merging, state'⟩
  have machines := repeats.firsts_alike acceptable acceptable' specifies specifies'
  have starts := repeats.startStack_alike acceptable acceptable' specifies specifies' begins
  rw [← startStack_firsts lexer, ← startStack_firsts lexer'] at starts
  have alike : (lexer.firsts.start text ⟨merging, state⟩).Alike
      (Grammar.Repeats.Kept grammar shorter) (lexer'.firsts.start text ⟨merging, state'⟩) :=
    alike_start machines text rfl starts
  refine ⟨tokens.trans (alike.drain_eq.trans tokens'.symm), fun count => ?_⟩
  rw [snapshots count, snapshots' count]
  exact (alike.after count).snapshot

/-- **Shadowed rules.** Rules may be taken out of the states of a built lexer if their patterns are
those of earlier rules in the same state: it makes the same tokens of each text, with the same
snapshot after any number of calls. So a state may be included once more behind an include that
brings it in, which changes neither whether a grammar can be built nor what its lexer does. And
members may come again in the lists of states that are pushed as one: the tokens are the same then,
and the snapshots but for the names of the states of such lists. -/
theorem shadowed_rules (grammar : Grammar) :
    (∀ lexer, ofGrammar grammar = .ok lexer → ∀ machine, lexer.machine.Sheds machine →
        lexer.RunsLike ⟨lexer.config, machine⟩) ∧
      (∀ site : grammar.Repetition,
        ((∃ lexer, ofGrammar site.repeated = .ok lexer) ↔
            ∃ lexer, ofGrammar grammar = .ok lexer) ∧
          ∀ lexer lexer', ofGrammar site.repeated = .ok lexer → ofGrammar grammar = .ok lexer' →
            lexer.RunsLike lexer') ∧
      ∀ shorter, grammar.Repeats shorter → ∀ lexer lexer', ofGrammar grammar = .ok lexer →
        ofGrammar shorter = .ok lexer' → ∀ text merging state state',
          Grammar.Repeats.Begin grammar shorter lexer.machine lexer'.machine state state' →
            lexer.tokens text ⟨merging, state⟩ = lexer'.tokens text ⟨merging, state'⟩ ∧
              ∀ count, ((lexer.start text ⟨merging, state⟩).after count).snapshot.Alike
                (Grammar.Repeats.Kept grammar shorter)
                  ((lexer'.start text ⟨merging, state'⟩).after count).snapshot := by
  refine ⟨?_, fun site => ⟨?_, ?_⟩, ?_⟩
  · intro lexer built machine sheds
    obtain ⟨-, specifies⟩ := specifies_of_ofGrammar built
    exact runsLike_of_sheds specifies sheds.knows_eq sheds.rulesOf
  · rw [ofGrammar, ofGrammar, exists_map_eq_ok, exists_map_eq_ok, Grammar.exists_build_iff,
      Grammar.exists_build_iff, site.acceptable_iff]
  · intro lexer lexer' built built'
    obtain ⟨-, specifies⟩ := specifies_of_ofGrammar built
    obtain ⟨-, specifies'⟩ := specifies_of_ofGrammar built'
    refine runsLike_of_sheds specifies (fun name => ?_) (site.sheds_rulesOf specifies specifies')
    rw [Bool.eq_iff_iff, Machine.knows_iff, Machine.knows_iff]
    exact site.mem_stateNames_iff specifies specifies' name
  · intro shorter repeats lexer lexer' built built' text merging state state' begins
    exact alike_of_repeats repeats built built' begins text merging

theorem includes_tags_words : Grammar.brackets.Includes "tags" "words" :=
  ⟨⟨"tags", _⟩, .tail _ (.tail _ (.head _)), rfl, _, .tail _ (.tail _ (.head _)), rfl⟩

/-- Words are there at the root of the grammar of brackets by way of tags, and may be included once
more. -/
def bracketsRepetition : Grammar.brackets.Repetition where
  earlier := []
  name := rootState
  front := [
    ⟨"[(]", some "Punctuation", none, none, none, some ["words", "close"], none, none⟩,
    ⟨"", none, none, none, some "tags", none, none, none⟩]
  rule := ⟨"", none, none, none, some "words", none, none, none⟩
  back := []
  later := Grammar.brackets.states.drop 1
  target := "words"
  states := (List.nil_append _).symm
  free := by decide
  splice := rfl
  reached := ⟨_, .tail _ (.head _), "tags", rfl, .single includes_tags_words⟩

/-- The grammar of brackets with a list at its root where words come again. -/
def longBrackets : Grammar where
  config := Grammar.brackets.config
  states :=
    ⟨"root", [
      ⟨"[(]", some "Punctuation", none, none, none, some ["words", "close", "words"], none, none⟩,
      ⟨"", none, none, none, some "tags", none, none, none⟩]⟩ :: Grammar.brackets.states.drop 1

/-- Included once more, words have two dead rules at the root, which may be taken out. -/
theorem shadowed_rules_brackets :
    ∃ again lexer long, ofGrammar bracketsRepetition.repeated = .ok again ∧
      ofGrammar Grammar.brackets = .ok lexer ∧ ofGrammar longBrackets = .ok long ∧
      (again.machine.rulesOf rootState).length = 7 ∧
      (again.firsts.machine.rulesOf rootState).length = 5 ∧ again.RunsLike again.firsts ∧
      again.RunsLike lexer ∧
      ∀ text merging, long.tokens text ⟨merging, none⟩ = lexer.tokens text ⟨merging, none⟩ := by
  obtain ⟨again, built, lengths⟩ : ∃ again, ofGrammar bracketsRepetition.repeated = .ok again ∧
      decide ((again.machine.rulesOf rootState).length = 7 ∧
        (again.firsts.machine.rulesOf rootState).length = 5) = true :=
    exists_ok_of_any (by decide +kernel)
  obtain ⟨seven, five⟩ := of_decide_eq_true lengths
  obtain ⟨machine, builds⟩ := Grammar.exists_brackets
  have built' : ofGrammar Grammar.brackets = .ok _ := map_eq_ok.2 ⟨machine, builds, rfl⟩
  obtain ⟨long, built''⟩ : ∃ long, ofGrammar longBrackets = .ok long :=
    exists_ok_of_isSome (by decide +kernel)
  have repeats : longBrackets.Repeats Grammar.brackets := by
    have same (rules : List RuleDecl) : List.Forall₂ RuleDecl.Repeats rules rules :=
      List.forall₂_same.2 fun rule _ => .refl rule
    have lists : Sheds id [] (["words", "close"] ++ "words" :: []) (["words", "close"] ++ []) :=
      .erase List.mem_cons_self rfl
    have others : List.Forall₂ (StateDecl.Parallel RuleDecl.Repeats)
        (Grammar.brackets.states.drop 1) (Grammar.brackets.states.drop 1) :=
      List.forall₂_same.2 fun state _ => ⟨rfl, same state.rules⟩
    exact ⟨rfl, .cons ⟨rfl, .cons (.shorten (.some lists)) (same _)⟩ others⟩
  obtain ⟨-, includes, -⟩ := shadowed_rules Grammar.brackets
  have dead :=
    (shadowed_rules bracketsRepetition.repeated).1 again built _ again.machine.sheds_firsts
  have members := (shadowed_rules longBrackets).2.2 _ repeats long _ built'' built'
  exact ⟨again, _, long, built, built', built'', seven, five, dead,
    (includes bracketsRepetition).2 _ _ built built',
    fun text merging => (members text merging none none .root).1⟩

end Lexer

end GrammarLexer
