import GrammarLexer.Machine.Table
import GrammarLexer.Proofs.Machine.Compile
import Mathlib.Data.List.Nodup

/-!
# Rules compiled by number

Compiling rules by number refuses a grammar where compiling them by name does, for the same
reason, and else the results differ in what stands for a state only (`Agree`, `Item.Numbered`).
The numbers given out are the places in the list of all names so far, whatever the order in
which lists of states are used: the builder is at each step the one that goes with the lists
noted (`RuleContext.builder`), and names are only added behind the others, so a number that has
been given out stands for its name for good (`Numbers.append`).
-/

namespace GrammarLexer

/-! ## Steps that agree -/

/-- Two steps that refuse a grammar for the same reason, or come to related results. -/
inductive Agree {α β : Type} (related : α → β → Prop) :
    Except GrammarError α → Except Table.Failure β → Prop
  | refused (error : GrammarError) : Agree related (.error error) (.error (.refused error))
  | ok {left : α} {right : β} (results : related left right) :
      Agree related (.ok left) (.ok right)

namespace Agree

variable {α β γ δ : Type} {related : α → β → Prop} {related' : γ → δ → Prop}
  {step : Except GrammarError α} {step' : Except Table.Failure β}

theorem bind {next : α → Except GrammarError γ} {next' : β → Except Table.Failure δ}
    (here : Agree related step step')
    (later : ∀ {left right}, related left right → Agree related' (next left) (next' right)) :
    Agree related' (step >>= next) (step' >>= next') := by
  cases here with
  | refused error => exact .refused error
  | ok results => exact later results

/-- The same, where it matters what the first step came to. -/
theorem bind_of_eq {next : α → Except GrammarError γ} {next' : β → Except Table.Failure δ}
    (here : Agree related step step')
    (later : ∀ {left right}, step = .ok left → related left right →
      Agree related' (next left) (next' right)) :
    Agree related' (step >>= next) (step' >>= next') := by
  cases here with
  | refused error => exact .refused error
  | ok results => exact later rfl results

theorem exists_ok (agree : Agree related step step') {left : α} (found : step = .ok left) :
    ∃ right, step' = .ok right ∧ related left right := by
  cases agree with
  | refused error => exact nomatch found
  | ok results =>
    cases found
    exact ⟨_, rfl, results⟩

theorem exists_ok_left (agree : Agree related step step') {right : β}
    (found : step' = .ok right) : ∃ left, step = .ok left ∧ related left right := by
  cases agree with
  | refused error => exact nomatch found
  | ok results =>
    cases found
    exact ⟨_, rfl, results⟩

theorem eq_refused (agree : Agree related step step') {error : GrammarError}
    (found : step = .error error) : step' = .error (.refused error) := by
  cases agree with
  | refused error =>
    cases found
    rfl
  | ok results => exact nomatch found

theorem map {change : α → γ} {change' : β → δ} (here : Agree related step step')
    (changes : ∀ {left right}, related left right → related' (change left) (change' right)) :
    Agree related' (step.map change) (step'.map change') := by
  cases here with
  | refused error => exact .refused error
  | ok results => exact .ok (changes results)

theorem refusing (step : Except GrammarError α) : Agree Eq step (Table.refusing step) := by
  cases step with
  | error error => exact .refused error
  | ok value => exact .ok rfl

end Agree

/-! ## Names by number -/

/-- A number stands for the name at its place. -/
def Numbers (names : List String) (name : String) (number : Nat) : Prop :=
  names[number]? = some name

theorem mem_of_lookup_eq_some {α β : Type} [BEq α] [LawfulBEq α] {entries : List (α × β)}
    {key : α} {value : β} (found : entries.lookup key = some value) : (key, value) ∈ entries := by
  obtain ⟨before, after, rfl, -⟩ := List.lookup_eq_some_iff.1 found
  exact List.mem_append_right _ List.mem_cons_self

namespace Numbers

variable {names : List String} {name name' : String} {number number' : Nat}

theorem mem (numbers : Numbers names name number) : name ∈ names :=
  List.mem_of_getElem? numbers

theorem lt (numbers : Numbers names name number) : number < names.length :=
  (List.getElem?_eq_some_iff.1 numbers).1

/-- Names that are added later change no number. -/
theorem append (numbers : Numbers names name number) (more : List String) :
    Numbers (names ++ more) name number :=
  (List.getElem?_append_left numbers.lt).trans numbers

theorem name_eq (numbers : Numbers names name number) (numbers' : Numbers names name' number) :
    name = name' :=
  Option.some.inj (numbers.symm.trans numbers')

theorem number_eq (distinct : names.Nodup) (numbers : Numbers names name number)
    (numbers' : Numbers names name number') : number = number' :=
  (List.getElem?_inj numbers.lt distinct).1 (numbers.trans numbers'.symm)

theorem eq_iff (distinct : names.Nodup) (numbers : Numbers names name number)
    (numbers' : Numbers names name' number') : name = name' ↔ number = number' := by
  constructor
  · rintro rfl
    exact numbers.number_eq distinct numbers'
  · rintro rfl
    exact numbers.name_eq numbers'

theorem of_lookup (found : names.zipIdx.lookup name = some number) :
    Numbers names name number :=
  List.mem_zipIdx_iff_getElem?.1 (mem_of_lookup_eq_some found)

end Numbers

/-- Where keys are distinct, an entry is found if it is there. -/
theorem lookup_eq_some_iff {α β : Type} [BEq α] [LawfulBEq α] {entries : List (α × β)}
    (distinct : (entries.map (·.1)).Nodup) {key : α} {value : β} :
    entries.lookup key = some value ↔ (key, value) ∈ entries := by
  refine ⟨mem_of_lookup_eq_some, fun member => ?_⟩
  cases found : entries.lookup key with
  | none => exact absurd (List.lookup_eq_none_iff.1 found _ member) (by simp)
  | some other =>
    cases List.inj_on_of_nodup_map distinct (mem_of_lookup_eq_some found) member rfl
    rfl

theorem notMem_of_lookup_zipIdx {α : Type} [BEq α] [LawfulBEq α] {values : List α} {value : α}
    {start : Nat} (missing : (values.zipIdx start).lookup value = none) : value ∉ values := by
  intro member
  rw [List.lookup_eq_none_iff] at missing
  rw [← List.zipIdx_map_fst start values] at member
  obtain ⟨entry, among, rfl⟩ := List.mem_map.1 member
  exact absurd (missing entry among) (by simp)

/-! ## Rules by number -/

/-- A target with the number of the state in place of its name. -/
inductive Target.Numbered (numbers : String → Nat → Prop) : Target → Table.Target → Prop
  | current : Target.Numbered numbers .current .current
  | named {state : String} {number : Nat} (numbered : numbers state number) :
      Target.Numbered numbers (.named state) (.numbered number)

/-- A group with numbers in place of names. -/
inductive GroupAction.Numbered (numbers : String → Nat → Prop) :
    GroupAction → Table.GroupAction → Prop
  | token (kind : Kind) : GroupAction.Numbered numbers (.token kind) (.token kind)
  | delegate {left : Target} {right : Table.Target} (targets : left.Numbered numbers right) :
      GroupAction.Numbered numbers (.delegate left) (.delegate right)

/-- An action with numbers in place of names. -/
inductive Action.Numbered (numbers : String → Nat → Prop) : Action → Table.Action → Prop
  | nothing : Action.Numbered numbers .nothing .nothing
  | token (kind : Kind) : Action.Numbered numbers (.token kind) (.token kind)
  | groups {left : List GroupAction} {right : List Table.GroupAction}
      (actions : List.Forall₂ (GroupAction.Numbered numbers) left right) :
      Action.Numbered numbers (.groups left) (.groups right)
  | delegate {left : Target} {right : Table.Target} (targets : left.Numbered numbers right) :
      Action.Numbered numbers (.delegate left) (.delegate right)

/-- A move with numbers in place of names. -/
inductive Move.Numbered (numbers : String → Nat → Prop) : Move → Table.Move → Prop
  | stay : Move.Numbered numbers .stay .stay
  | push {left : Target} {right : Table.Target} (targets : left.Numbered numbers right) :
      Move.Numbered numbers (.push left) (.push right)
  | pop (depth : Nat) : Move.Numbered numbers (.pop depth) (.pop depth)

/-- A rule with numbers in place of names. -/
structure Rule.Numbered (numbers : String → Nat → Prop) (left : Rule) (right : Table.Rule) :
    Prop where
  pattern : left.pattern = right.pattern
  program : left.program = right.program
  action : left.action.Numbered numbers right.action
  move : left.move.Numbered numbers right.move

/-- An item with numbers in place of names. Only declared states can be included. -/
inductive Item.Numbered (declared : List String) (numbers : String → Nat → Prop) :
    Item → Table.Item → Prop
  | rule {left : Rule} {right : Table.Rule} (rules : left.Numbered numbers right) :
      Item.Numbered declared numbers (.rule left) (.rule right)
  | splice {target : String} {number : Nat} (numbered : Numbers declared target number) :
      Item.Numbered declared numbers (.splice target) (.splice number)

section Mono

variable {numbers numbers' : String → Nat → Prop}
  (more : ∀ name number, numbers name number → numbers' name number)
include more

theorem Target.Numbered.mono {left : Target} {right : Table.Target}
    (numbered : left.Numbered numbers right) : left.Numbered numbers' right := by
  cases numbered with
  | current => exact .current
  | named numbered => exact .named (more _ _ numbered)

theorem GroupAction.Numbered.mono {left : GroupAction} {right : Table.GroupAction}
    (numbered : left.Numbered numbers right) : left.Numbered numbers' right := by
  cases numbered with
  | token kind => exact .token kind
  | delegate targets => exact .delegate (targets.mono more)

theorem Action.Numbered.mono {left : Action} {right : Table.Action}
    (numbered : left.Numbered numbers right) : left.Numbered numbers' right := by
  cases numbered with
  | nothing => exact .nothing
  | token kind => exact .token kind
  | groups actions => exact .groups (actions.imp fun _ _ group => group.mono more)
  | delegate targets => exact .delegate (targets.mono more)

theorem Move.Numbered.mono {left : Move} {right : Table.Move}
    (numbered : left.Numbered numbers right) : left.Numbered numbers' right := by
  cases numbered with
  | stay => exact .stay
  | push targets => exact .push (targets.mono more)
  | pop depth => exact .pop depth

theorem Item.Numbered.mono {declared : List String} {left : Item} {right : Table.Item}
    (numbered : left.Numbered declared numbers right) :
    left.Numbered declared numbers' right := by
  cases numbered with
  | rule rules =>
    exact .rule ⟨rules.pattern, rules.program, rules.action.mono more, rules.move.mono more⟩
  | splice numbered => exact .splice numbered

end Mono

/-! Where a name has one number, there is one way to put numbers in place of names. -/

section Unique

variable {numbers : String → Nat → Prop} (once : Relator.RightUnique numbers)
include once

theorem Target.numbered_unique : Relator.RightUnique (Target.Numbered numbers) := by
  intro target left right here here'
  cases here with
  | current =>
    cases here'
    rfl
  | named numbered =>
    cases here' with
    | named numbered' => rw [once numbered numbered']

theorem GroupAction.numbered_unique : Relator.RightUnique (GroupAction.Numbered numbers) := by
  intro action left right here here'
  cases here with
  | token kind =>
    cases here'
    rfl
  | delegate targets =>
    cases here' with
    | delegate targets' => rw [Target.numbered_unique once targets targets']

theorem Action.numbered_unique : Relator.RightUnique (Action.Numbered numbers) := by
  intro action left right here here'
  cases here with
  | nothing =>
    cases here'
    rfl
  | token kind =>
    cases here'
    rfl
  | groups actions =>
    cases here' with
    | groups actions' => rw [(GroupAction.numbered_unique once).forall₂ actions actions']
  | delegate targets =>
    cases here' with
    | delegate targets' => rw [Target.numbered_unique once targets targets']

theorem Move.numbered_unique : Relator.RightUnique (Move.Numbered numbers) := by
  intro move left right here here'
  cases here with
  | stay =>
    cases here'
    rfl
  | push targets =>
    cases here' with
    | push targets' => rw [Target.numbered_unique once targets targets']
  | pop depth =>
    cases here'
    rfl

theorem Rule.numbered_unique : Relator.RightUnique (Rule.Numbered numbers) := by
  rintro rule ⟨pattern, program, action, move⟩ ⟨pattern', program', action', move'⟩
    ⟨rfl, rfl, acts, moves⟩ ⟨rfl, rfl, acts', moves'⟩
  cases Action.numbered_unique once acts acts'
  cases Move.numbered_unique once moves moves'
  rfl

end Unique

/-! ## Compiling -/

namespace RuleContext

/-- The names of all states when some lists have been noted. -/
def namesWith (context : RuleContext) (noted : List (List String)) : List String :=
  context.declared ++ noted.map combinedName

/-- The builder that goes with the lists noted. -/
def builder (context : RuleContext) (noted : List (List String)) : Table.Builder where
  ids := context.declared.zipIdx
  flags := context.flags
  names := context.namesWith noted
  combined := noted.zipIdx context.declared.length

/-- Results that correspond, with the lists that have been noted and the builder that goes
with these. -/
structure Standing {α β : Type} (context : RuleContext) (noted : List (List String))
    (related : (String → Nat → Prop) → α → β → Prop) (left : α × List (List String))
    (right : β × Table.Builder) : Prop where
  grown : noted <+: left.2
  builder : right.2 = context.builder left.2
  results : related (Numbers (context.namesWith left.2)) left.1 right.1

variable {context : RuleContext} {noted : List (List String)}

/-- Numbers stand for what they stood for when more lists are noted. -/
theorem numbers_mono {noted' : List (List String)} (grown : noted <+: noted') (name : String)
    (number : Nat) (numbers : Numbers (context.namesWith noted) name number) :
    Numbers (context.namesWith noted') name number := by
  obtain ⟨more, rfl⟩ := grown
  rw [namesWith, List.map_append, ← List.append_assoc]
  exact numbers.append _

theorem exists_id (noted : List (List String)) {name : String}
    (declared : name ∈ context.declared) :
    ∃ number, (context.builder noted).id name = .ok number ∧
      Numbers context.declared name number := by
  unfold Table.Builder.id
  cases found : (context.builder noted).ids.lookup name with
  | some number => exact ⟨number, rfl, Numbers.of_lookup found⟩
  | none => exact absurd declared (notMem_of_lookup_zipIdx found)

theorem id_eq_error {name : String} (missing : name ∉ context.declared) :
    (context.builder noted).id name = .error (.refused (.danglingStates [name])) := by
  unfold Table.Builder.id
  cases found : (context.builder noted).ids.lookup name with
  | some number => exact absurd (Numbers.of_lookup found).mem missing
  | none => rfl

theorem id_agree (name : String) :
    Agree (fun found number => found = name ∧ Numbers context.declared name number)
      (context.declaredState name) ((context.builder noted).id name) := by
  unfold declaredState
  by_cases declared : name ∈ context.declared
  · obtain ⟨number, found, numbers⟩ := exists_id noted declared
    rw [if_pos (List.contains_iff_mem.2 declared), found]
    exact .ok ⟨rfl, numbers⟩
  · rw [if_neg (by simpa using declared), id_eq_error declared]
    exact .refused _

theorem target_agree (name : Option String) :
    Agree (Target.Numbered (Numbers context.declared)) (context.target name)
      ((context.builder noted).target name) := by
  cases name with
  | none => exact .ok .current
  | some name =>
    unfold RuleContext.target Table.Builder.target
    by_cases special : (name = "" || name = pushCurrent) = true
    · simp only [if_pos special]
      exact .ok .current
    · simp only [if_neg special]
      refine (id_agree name).map ?_
      rintro _ number ⟨rfl, numbers⟩
      exact .named numbers

theorem kind_agree (state : String) (index : Nat) (name : String) :
    Agree Eq (RuleContext.kind state index name) (Table.Builder.kind state index name) :=
  Agree.refusing _

theorem groupAction_agree (state : String) (index : Nat) (group : GroupDecl) :
    Agree (GroupAction.Numbered (Numbers context.declared))
      (context.groupAction state index group)
      ((context.builder noted).groupAction state index group) := by
  cases group with
  | token name =>
    refine (kind_agree state index name).map ?_
    rintro kind _ rfl
    exact .token kind
  | delegate delegate => exact (target_agree delegate.state).map .delegate

theorem groupActions_agree (state : String) (index : Nat) (groups : List GroupDecl) :
    Agree (List.Forall₂ (GroupAction.Numbered (Numbers context.declared)))
      (context.groupActions state index groups)
      ((context.builder noted).groupActions state index groups) := by
  induction groups with
  | nil => exact .ok .nil
  | cons group rest ih =>
    refine (groupAction_agree state index group).bind ?_
    intro action action' here
    refine ih.bind ?_
    intro actions actions' others
    exact .ok (.cons here others)

theorem action_agree (state : String) (index : Nat) (rule : RuleDecl) :
    Agree (Action.Numbered (Numbers context.declared)) (context.action state index rule)
      ((context.builder noted).action state index rule) := by
  unfold RuleContext.action Table.Builder.action
  cases rule.token with
  | some name =>
    refine (kind_agree state index name).map ?_
    rintro kind _ rfl
    exact .token kind
  | none =>
    cases rule.groups with
    | some groups => exact (groupActions_agree state index groups).map .groups
    | none =>
      cases rule.delegate with
      | some delegate => exact (target_agree delegate.state).map .delegate
      | none => exact .ok .nothing

/-- Members are looked up one after the other, up to the first that is not declared. -/
theorem mapM_id (context : RuleContext) (noted : List (List String)) (members : List String) :
    (∃ missing, (members.find? fun member => !context.declared.contains member) = some missing ∧
        members.mapM (context.builder noted).id =
          .error (.refused (.danglingStates [missing]))) ∨
      (members.find? fun member => !context.declared.contains member) = none ∧
        ∃ numbers, members.mapM (context.builder noted).id = .ok numbers := by
  induction members with
  | nil => exact .inr ⟨rfl, [], rfl⟩
  | cons member rest ih =>
    rw [List.mapM_cons, List.find?_cons]
    by_cases declared : member ∈ context.declared
    · obtain ⟨number, found, -⟩ := exists_id noted declared
      rw [found, List.contains_iff_mem.2 declared]
      rcases ih with ⟨missing, first, fails⟩ | ⟨first, numbers, all⟩
      · exact .inl ⟨missing, first, by rw [fails]; rfl⟩
      · exact .inr ⟨first, number :: numbers, by rw [all]; rfl⟩
    · have unknown : context.declared.contains member = false := by simpa using declared
      rw [id_eq_error declared, unknown]
      exact .inl ⟨member, rfl, rfl⟩

theorem isTaken_eq (name : String) :
    (((context.builder noted).ids.lookup name).isSome ||
        (context.builder noted).names.contains name) =
      (context.declared.contains name || (noted.map combinedName).contains name) := by
  have whole : (context.builder noted).names.contains name =
      (context.declared.contains name || (noted.map combinedName).contains name) :=
    List.contains_append
  rw [whole]
  cases found : (context.builder noted).ids.lookup name with
  | none => rfl
  | some number =>
    rw [List.contains_iff_mem.2 (Numbers.of_lookup found).mem]
    rfl

theorem namesWith_append (members : List String) :
    context.namesWith (noted ++ [members]) =
      context.namesWith noted ++ [combinedName members] := by
  simp [namesWith]

/-- A list that is numbered next is the next one noted. -/
theorem builder_append (members : List String) :
    { context.builder noted with
      names := (context.builder noted).names ++ [combinedName members]
      combined := (context.builder noted).combined ++
        [(members, (context.builder noted).names.length)] } =
      context.builder (noted ++ [members]) := by
  have next : (context.namesWith noted).length = context.declared.length + noted.length := by
    simp [namesWith]
  simp [builder, namesWith_append, next, List.zipIdx_append]

/-- A list has the number of the state that it will have. -/
theorem combinedState_agree (members : List String) :
    Agree (fun noted' result => noted <+: noted' ∧ result.2 = context.builder noted' ∧
        Numbers (context.namesWith noted') (combinedName members) result.1)
      (context.note noted members) ((context.builder noted).combinedState members) := by
  unfold RuleContext.note Table.Builder.combinedState
  cases found : (context.builder noted).combined.lookup members with
  | some number =>
    -- the number is that of its place behind the declared states
    obtain ⟨above, at_⟩ := List.mem_zipIdx_iff_le_and_getElem?_sub.1 (mem_of_lookup_eq_some found)
    have known : members ∈ noted := List.mem_of_getElem? at_
    rw [if_pos (List.contains_iff_mem.2 known)]
    refine .ok ⟨List.prefix_rfl, rfl, ?_⟩
    rw [Numbers, namesWith, List.getElem?_append_right above, List.getElem?_map, at_]
    rfl
  | none =>
    have unknown : members ∉ noted := notMem_of_lookup_zipIdx found
    rw [if_neg (by simpa using unknown)]
    rcases mapM_id context noted members with ⟨missing, first, fails⟩ | ⟨first, numbers, all⟩
    · rw [first, fails]
      exact .refused _
    · rw [first, all]
      show Agree _ (if context.declared.contains (combinedName members) ||
          (noted.map combinedName).contains (combinedName members) then _ else _)
        (if ((context.builder noted).ids.lookup (combinedName members)).isSome ||
          (context.builder noted).names.contains (combinedName members) then _ else _)
      rw [isTaken_eq]
      split
      · exact .refused _
      · refine .ok ⟨List.prefix_append _ _, builder_append members, ?_⟩
        show Numbers _ _ (context.namesWith noted).length
        rw [namesWith_append, Numbers, List.getElem?_concat_length]

theorem program_agree (state : String) (index : Nat) (rule : RuleDecl) :
    Agree Eq (context.program state index rule)
      ((context.builder noted).program state index rule) := by
  have flags : (context.builder noted).flags = context.flags := rfl
  unfold RuleContext.program Table.Builder.program
  rw [flags]
  cases Pattern.compile context.flags rule.pattern with
  | ok program => exact .ok rfl
  | error cause => exact .refused _

/-- By number, a list is noted when the move of its rule is made. -/
theorem move_agree (rule : RuleDecl) :
    Agree (Standing context noted Move.Numbered)
      (context.noteRule noted rule >>= fun noted =>
        context.move rule >>= fun move => .ok (move, noted))
      ((context.builder noted).move rule) := by
  unfold noteRule RuleContext.move Table.Builder.move
  cases rule.combined with
  | some members =>
    refine (combinedState_agree members).bind ?_
    rintro noted' ⟨number, builder⟩ ⟨grown, rfl, numbers⟩
    exact .ok ⟨grown, rfl, .push (.named numbers)⟩
  | none =>
    cases rule.push with
    | some name =>
      refine (Agree.map (target_agree (some name)) Move.Numbered.push).bind ?_
      intro move move' moves
      exact .ok ⟨List.prefix_rfl, rfl, moves.mono fun _ _ numbers => numbers.append _⟩
    | none =>
      cases rule.pop with
      | some depth => exact .ok ⟨List.prefix_rfl, rfl, .pop (max depth 1)⟩
      | none => exact .ok ⟨List.prefix_rfl, rfl, .stay⟩

/-- **One rule.** A rule becomes an item by number where it becomes one by name. -/
theorem item_agree (state : String) (index : Nat) (rule : RuleDecl) :
    Agree (Standing context noted (Item.Numbered context.declared))
      (context.item state index noted rule)
      ((context.builder noted).item state index rule) := by
  unfold Table.Builder.item
  cases splice : rule.splice with
  | some target =>
    unfold RuleContext.item
    rw [splice]
    refine (id_agree target).bind ?_
    rintro _ number ⟨rfl, numbers⟩
    exact .ok ⟨List.prefix_rfl, rfl, .splice numbers⟩
  | none =>
    rw [item_of_splice_eq_none splice]
    refine (program_agree state index rule).bind ?_
    rintro program _ rfl
    refine (action_agree state index rule).bind ?_
    intro action action' actions
    -- by name a list is noted first and the rule is put together afterwards
    have last : (context.noteRule noted rule >>= fun noted => context.move rule >>= fun move =>
        .ok (Item.rule ⟨rule.pattern, program, action, move⟩, noted)) =
          ((context.noteRule noted rule >>= fun noted => context.move rule >>= fun move =>
            .ok (move, noted)) >>= fun result =>
              .ok (Item.rule ⟨rule.pattern, program, action, result.1⟩, result.2)) := by
      cases context.noteRule noted rule with
      | error error => rfl
      | ok noted => cases context.move rule <;> rfl
    rw [last]
    refine (move_agree rule).bind ?_
    rintro ⟨move, noted'⟩ ⟨move', builder⟩ ⟨grown, rfl, moves⟩
    refine .ok ⟨grown, rfl, .rule ⟨rfl, rfl, ?_, moves⟩⟩
    exact actions.mono fun _ _ numbers => numbers.append _

theorem items_agree (state : String) (index : Nat) (rules : List RuleDecl) :
    Agree (Standing context noted fun numbers =>
        List.Forall₂ (Item.Numbered context.declared numbers))
      (context.items state index noted rules)
      (Table.Builder.items state index (context.builder noted) rules) := by
  induction rules generalizing noted index with
  | nil => exact .ok ⟨List.prefix_rfl, rfl, .nil⟩
  | cons rule rest ih =>
    refine (item_agree state index rule).bind ?_
    rintro ⟨item, noted'⟩ ⟨item', builder⟩ ⟨grown, rfl, here⟩
    refine (ih (index + 1)).bind ?_
    rintro ⟨items, noted''⟩ ⟨items', builder⟩ ⟨grown', rfl, others⟩
    exact .ok ⟨grown.trans grown', rfl, .cons (here.mono (numbers_mono grown')) others⟩

/-- The items of states under their names, and by number. -/
structure NumberedStates (states : List StateDecl) (declared : List String)
    (numbers : String → Nat → Prop) (entries : List (String × List Item))
    (bodies : List (List Table.Item)) : Prop where
  names : entries.map (·.1) = states.map (·.name)
  bodies : List.Forall₂ (fun entry body =>
    List.Forall₂ (Item.Numbered declared numbers) entry.2 body) entries bodies

/-- **All rules.** The rules of all states become items by number where they become items by
name, and the numbers of lists are those of their places among the lists noted. -/
theorem allItems_agree (states : List StateDecl) :
    Agree (Standing context noted (NumberedStates states context.declared))
      (context.allItems noted states)
      (Table.Builder.allItems (context.builder noted) states) := by
  induction states generalizing noted with
  | nil => exact .ok ⟨List.prefix_rfl, rfl, rfl, .nil⟩
  | cons state rest ih =>
    refine (items_agree state.name 0 state.rules).bind ?_
    rintro ⟨items, noted'⟩ ⟨items', builder⟩ ⟨grown, rfl, here⟩
    refine ih.bind ?_
    rintro ⟨others, noted''⟩ ⟨others', builder⟩ ⟨grown', rfl, names, bodies⟩
    refine .ok ⟨grown.trans grown', rfl, congrArg (state.name :: ·) names, .cons ?_ bodies⟩
    exact here.imp fun _ _ item => item.mono (numbers_mono grown')

end RuleContext

end GrammarLexer
