import GrammarLexer.Proofs.Lexer.Agreement
import GrammarLexer.Proofs.Machine.Specification

/-!
# Rules that are never the first to match

Of two rules with one pattern the later one never matches first. So it may be taken out, whatever
it emits and wherever it moves (`Machine.agrees_of_sheds`). A list sheds such members if each one
that is gone has the key of one before it (`Sheds`); what is left when all of them are gone is the
first member of each key (`firsts`). Since compiling depends on the pattern only, the patterns of
the rules of a built machine serve as their keys.
-/

namespace GrammarLexer

/-! ## Lists without later members of a key -/

section Shedding

variable {α β : Type} {key : α → β} {seen seen' : List β}

/-- Some members of a list, where each one that is left out has the key of an earlier one, or one
that was seen before. -/
inductive Sheds (key : α → β) : List β → List α → List α → Prop
  | nil {seen : List β} : Sheds key seen [] []
  | keep {seen : List β} {item : α} {rest kept : List α}
      (others : Sheds key (key item :: seen) rest kept) :
      Sheds key seen (item :: rest) (item :: kept)
  | drop {seen : List β} {item : α} {rest kept : List α} (shadowed : key item ∈ seen)
      (others : Sheds key seen rest kept) : Sheds key seen (item :: rest) kept

namespace Sheds

variable {whole kept : List α}

theorem refl (whole : List α) : Sheds key seen whole whole := by
  induction whole generalizing seen with
  | nil => exact .nil
  | cons item rest ih => exact .keep ih

/-- Where more was seen, more may be left out. -/
theorem mono (sheds : Sheds key seen whole kept) (more : seen ⊆ seen') :
    Sheds key seen' whole kept := by
  induction sheds generalizing seen' with
  | nil => exact .nil
  | keep _ ih => exact .keep (ih (List.cons_subset_cons _ more))
  | drop shadowed _ ih => exact .drop (more shadowed) (ih more)

/-- All members may be left out if all keys were seen. -/
theorem of_seen (all : ∀ item ∈ whole, key item ∈ seen) : Sheds key seen whole [] := by
  induction whole with
  | nil => exact .nil
  | cons item rest ih =>
    obtain ⟨here, others⟩ := List.forall_mem_cons.1 all
    exact .drop here (ih others)

/-- Members of a second list may have the keys of those in the first. -/
theorem append (sheds : Sheds key seen whole kept) {whole' kept' : List α}
    (sheds' : Sheds key (whole.map key ++ seen) whole' kept') :
    Sheds key seen (whole ++ whole') (kept ++ kept') := by
  induction sheds with
  | nil => exact sheds'
  | keep _ ih =>
    refine .keep (ih (sheds'.mono ?_))
    simp
  | drop shadowed _ ih =>
    refine .drop shadowed (ih (sheds'.mono ?_))
    simp [shadowed]

/-- One member may be left out if there is one of the same key before it. -/
theorem erase {front back : List α} {earlier item : α} (before : earlier ∈ front)
    (same : key earlier = key item) : Sheds key seen (front ++ item :: back) (front ++ back) := by
  have shadowed : key item ∈ front.map key ++ seen :=
    List.mem_append_left _ (same ▸ List.mem_map_of_mem before)
  exact (refl front).append (.drop shadowed (refl back))

theorem trans (sheds : Sheds key seen whole kept) {last : List α}
    (sheds' : Sheds key seen kept last) : Sheds key seen whole last := by
  induction sheds generalizing last with
  | nil => exact sheds'
  | @keep seen _ _ _ _ ih =>
    cases sheds' with
    | keep others => exact .keep (ih others)
    | drop shadowed others =>
      have again := ih (others.mono (List.subset_cons_self _ _))
      exact .drop shadowed (again.mono (List.cons_subset.2 ⟨shadowed, List.Subset.refl _⟩))
  | drop shadowed _ ih => exact .drop shadowed (ih sheds')

/-- A list of the same keys sheds in the same places. -/
theorem exists_forall₂ {γ : Type} {key' : γ → β} {related : α → γ → Prop}
    (keys : ∀ item item', related item item' → key item = key' item')
    (sheds : Sheds key seen whole kept) {whole' : List γ}
    (all : List.Forall₂ related whole whole') :
    ∃ kept', List.Forall₂ related kept kept' ∧ Sheds key' seen whole' kept' := by
  induction sheds generalizing whole' with
  | nil =>
    cases all
    exact ⟨[], .nil, .nil⟩
  | keep _ ih =>
    obtain _ | ⟨here, others⟩ := all
    obtain ⟨kept', pairs, sheds'⟩ := ih others
    exact ⟨_ :: kept', .cons here pairs, .keep (keys _ _ here ▸ sheds')⟩
  | drop shadowed _ ih =>
    obtain _ | ⟨here, others⟩ := all
    obtain ⟨kept', pairs, sheds'⟩ := ih others
    exact ⟨kept', pairs, .drop (keys _ _ here ▸ shadowed) sheds'⟩

/-- Where members of members are put together, a member that comes again may be left out. -/
theorem flatMap {names kept : List String} {noted : List String} {members : String → List α}
    (sheds : Sheds id noted names kept)
    (known : ∀ name ∈ noted, ∀ item ∈ members name, key item ∈ seen) :
    Sheds key seen (names.flatMap members) (kept.flatMap members) := by
  induction sheds generalizing seen with
  | nil => exact .nil
  | @keep noted name _ _ _ ih =>
    refine (refl (members name)).append (ih ?_)
    refine List.forall_mem_cons.2 ⟨fun item member => ?_, fun name among item member => ?_⟩
    · exact List.mem_append_left _ (List.mem_map_of_mem member)
    · exact List.mem_append_right _ (known name among item member)
  | @drop noted name _ _ shadowed _ ih =>
    refine (of_seen (known name shadowed)).append ((ih known).mono ?_)
    exact List.subset_append_right _ _

end Sheds

/-! ## The first member of each key -/

variable [DecidableEq β]

/-- The first member of each key that was not seen before. -/
def firsts (key : α → β) : List β → List α → List α
  | _, [] => []
  | seen, item :: rest =>
    if key item ∈ seen then firsts key seen rest else item :: firsts key (key item :: seen) rest

theorem sheds_firsts (whole : List α) : Sheds key seen whole (firsts key seen whole) := by
  induction whole generalizing seen with
  | nil => exact .nil
  | cons item rest ih =>
    rw [firsts]
    split
    · exact .drop ‹_› ih
    · exact .keep ih

theorem firsts_congr (same : ∀ value, value ∈ seen ↔ value ∈ seen') (whole : List α) :
    firsts key seen whole = firsts key seen' whole := by
  induction whole generalizing seen seen' with
  | nil => rfl
  | cons item rest ih =>
    have same' : ∀ value, value ∈ key item :: seen ↔ value ∈ key item :: seen' := by
      intro value
      rw [List.mem_cons, List.mem_cons, same]
    rw [firsts, firsts, ih same, ih same', if_congr (same (key item)) rfl rfl]

/-- They are the same ones for what is left of a list. -/
theorem Sheds.firsts_eq {whole kept : List α} (sheds : Sheds key seen whole kept) :
    firsts key seen whole = firsts key seen kept := by
  induction sheds with
  | nil => rfl
  | @keep seen item _ _ _ ih =>
    rw [firsts, firsts]
    split
    · rename_i shadowed
      have same : ∀ value, value ∈ seen ↔ value ∈ key item :: seen := by
        intro value
        exact ⟨List.mem_cons_of_mem _, fun either =>
          (List.mem_cons.1 either).elim (fun here => here ▸ shadowed) id⟩
      rw [firsts_congr same, ih, firsts_congr same]
    · rw [ih]
  | drop shadowed _ ih => rw [firsts, if_pos shadowed, ih]

/-- Those of two lists of the same keys stand in the same places. -/
theorem forall₂_firsts {γ : Type} {key' : γ → β} {related : α → γ → Prop}
    (keys : ∀ item item', related item item' → key item = key' item') {whole : List α}
    {whole' : List γ} (all : List.Forall₂ related whole whole') :
    List.Forall₂ related (firsts key seen whole) (firsts key' seen whole') := by
  induction all generalizing seen with
  | nil => exact .nil
  | cons here _ ih =>
    rw [firsts, firsts, keys _ _ here]
    split
    · exact ih
    · exact .cons here ih

end Shedding

/-! ## Rules and machines -/

/-- A rule that is gone has the pattern of one before it, which matches whatever it does. -/
theorem Sheds.firstMatch?_eq {flags : Pattern.Flags} {seen : List String} {rules kept : List Rule}
    (sheds : Sheds Rule.pattern seen rules kept)
    (compiled : ∀ rule ∈ rules, Pattern.compile flags rule.pattern = .ok rule.program)
    {cursor : Text.Cursor} (fails : ∀ pattern ∈ seen, ∀ program,
      Pattern.compile flags pattern = .ok program → program.match? cursor = none) :
    firstMatch? cursor rules = firstMatch? cursor kept := by
  induction sheds with
  | nil => rfl
  | @keep seen rule _ _ _ ih =>
    obtain ⟨here, others⟩ := List.forall_mem_cons.1 compiled
    rw [firstMatch?, firstMatch?]
    cases found : rule.program.match? cursor with
    | some found => rfl
    | none =>
      refine ih others (List.forall_mem_cons.2 ⟨fun program same => ?_, fails⟩)
      cases here.symm.trans same
      exact found
  | @drop seen rule _ _ shadowed _ ih =>
    obtain ⟨here, others⟩ := List.forall_mem_cons.1 compiled
    rw [firstMatch?, fails _ shadowed _ here]
    exact ih others fails

namespace Machine

/-- A machine without some of the rules whose pattern is that of an earlier one in the same
state. -/
def Sheds (machine kept : Machine) : Prop :=
  List.Forall₂ (fun state state' => state.name = state'.name ∧
    GrammarLexer.Sheds Rule.pattern [] state.rules state'.rules) machine.states kept.states

/-- The machine without any such rule. -/
def firsts (machine : Machine) : Machine where
  states := machine.states.map fun state =>
    ⟨state.name, GrammarLexer.firsts Rule.pattern [] state.rules⟩

/-- True if the program of each rule is what its pattern is compiled to. -/
def Compiled (flags : Pattern.Flags) (machine : Machine) : Prop :=
  ∀ name, ∀ rule ∈ machine.rulesOf name, Pattern.compile flags rule.pattern = .ok rule.program

variable {machine kept : Machine}

theorem Sheds.knows_eq (sheds : machine.Sheds kept) (name : String) :
    machine.knows name = kept.knows name := by
  have names : List.Forall₂ Eq machine.stateNames kept.stateNames :=
    List.rel_map (fun _ _ here => And.left here) sheds
  rw [List.forall₂_eq_eq_eq] at names
  rw [knows, knows, names]

theorem Sheds.rulesOf (sheds : machine.Sheds kept) (name : String) :
    GrammarLexer.Sheds Rule.pattern [] (machine.rulesOf name) (kept.rulesOf name) := by
  obtain ⟨states⟩ := machine
  obtain ⟨states'⟩ := kept
  rw [Sheds] at sheds
  rw [Machine.rulesOf, Machine.rulesOf]
  dsimp only at sheds ⊢
  induction sheds with
  | nil => exact .nil
  | @cons state state' _ _ here _ ih =>
    obtain ⟨named, rules⟩ := here
    by_cases same : state.name = name
    · have same' : state'.name = name := named ▸ same
      simpa [same, same'] using rules
    · have apart : state'.name ≠ name := named ▸ same
      simpa [same, apart] using ih

theorem sheds_firsts (machine : Machine) : machine.Sheds machine.firsts :=
  List.forall₂_map_right_iff.2 (List.forall₂_same.2 fun _ _ => ⟨rfl, GrammarLexer.sheds_firsts _⟩)

theorem rulesOf_firsts (machine : Machine) (name : String) :
    machine.firsts.rulesOf name = GrammarLexer.firsts Rule.pattern [] (machine.rulesOf name) := by
  simp only [Machine.rulesOf, firsts, List.find?_map, Function.comp_def]
  cases machine.states.find? (·.name = name) <;> rfl

/-- **Shadowed rules.** Machines agree if the one has the rules of the other but for some whose
pattern is that of an earlier one. -/
theorem agrees_of_sheds {flags : Pattern.Flags} (compiled : machine.Compiled flags)
    (sheds : ∀ name,
      GrammarLexer.Sheds Rule.pattern [] (machine.rulesOf name) (kept.rulesOf name)) :
    machine.Agrees kept :=
  fun name _ => Rule.agreeAt_of_eq
    ((sheds name).firstMatch?_eq (compiled name) fun _ none => absurd none List.not_mem_nil)

end Machine

/-- The patterns of a built machine are compiled in one way. -/
theorem Grammar.Specifies.compiled {grammar : Grammar} {machine : Machine}
    (specifies : grammar.Specifies machine) :
    machine.Compiled grammar.config.options.flags := by
  intro name rule member
  by_cases known : name ∈ machine.stateNames
  · obtain ⟨state, listed, rfl⟩ := specifies.mem_stateNames.1 known
    obtain ⟨flat, -, yields⟩ := specifies.rules state listed
    obtain ⟨decl, -, -, pattern, program, -⟩ := exists_of_forall₂ yields member
    exact pattern ▸ program
  · rw [Machine.rulesOf_eq_nil known] at member
    exact absurd member List.not_mem_nil

end GrammarLexer
