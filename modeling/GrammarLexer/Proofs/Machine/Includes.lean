import GrammarLexer.Proofs.Machine.Compile
import Mathlib.Data.List.Perm.Subperm
import Mathlib.Logic.Relation

/-!
# Replacing includes

Resolving goes depth first, and a state is done after all those that it includes. So
the states that are done stand in an order in which each one comes after what it
includes (`Ordered`), with the rules that its items stand for. Such an order leaves no
room for a cycle (`Ordered.acyclic`). Conversely, without a cycle no state turns up on
its own path, and the path is never longer than there are states, so resolving succeeds
(`exists_resolve`).
-/

namespace GrammarLexer

variable {items : List (String × List Item)}

/-- A state includes another. -/
def Splices (items : List (String × List Item)) (name target : String) : Prop :=
  .splice target ∈ itemsOf items name

namespace Resolved

/-- The states that are done, the last one first. -/
def names (resolved : Resolved) : List String := resolved.map (·.1)

/-- The rules that an item stands for. -/
def expand (resolved : Resolved) : Item → List Rule
  | .rule rule => [rule]
  | .splice target => resolved.rulesOf target

/-- Each state is done once, after those it includes, and has the rules that its items
stand for. -/
def Ordered (items : List (String × List Item)) : Resolved → Prop
  | [] => True
  | (name, rules) :: older =>
    name ∉ names older ∧ (∀ target, Splices items name target → target ∈ names older) ∧
      rules = (itemsOf items name).flatMap (expand older) ∧ Ordered items older

/-! ## States that are done -/

/-- States that are done later stand before the others. -/
theorem names_append (newer older : Resolved) :
    names (newer ++ older) = newer.names ++ older.names :=
  List.map_append

/-- No states are done, in order. -/
theorem Ordered.nil : Ordered items [] := trivial

/-- A state that is not done has no rules yet. -/
theorem lookup_eq_none {resolved : Resolved} {name : String} :
    resolved.lookup name = none ↔ name ∉ resolved.names := by
  rw [List.lookup_eq_none_iff, names, List.mem_map]
  constructor
  · rintro missing ⟨entry, member, rfl⟩
    exact absurd (missing entry member) (by simp)
  · intro missing entry member
    exact bne_iff_ne.2 fun same => missing ⟨entry, member, same.symm⟩

/-- What is done later under other names changes nothing. -/
theorem rulesOf_append {newer older : Resolved} {name : String} (fresh : name ∉ newer.names) :
    Resolved.rulesOf (newer ++ older) name = older.rulesOf name := by
  rw [rulesOf, List.lookup_append, lookup_eq_none.2 fresh, Option.none_or]
  rfl

variable {resolved older : Resolved} {name target : String}

/-- What stands before older states in an order has other names. -/
theorem Ordered.fresh {newer : Resolved} (ordered : Ordered items (newer ++ older))
    (member : name ∈ older.names) : name ∉ newer.names := by
  induction newer with
  | nil => exact List.not_mem_nil
  | cons entry newer ih =>
    obtain ⟨first, rules⟩ := entry
    obtain ⟨absent, -, -, ordered⟩ := ordered
    intro among
    rcases List.mem_cons.1 among with rfl | among
    · have within : name ∈ names (newer ++ older) := by
        rw [names_append]
        exact List.mem_append_right _ member
      exact absent within
    · exact ih ordered among

/-- What a state includes is done before it. -/
theorem Ordered.mem_of_splices (ordered : resolved.Ordered items)
    (member : name ∈ resolved.names) (splices : Splices items name target) :
    target ∈ resolved.names := by
  induction resolved with
  | nil => exact absurd member List.not_mem_nil
  | cons entry older ih =>
    obtain ⟨first, rules⟩ := entry
    obtain ⟨-, before, -, ordered⟩ := ordered
    rcases List.mem_cons.1 member with rfl | member
    · exact List.mem_cons_of_mem _ (before target splices)
    · exact List.mem_cons_of_mem _ (ih ordered member)

/-- The same for what it includes at any remove. -/
theorem Ordered.mem_of_reflTransGen (ordered : resolved.Ordered items)
    (member : name ∈ resolved.names)
    (path : Relation.ReflTransGen (Splices items) name target) :
    target ∈ resolved.names := by
  induction path with
  | refl => exact member
  | tail _ splices ih => exact ordered.mem_of_splices ih splices

/-- **No cycles.** A state that is done does not include itself at any remove. -/
theorem Ordered.acyclic (ordered : resolved.Ordered items) (member : name ∈ resolved.names) :
    ¬ Relation.TransGen (Splices items) name name := by
  induction resolved with
  | nil => exact absurd member List.not_mem_nil
  | cons entry older ih =>
    obtain ⟨first, rules⟩ := entry
    obtain ⟨absent, before, -, ordered⟩ := ordered
    rcases List.mem_cons.1 member with rfl | member
    · intro cycle
      -- the way back from the next state passes older states only
      obtain ⟨next, splices, back⟩ := Relation.TransGen.head'_iff.1 cycle
      exact absent (ordered.mem_of_reflTransGen (before next splices) back)
    · exact ih ordered member

/-- A state that is done has the rules that its items stand for in the end. -/
theorem Ordered.rulesOf_eq (ordered : resolved.Ordered items) (member : name ∈ resolved.names) :
    resolved.rulesOf name = (itemsOf items name).flatMap resolved.expand := by
  induction resolved with
  | nil => exact absurd member List.not_mem_nil
  | cons entry older ih =>
    obtain ⟨first, rules⟩ := entry
    have whole := ordered
    obtain ⟨-, before, same, ordered⟩ := ordered
    -- no older state includes the first one, so it does not matter that it is done, too
    have later (target : String) (done : target ∈ names older) :
        Resolved.rulesOf ((first, rules) :: older) target = rulesOf older target := by
      have other : target ∉ names [(first, rules)] := Ordered.fresh whole done
      exact rulesOf_append other
    have expands (name : String) (done : ∀ target, Splices items name target →
        target ∈ names older) : (itemsOf items name).flatMap (expand older) =
          (itemsOf items name).flatMap (expand ((first, rules) :: older)) := by
      refine List.flatMap_congr ?_
      intro item within
      cases item with
      | rule rule => rfl
      | splice target => exact (later target (done target within)).symm
    rcases List.mem_cons.1 member with rfl | member
    · rw [← expands name before, ← same, rulesOf, List.lookup_cons_self, Option.getD_some]
    · rw [later name member, ih ordered member]
      exact expands name fun target splices => ordered.mem_of_splices member splices

/-! ## One more state -/

/-- More states are done, in order, and none of them is on the path. -/
structure Extends (items : List (String × List Item)) (path : List String)
    (older resolved : Resolved) : Prop where
  ordered : resolved.Ordered items
  grown : ∃ newer : Resolved, resolved = newer ++ older ∧ ∀ name ∈ newer.names, name ∉ path

variable {path : List String}

/-- Nothing need be done. -/
theorem Extends.refl (ordered : resolved.Ordered items) :
    Extends items path resolved resolved :=
  ⟨ordered, [], rfl, fun _ member => absurd member List.not_mem_nil⟩

/-- More can be done after more. -/
theorem Extends.trans {middle : Resolved} (first : Extends items path older middle)
    (second : Extends items path middle resolved) : Extends items path older resolved := by
  obtain ⟨-, newer, rfl, fresh⟩ := first
  obtain ⟨ordered, newest, rfl, fresh'⟩ := second
  refine ⟨ordered, newest ++ newer, (List.append_assoc _ _ _).symm, ?_⟩
  intro name member
  rw [names_append] at member
  exact (List.mem_append.1 member).elim (fresh' name) (fresh name)

/-- What was done is still done. -/
theorem Extends.mem (extends' : Extends items path older resolved)
    (member : name ∈ older.names) : name ∈ resolved.names := by
  obtain ⟨-, newer, rfl, -⟩ := extends'
  rw [names_append]
  exact List.mem_append_right _ member

/-- What was done has the rules it had. -/
theorem Extends.rulesOf_eq (extends' : Extends items path older resolved)
    (member : name ∈ older.names) : resolved.rulesOf name = older.rulesOf name := by
  obtain ⟨ordered, newer, rfl, -⟩ := extends'
  exact rulesOf_append (ordered.fresh member)

/-- A state can be done after all those it includes. -/
theorem Extends.cons {rules : List Rule}
    (extends' : Extends items (path ++ [name]) older resolved)
    (absent : name ∉ older.names) (off : name ∉ path)
    (before : ∀ target, Splices items name target → target ∈ resolved.names)
    (same : rules = (itemsOf items name).flatMap resolved.expand) :
    Extends items path older ((name, rules) :: resolved) := by
  obtain ⟨ordered, newer, rfl, fresh⟩ := extends'
  refine ⟨⟨?_, before, same, ordered⟩, (name, rules) :: newer, rfl, ?_⟩
  · intro member
    rw [names_append] at member
    rcases List.mem_append.1 member with new | old
    · exact fresh name new (List.mem_append_right _ List.mem_cons_self)
    · exact absent old
  · intro other member
    rcases List.mem_cons.1 member with rfl | new
    · exact off
    · exact fun on => fresh other new (List.mem_append_left _ on)

end Resolved

/-! ## Resolving -/

/-- Resolve one item of a state, after some rules. -/
def resolveItem (items : List (String × List Item)) (fuel : Nat) (path : List String) :
    List Rule × Resolved → Item → Except GrammarError (List Rule × Resolved)
  | (rules, resolved), .rule rule => .ok (rules ++ [rule], resolved)
  | (rules, resolved), .splice target =>
    resolve items fuel path resolved target >>= fun result =>
      .ok (rules ++ result.1, result.2)

variable {fuel : Nat} {path : List String} {resolved after : Resolved} {name : String}

/-- A state that is done is not resolved again. -/
theorem resolve_of_mem (done : name ∈ resolved.names) :
    resolve items (fuel + 1) path resolved name = .ok (resolved.rulesOf name, resolved) := by
  rw [resolve, Resolved.rulesOf]
  cases found : resolved.lookup name with
  | some rules => rfl
  | none => exact absurd done (Resolved.lookup_eq_none.1 found)

/-- A state on the path that is not done closes a cycle. -/
theorem resolve_of_on_path (absent : name ∉ resolved.names) (on : name ∈ path) :
    resolve items (fuel + 1) path resolved name =
      .error (.includeCycle (path.dropWhile (· != name) ++ [name])) := by
  rw [resolve, Resolved.lookup_eq_none.2 absent]
  simp only [List.contains_eq_mem, on, decide_true, if_true]

/-- A state that is neither done nor on the path is resolved item by item. -/
theorem resolve_of_absent (absent : name ∉ resolved.names) (off : name ∉ path) :
    resolve items (fuel + 1) path resolved name =
      ((itemsOf items name).foldlM (resolveItem items fuel (path ++ [name])) ([], resolved) >>=
        fun result => .ok (result.1, (name, result.1) :: result.2)) := by
  rw [resolve, Resolved.lookup_eq_none.2 absent]
  simp only [List.contains_eq_mem, off, decide_false, Bool.false_eq_true, if_false]
  congr 1
  refine congrArg (List.foldlM · _ _) ?_
  funext entry item
  cases item <;> rfl

/-- What resolving the items of a state comes to, if it does for each state included. -/
theorem foldlM_resolveItem {todo : List Item} {rules rules' : List Rule}
    (resolves : ∀ {resolved after target rules}, resolved.Ordered items →
      resolve items fuel path resolved target = .ok (rules, after) →
        Resolved.Extends items path resolved after ∧ target ∈ after.names ∧
          after.rulesOf target = rules)
    (ordered : resolved.Ordered items)
    (found : todo.foldlM (resolveItem items fuel path) (rules, resolved) =
      .ok (rules', after)) :
    Resolved.Extends items path resolved after ∧
      (∀ target, .splice target ∈ todo → target ∈ after.names) ∧
        rules' = rules ++ todo.flatMap after.expand := by
  induction todo generalizing rules resolved with
  | nil =>
    cases found
    exact ⟨.refl ordered, fun _ member => absurd member List.not_mem_nil,
      (List.append_nil _).symm⟩
  | cons item rest ih =>
    obtain ⟨⟨_, _⟩, here, found⟩ := bind_eq_ok.1 (List.foldlM_cons.symm.trans found)
    cases item with
    | rule rule =>
      cases here
      obtain ⟨grows, done, rfl⟩ := ih ordered found
      refine ⟨grows, ?_, List.append_assoc _ _ _⟩
      intro target member
      exact done target ((List.mem_cons.1 member).resolve_left (by simp))
    | splice target =>
      -- what is done for the rest leaves the rules of the target as they are
      obtain ⟨⟨more, middle⟩, nested, same⟩ := bind_eq_ok.1 here
      cases same
      obtain ⟨grows, done, rfl⟩ := resolves ordered nested
      obtain ⟨grows', done', rfl⟩ := ih grows.ordered found
      refine ⟨grows.trans grows', ?_, ?_⟩
      · intro other member
        rcases List.mem_cons.1 member with same | member
        · cases same
          exact grows'.mem done
        · exact done' other member
      · rw [List.flatMap_cons, ← List.append_assoc, Resolved.expand, grows'.rulesOf_eq done]

/-- **Resolving.** A state that is resolved is done, in order, and has the rules that are
returned. -/
theorem resolve_extends {rules : List Rule} (ordered : resolved.Ordered items)
    (found : resolve items fuel path resolved name = .ok (rules, after)) :
    Resolved.Extends items path resolved after ∧ name ∈ after.names ∧
      after.rulesOf name = rules := by
  induction fuel generalizing path resolved name rules after with
  | zero => exact nomatch found
  | succ fuel ih =>
    by_cases done : name ∈ resolved.names
    · rw [resolve_of_mem done] at found
      cases found
      exact ⟨.refl ordered, done, rfl⟩
    · by_cases on : name ∈ path
      · rw [resolve_of_on_path done on] at found
        exact nomatch found
      · rw [resolve_of_absent done on] at found
        obtain ⟨⟨rules', middle⟩, folded, same⟩ := bind_eq_ok.1 found
        cases same
        obtain ⟨grows, before, rfl⟩ := foldlM_resolveItem ih ordered folded
        refine ⟨grows.cons done on before (List.nil_append _), List.mem_cons_self, ?_⟩
        rw [Resolved.rulesOf, List.lookup_cons_self, Option.getD_some]

/-- States that are resolved one after the other are done in order. -/
theorem resolveAll_ordered {names : List String} (ordered : resolved.Ordered items)
    (found : resolveAll items resolved names = .ok after) :
    after.Ordered items ∧ ∀ name, name ∈ resolved.names ∨ name ∈ names → name ∈ after.names := by
  induction names generalizing resolved with
  | nil =>
    cases found
    refine ⟨ordered, ?_⟩
    intro name either
    exact either.resolve_right List.not_mem_nil
  | cons first rest ih =>
    obtain ⟨⟨rules, middle⟩, here, found⟩ := bind_eq_ok.1 found
    obtain ⟨grows, done, -⟩ := resolve_extends ordered here
    obtain ⟨ordered, all⟩ := ih grows.ordered found
    refine ⟨ordered, ?_⟩
    intro name either
    apply all
    rcases either with old | among
    · exact .inl (grows.mem old)
    · rcases List.mem_cons.1 among with rfl | later
      · exact .inl done
      · exact .inr later

/-! ## Without cycles -/

/-- What is included has items, and nothing includes itself at any remove. -/
structure Acyclic (items : List (String × List Item)) : Prop where
  closed : ∀ name target, Splices items name target → target ∈ items.map (·.1)
  acyclic : ∀ name, ¬ Relation.TransGen (Splices items) name name

/-- Items are resolved one after the other if each state included can be. -/
theorem exists_foldlM_resolveItem {todo : List Item}
    (resolves : ∀ target, .splice target ∈ todo → ∀ resolved, ∃ result,
      resolve items fuel path resolved target = .ok result) (start : List Rule × Resolved) :
    ∃ result, todo.foldlM (resolveItem items fuel path) start = .ok result := by
  induction todo generalizing start with
  | nil => exact ⟨start, rfl⟩
  | cons item rest ih =>
    have one : ∃ next, resolveItem items fuel path start item = .ok next := by
      cases item with
      | rule rule => exact ⟨_, rfl⟩
      | splice target =>
        obtain ⟨result, found⟩ := resolves target List.mem_cons_self start.2
        exact ⟨_, bind_eq_ok.2 ⟨result, found, rfl⟩⟩
    obtain ⟨next, here⟩ := one
    obtain ⟨result, others⟩ := ih (fun target member => resolves target (.tail _ member)) next
    exact ⟨result, List.foldlM_cons.trans (bind_eq_ok.2 ⟨next, here, others⟩)⟩

/-- **Termination.** Without cycles a state can be resolved, as each state on the path
includes it at some remove, and no path is longer than there are states. -/
theorem Acyclic.exists_resolve (acyclic : Acyclic items) (known : name ∈ items.map (·.1))
    (climbs : ∀ above ∈ path, Relation.TransGen (Splices items) above name)
    (distinct : path.Nodup) (within : path ⊆ items.map (·.1))
    (enough : items.length < fuel + path.length) :
    ∃ result, resolve items fuel path resolved name = .ok result := by
  induction fuel generalizing path resolved name with
  | zero =>
    -- distinct states on the path are no more than there are
    have short := (List.subperm_of_subset distinct within).length_le
    rw [List.length_map] at short
    omega
  | succ fuel ih =>
    by_cases done : name ∈ resolved.names
    · exact ⟨_, resolve_of_mem done⟩
    · -- a state on the path includes what it leads to, so this one would include itself
      have off : name ∉ path := by
        intro on
        exact acyclic.acyclic name (climbs name on)
      have nested : ∀ target, .splice target ∈ itemsOf items name → ∀ resolved, ∃ result,
          resolve items fuel (path ++ [name]) resolved target = .ok result := by
        intro target splices resolved
        refine ih (acyclic.closed name target splices) ?_ ?_ ?_ ?_
        · intro above member
          rcases List.mem_append.1 member with higher | here
          · exact (climbs above higher).tail splices
          · rw [List.mem_singleton.1 here]
            exact .single splices
        · refine List.nodup_append.2 ⟨distinct, by simp, ?_⟩
          rintro above member _ here rfl
          exact off (List.mem_singleton.1 here ▸ member)
        · exact List.append_subset.2 ⟨within, List.cons_subset.2 ⟨known, List.nil_subset _⟩⟩
        · rw [List.length_append, List.length_singleton]
          omega
      obtain ⟨result, folded⟩ := exists_foldlM_resolveItem nested ([], resolved)
      rw [resolve_of_absent done off]
      exact ⟨_, bind_eq_ok.2 ⟨result, folded, rfl⟩⟩

/-- So can all states. -/
theorem Acyclic.exists_resolveAll (acyclic : Acyclic items) {names : List String}
    (known : names ⊆ items.map (·.1)) : ∃ after, resolveAll items resolved names = .ok after := by
  induction names generalizing resolved with
  | nil => exact ⟨resolved, rfl⟩
  | cons first rest ih =>
    obtain ⟨here, others⟩ := List.cons_subset.1 known
    have one : ∃ result, resolve items (items.length + 1) [] resolved first = .ok result :=
      acyclic.exists_resolve here (fun _ member => absurd member List.not_mem_nil)
        List.nodup_nil (List.nil_subset _) (Nat.lt_succ_self items.length)
    obtain ⟨result, found⟩ := one
    obtain ⟨after, rest⟩ := ih others
    exact ⟨after, bind_eq_ok.2 ⟨result, found, rest⟩⟩

/-- **Includes.** All states can be resolved if and only if no state includes itself at
any remove. -/
theorem exists_resolveAll_iff
    (closed : ∀ name target, Splices items name target → target ∈ items.map (·.1)) :
    (∃ after, resolveAll items [] (items.map (·.1)) = .ok after) ↔
      ∀ name, ¬ Relation.TransGen (Splices items) name name := by
  constructor
  · rintro ⟨after, found⟩ name cycle
    obtain ⟨ordered, all⟩ := resolveAll_ordered .nil found
    -- the last edge of a cycle leads to a state that is declared, so it is done
    obtain ⟨above, -, splices⟩ := Relation.TransGen.tail'_iff.1 cycle
    exact ordered.acyclic (all name (.inr (closed above name splices))) cycle
  · intro acyclic
    exact Acyclic.exists_resolveAll ⟨closed, acyclic⟩ (List.Subset.refl _)

end GrammarLexer
