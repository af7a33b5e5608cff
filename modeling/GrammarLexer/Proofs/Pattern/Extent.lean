import GrammarLexer.Pattern.Search

/-!
# The extent of a match

A match ends within the span it was searched in, and the spans of its groups end
within the match (`match?_within`). Both hold for every program, compiled from a
pattern or not: a thread notes the end of a group at the place where it stands, and
a match is as long as the place where its thread was accepted.
-/

namespace GrammarLexer.Pattern

open Text

/-- A match of at most so many characters, in which every group ends. -/
structure Match.Within (found : Match) (limit : Nat) : Prop where
  length_le : found.length ≤ limit
  stop_le : ∀ span ∈ found.spans, span.stop ≤ found.length

/-- The spans found for groups end in the match. -/
theorem Match.Within.span?_le {found : Match} {limit group : Nat} {span : GroupSpan}
    (within : found.Within limit) (some : found.span? group = some span) :
    span.stop ≤ found.length :=
  within.stop_le span (List.mem_of_find?_eq_some some)

/-! ## Threads -/

/-- No group of the thread ends behind a place of the text. -/
def Thread.EndsBy (offset : Nat) (thread : Thread) : Prop :=
  ∀ span ∈ thread.spans, span.stop ≤ offset

/-- What ends by a place ends by every later one. -/
theorem Thread.EndsBy.mono {offset later : Nat} {thread : Thread}
    (ends : thread.EndsBy offset) (le : offset ≤ later) : thread.EndsBy later :=
  fun span member => Nat.le_trans (ends span member) le

/-- Leaving a group ends it at the place where the thread stands. -/
theorem Thread.EndsBy.leave {offset : Nat} {thread : Thread}
    (ends : thread.EndsBy offset) (group : Nat) : (thread.leave group offset).EndsBy offset := by
  unfold Thread.leave
  split
  · intro span member
    rcases List.mem_cons.1 member with rfl | earlier
    · exact Nat.le_refl offset
    · exact ends span earlier
  · exact ends

/-- The threads that arrive at a place have ended their groups by then. -/
theorem explore_endsBy (code : Array Instr) (before after : Option Char) (offset : Nat)
    {fuel : Nat} {thread : Thread} {frontier : Frontier} (ends : thread.EndsBy offset)
    (others : ∀ other ∈ frontier.threads, other.EndsBy offset) :
    ∀ other ∈ (explore code before after offset fuel thread frontier).threads,
      other.EndsBy offset := by
  induction fuel generalizing thread frontier with
  | zero => exact others
  | succ fuel ih =>
    have arrived : ∀ other ∈ thread :: frontier.threads, other.EndsBy offset := by
      intro other member
      rcases List.mem_cons.1 member with rfl | earlier
      · exact ends
      · exact others other earlier
    unfold explore
    split
    · exact others
    · dsimp only
      -- one bullet for each instruction, after none at all
      split
      · exact others
      · exact arrived
      · exact arrived
      · exact ih ends (ih ends others)
      · split
        · exact ih ends others
        · exact others
      · exact ih ends others
      · exact ih (ends.leave _) others

/-- A step of all threads keeps them within the text read. -/
theorem stepThreads_endsBy (code : Array Instr) (c : Char) (after : Option Char)
    {offset : Nat} {threads : List Thread}
    (ends : ∀ thread ∈ threads, thread.EndsBy offset) :
    ∀ thread ∈ stepThreads code c after (offset + 1) threads,
      thread.EndsBy (offset + 1) := by
  unfold stepThreads
  intro thread member
  rw [List.mem_reverse] at member
  revert thread
  -- the frontier keeps the property while threads are added to it one by one
  refine List.foldlRecOn threads _
    (motive := fun (frontier : Frontier) =>
      ∀ thread ∈ frontier.threads, thread.EndsBy (offset + 1))
    (fun _ member => absurd member List.not_mem_nil) ?_
  intro frontier others thread member
  have moved : thread.EndsBy (offset + 1) := (ends thread member).mono (Nat.le_succ offset)
  split
  · split
    · exact explore_endsBy code _ _ _ moved others
    · exact others
  · exact others

/-! ## Matches -/

/-- The match at a place is as long as the text up to there. -/
theorem bestOf_within {code : Array Instr} {offset limit : Nat} {threads : List Thread}
    {best : Option Match} {found : Match} (le : offset ≤ limit)
    (ends : ∀ thread ∈ threads, thread.EndsBy offset)
    (earlier : ∀ found, best = some found → found.Within limit)
    (result : follow.bestOf code offset threads best = some found) : found.Within limit := by
  unfold follow.bestOf at result
  split at result
  · rename_i thread accepted
    obtain rfl := Option.some.inj result
    exact ⟨le, ends thread (List.mem_of_find?_eq_some accepted)⟩
  · exact earlier found result

/-- Following threads through the rest of a span finds matches within it. -/
theorem follow_within {code : Array Instr} {last : Option Char} {rest : List Char}
    {offset : Nat} {threads : List Thread} {best : Option Match} {found : Match}
    (ends : ∀ thread ∈ threads, thread.EndsBy offset)
    (earlier : ∀ found, best = some found → found.Within (offset + rest.length))
    (result : follow code last rest offset threads best = some found) :
    found.Within (offset + rest.length) := by
  induction rest generalizing offset threads best with
  | nil => exact bestOf_within (Nat.le_refl offset) ends earlier result
  | cons c rest ih =>
    have here : ∀ found, follow.bestOf code offset threads best = some found →
        found.Within (offset + (c :: rest).length) :=
      fun found => bestOf_within (Nat.le_add_right offset _) ends earlier
    have further : offset + (c :: rest).length = offset + 1 + rest.length := by
      rw [List.length_cons]
      omega
    unfold follow at result
    dsimp only at result
    split at result
    · exact here found result
    · rw [further]
      refine ih (stepThreads_endsBy code c _ ?_) ?_ result
      · intro thread member
        exact ends thread ((List.takeWhile_sublist _).subset member)
      · rw [← further]
        exact here

/-- **Extent.** A match lies in the rest of the span, and its groups end in it. -/
theorem match?_within {program : Program} {cursor : Cursor} {found : Match}
    (result : program.match? cursor = some found) :
    found.Within cursor.rest.length := by
  unfold Program.match? at result
  rw [← Nat.zero_add cursor.rest.length]
  refine follow_within ?_ ?_ result
  · intro thread member
    rw [List.mem_reverse] at member
    refine explore_endsBy _ _ _ _ ?_ ?_ thread member
    · exact fun _ member => absurd member List.not_mem_nil
    · exact fun _ member => absurd member List.not_mem_nil
  · intro _ none
    exact absurd none (by simp)

end GrammarLexer.Pattern
