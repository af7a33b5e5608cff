import GrammarLexer.Proofs.Token.Blocks

/-!
# What a merger makes of any tokens

Whatever tokens a merger is given, in order or not, there is one way to cut them into blocks
that are as long as they can be (`Token.Partition`), and the merger hands out one token for
each block. The turns of its loop are taken one by one (`turn`): at each point that is reached
the tokens handed out stand for the first blocks, the token held stands for what has been read
of the next block, and the rest is unread (`Reaches.accounts`).
-/

namespace GrammarLexer

namespace Token

/-- Tokens that can be joined to one: each of them after the first is of the kind of the one
before, and starts where that stops. -/
def IsBlock (tokens : List Token) : Prop :=
  tokens ≠ [] ∧ tokens.IsChain fun left right => left.meets right

/-- Tokens are cut into blocks, no two neighbours of which make one block. -/
structure Partition (tokens : List Token) (blocks : List (List Token)) : Prop where
  whole : blocks.flatten = tokens
  parts : ∀ block ∈ blocks, IsBlock block
  apart : blocks.IsChain fun left right => ¬ IsBlock (left ++ right)

variable {tokens left right : List Token} {blocks : List (List Token)}

/-- Two blocks do not make one if the last token of the first does not meet the first one of
the second. -/
theorem not_isBlock_append (first : IsBlock left) (second : IsBlock right) :
    ¬ IsBlock (left ++ right) ↔
      ∃ filled filled', (left.getLast filled).meets (right.head filled') = false := by
  obtain ⟨filled, chain⟩ := first
  obtain ⟨filled', chain'⟩ := second
  have whole : left ++ right ≠ [] := List.append_ne_nil_of_left_ne_nil filled right
  have meets : IsBlock (left ++ right) ↔
      (left.getLast filled).meets (right.head filled') = true := by
    rw [IsBlock, and_iff_right whole, List.isChain_append, and_iff_right chain,
      and_iff_right chain', List.getLast?_eq_some_getLast filled, List.head?_eq_some_head filled']
    simp
  rw [meets, Bool.not_eq_true]
  exact ⟨fun apart => ⟨filled, filled', apart⟩, fun ⟨_, _, apart⟩ => apart⟩

/-- There is one partition. -/
theorem partition_iff : Partition tokens blocks ↔ tokens.splitBy meets = blocks := by
  rw [List.splitBy_eq_iff]
  constructor
  · rintro ⟨whole, parts, apart⟩
    refine ⟨whole.symm, fun member => (parts [] member).1 rfl, fun block member =>
      (parts block member).2, apart.imp_of_mem_imp ?_⟩
    intro left right member member'
    exact (not_isBlock_append (parts left member) (parts right member')).1
  · rintro ⟨whole, filled, chains, apart⟩
    have parts : ∀ block ∈ blocks, IsBlock block := fun block member =>
      ⟨fun empty => filled (empty ▸ member), chains block member⟩
    refine ⟨whole.symm, parts, apart.imp_of_mem_imp ?_⟩
    intro left right member member'
    exact (not_isBlock_append (parts left member) (parts right member')).2

end Token

namespace Merger

/-! ## Turns of the loop -/

/-- One turn: read a token, or give up the one that is held if there is none to read. -/
def turn (merger : Merger) : Option Token × Merger :=
  match merger.unread with
  | [] => merger.flush
  | token :: rest =>
    match merger.held with
    | none => (none, { merger with held := some token, unread := rest })
    | some current =>
      match current.join? token with
      | some joined => (none, { merger with held := some joined, unread := rest })
      | none => (some current, { merger with held := some token, unread := rest })

/-- The points that a merger passes when it is given some tokens, with what it has handed out
up to there. -/
inductive Reaches (tokens : List Token) : List Token → Merger → Prop
  | start : Reaches tokens [] (ofList true tokens)
  | turn {returned : List Token} {merger : Merger} (reaches : Reaches tokens returned merger) :
      Reaches tokens (returned ++ merger.turn.1.toList) merger.turn.2

/-- The token held stands for the tokens read since the last one was handed out. -/
def Holds (held : Option Token) (read : List Token) : Prop :=
  match held with
  | none => read = []
  | some token => Token.Stands read token

/-- The books of a merger at some point: a token has been handed out for each of the first
blocks, and the others are what the held token stands for and what is unread. -/
structure Accounts (blocks : List (List Token)) (returned : List Token) (merger : Merger) :
    Prop where
  complete : List.Forall₂ Token.Joins (blocks.take returned.length) returned
  others : ∃ read, Holds merger.held read ∧
    blocks.drop returned.length = (read ++ merger.unread).splitBy Token.meets

variable {tokens returned : List Token} {merger : Merger} {blocks : List (List Token)}

/-- A token that is handed out stands for the next block. -/
theorem Accounts.hand {read : List Token} {token : Token} {after : Merger}
    (complete : List.Forall₂ Token.Joins (blocks.take returned.length) returned)
    (stands : Token.Stands read token) {rest : List (List Token)}
    (others : blocks.drop returned.length = read :: rest)
    (later : ∃ read, Holds after.held read ∧ rest = (read ++ after.unread).splitBy Token.meets) :
    Accounts blocks (returned ++ [token]) after := by
  have next : blocks.take (returned.length + 1) = blocks.take returned.length ++ [read] := by
    rw [List.take_add_one, ← List.head?_drop, others]
    rfl
  have drop : blocks.drop (returned.length + 1) = rest := by
    rw [← List.drop_drop, others]
    rfl
  refine ⟨?_, ?_⟩
  · rw [List.length_append, List.length_singleton, next]
    exact List.rel_append complete (.cons stands.joins .nil)
  · rw [List.length_append, List.length_singleton, drop]
    exact later

/-- **One turn.** It keeps the books. -/
theorem Accounts.turn (accounts : Accounts blocks returned merger) :
    Accounts blocks (returned ++ merger.turn.1.toList) merger.turn.2 := by
  obtain ⟨merging, held, unread⟩ := merger
  obtain ⟨complete, read, holds, others⟩ := accounts
  cases unread with
  | nil =>
    cases held with
    | none =>
      obtain rfl : read = [] := holds
      exact ⟨by simpa [Merger.turn, flush] using complete, [], rfl,
        by simpa [Merger.turn, flush] using others⟩
    | some current =>
      have stands : Token.Stands read current := holds
      rw [List.append_nil, stands.splitBy] at others
      exact Accounts.hand complete stands others ⟨[], rfl, rfl⟩
  | cons token rest =>
    cases held with
    | none =>
      obtain rfl : read = [] := holds
      exact ⟨by simpa [Merger.turn] using complete, [token], .single token,
        by simpa [Merger.turn] using others⟩
    | some current =>
      have stands : Token.Stands read current := holds
      cases same : current.join? token with
      | some joined =>
        have longer : Merger.turn ⟨merging, some current, token :: rest⟩ =
            (none, ⟨merging, some joined, rest⟩) := by
          simp only [Merger.turn, same]
        rw [longer]
        refine ⟨by simpa using complete, read ++ [token], stands.append same, ?_⟩
        simpa using others
      | none =>
        -- the block is complete, and the token begins the next one
        have handed : Merger.turn ⟨merging, some current, token :: rest⟩ =
            (some current, ⟨merging, some token, rest⟩) := by
          simp only [Merger.turn, same]
        rw [stands.splitBy_append_cons same] at others
        rw [handed]
        exact Accounts.hand complete stands others ⟨[token], .single token, rfl⟩

/-- **All turns.** The books are kept at each point that is reached. -/
theorem Reaches.accounts (reaches : Reaches tokens returned merger)
    (partition : Token.Partition tokens blocks) : Accounts blocks returned merger := by
  induction reaches with
  | start =>
    refine ⟨by simp, [], rfl, ?_⟩
    exact (Token.partition_iff.1 partition).symm
  | turn _ ih => exact ih.turn

/-- A merger that merges goes on merging. -/
theorem Reaches.merging_eq (reaches : Reaches tokens returned merger) : merger.merging = true := by
  induction reaches with
  | start => rfl
  | @turn returned merger _ ih =>
    unfold Merger.turn
    split
    · exact ih
    · split
      · exact ih
      · split <;> exact ih

/-- Reading a run takes turns. -/
theorem Reaches.readRun {held : Option Token} {unread : List Token}
    (reaches : Reaches tokens returned ⟨true, held, unread⟩) :
    Reaches tokens (returned ++ (readRun held unread).1.toList)
      ⟨true, (Merger.readRun held unread).2.1, (Merger.readRun held unread).2.2⟩ := by
  fun_induction Merger.readRun held unread with
  | case1 held =>
    rw [Option.toList_none, List.append_nil]
    exact reaches
  | case2 token rest ih =>
    have next := reaches.turn
    simp only [Merger.turn, Option.toList_none, List.append_nil] at next
    exact ih next
  | case3 token rest current joined same ih =>
    have next := reaches.turn
    simp only [Merger.turn, same, Option.toList_none, List.append_nil] at next
    exact ih next
  | case4 token rest current apart =>
    have next := reaches.turn
    simp only [Merger.turn, apart] at next
    exact next

/-- So does a call. -/
theorem Reaches.next (reaches : Reaches tokens returned merger) :
    Reaches tokens (returned ++ merger.next.1.toList) merger.next.2 := by
  have merging := reaches.merging_eq
  obtain ⟨_, held, unread⟩ := merger
  obtain rfl := merging
  have read := reaches.readRun
  unfold Merger.next
  split
  · rename_i token after polled
    obtain ⟨found, rfl⟩ := Prod.mk.inj polled
    rw [← found]
    exact read
  · rename_i after polled
    have exhausted := exhausted_of_poll polled
    obtain ⟨found, rfl⟩ := Prod.mk.inj polled
    rw [found, Option.toList_none, List.append_nil] at read
    have last := read.turn
    rw [Merger.turn, exhausted.unread] at last
    exact last

/-- A call hands out the first of the tokens to come, if there are any. -/
theorem remaining_next (merger : Merger) :
    merger.remaining [] = merger.next.1.toList ++ merger.next.2.remaining [] ∧
      (merger.next.1 = none → merger.next.2.remaining [] = []) := by
  have polls := merger.remaining_poll []
  unfold Merger.next
  split
  · rename_i token after polled
    rw [polled] at polls
    exact ⟨polls, fun none => nomatch none⟩
  · rename_i after polled
    have exhausted := exhausted_of_poll polled
    rw [polled] at polls
    have nothing := exhausted.remaining_flush_snd
    refine ⟨?_, fun _ => nothing⟩
    rw [nothing, List.append_nil, polls]
    exact exhausted.remaining_nil

/-- Handing out a token leaves fewer. -/
theorem next_shortens {after : Merger} {token : Token}
    (found : merger.next = (some token, after)) :
    after.outstanding.length < merger.outstanding.length := by
  unfold Merger.next at found
  split at found
  · rename_i polled
    cases found
    exact poll_shortens polled
  · rename_i rest polled
    obtain ⟨flushed, rfl⟩ := Prod.mk.inj found
    exact flush_shortens polled flushed

/-- All tokens that a merger hands out until it has none. -/
def drain (merger : Merger) : List Token :=
  match _found : merger.next with
  | (none, _) => []
  | (some token, rest) => token :: rest.drain
termination_by merger.outstanding.length
decreasing_by exact next_shortens _found

/-- The tokens handed out are those that are to come. -/
theorem drain_eq (merger : Merger) : merger.drain = merger.remaining [] := by
  fun_induction Merger.drain merger with
  | case1 merger after found =>
    obtain ⟨remaining, ends⟩ := merger.remaining_next
    rw [found] at remaining ends
    rw [remaining, ends rfl]
    rfl
  | case2 merger token rest found ih =>
    obtain ⟨remaining, -⟩ := merger.remaining_next
    rw [found] at remaining
    rw [remaining, ih]
    rfl

/-- The merger after some calls. -/
def after : Nat → Merger → Merger
  | 0, merger => merger
  | calls + 1, merger => (merger.after calls).next.2

end Merger

namespace Token

/-- All tokens that come of some tokens when they are merged. -/
def merged (tokens : List Token) : List Token := (Merger.ofList true tokens).drain

end Token

end GrammarLexer
