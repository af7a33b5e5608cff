import GrammarLexer.Token.Merge

/-!
# Tilings

Tokens tile a stretch of a text if the first one starts where the stretch does, each
one starts where the one before it stops, and the last one stops where the stretch
does; no token is empty (`Tiles`). A tiling carries a property of the offsets where
tokens meet, such as being a boundary of the text.

Tilings are put together by `Tiles.append`, and a merger keeps them, since it joins
only tokens that meet (`Merger.poll_tiles`).
-/

namespace GrammarLexer

/-- Tokens that cover the bytes between two offsets, one after the other, none of them
empty. Every offset at which one starts or stops has the property `mark`. -/
def Tiles (mark : Nat → Prop) : Nat → Nat → List Token → Prop
  | start, stop, [] => mark start ∧ start = stop
  | start, stop, token :: rest =>
    mark start ∧ token.start = start ∧ 0 < token.length ∧ Tiles mark token.stop stop rest

namespace Tiles

variable {mark : Nat → Prop} {start middle stop : Nat} {tokens others : List Token}

/-- No tokens tile nothing. -/
theorem nil (here : mark start) : Tiles mark start start [] := ⟨here, rfl⟩

/-- The stretch begins at a marked offset. -/
theorem mark_start (tiles : Tiles mark start stop tokens) : mark start := by
  cases tokens with
  | nil => exact tiles.1
  | cons token rest => exact tiles.1

/-- The stretch ends at a marked offset. -/
theorem mark_stop (tiles : Tiles mark start stop tokens) : mark stop := by
  induction tokens generalizing start with
  | nil =>
    obtain ⟨here, rfl⟩ := tiles
    exact here
  | cons token rest ih => exact ih tiles.2.2.2

/-- The stretch does not end before it begins. -/
theorem le (tiles : Tiles mark start stop tokens) : start ≤ stop := by
  induction tokens generalizing start with
  | nil => exact Nat.le_of_eq tiles.2
  | cons token rest ih =>
    obtain ⟨_, rfl, _, tiles⟩ := tiles
    have := ih tiles
    unfold Token.stop at this
    omega

/-- A tiling has every property that comes with its marks. -/
theorem mono {weaker : Nat → Prop} (tiles : Tiles mark start stop tokens)
    (implies : ∀ offset, mark offset → weaker offset) : Tiles weaker start stop tokens := by
  induction tokens generalizing start with
  | nil => exact ⟨implies start tiles.1, tiles.2⟩
  | cons token rest ih =>
    obtain ⟨here, first, positive, tiles⟩ := tiles
    exact ⟨implies start here, first, positive, ih tiles⟩

/-- Two tilings that meet. -/
theorem append (left : Tiles mark start middle tokens)
    (right : Tiles mark middle stop others) : Tiles mark start stop (tokens ++ others) := by
  induction tokens generalizing start with
  | nil => exact left.2 ▸ right
  | cons token rest ih =>
    obtain ⟨here, first, positive, left⟩ := left
    exact ⟨here, first, positive, ih left⟩

/-- A tiling is cut between any two of its tokens. -/
theorem of_append (tiles : Tiles mark start stop (tokens ++ others)) :
    ∃ middle, Tiles mark start middle tokens ∧ Tiles mark middle stop others := by
  induction tokens generalizing start with
  | nil => exact ⟨start, nil tiles.mark_start, tiles⟩
  | cons token rest ih =>
    obtain ⟨here, first, positive, tiles⟩ := tiles
    obtain ⟨middle, left, right⟩ := ih tiles
    exact ⟨middle, ⟨here, first, positive, left⟩, right⟩

/-- Each token of a tiling lies between two marked offsets, and is not empty. -/
theorem of_mem (tiles : Tiles mark start stop tokens) {token : Token}
    (member : token ∈ tokens) : mark token.start ∧ mark token.stop ∧ 0 < token.length := by
  obtain ⟨front, back, rfl⟩ := List.append_of_mem member
  obtain ⟨middle, -, here, rfl, positive, right⟩ := tiles.of_append
  exact ⟨here, right.mark_start, positive⟩

/-- Each token of a tiling lies within the stretch. -/
theorem within (tiles : Tiles mark start stop tokens) {token : Token} (member : token ∈ tokens) :
    start ≤ token.start ∧ token.stop ≤ stop := by
  obtain ⟨front, back, rfl⟩ := List.append_of_mem member
  obtain ⟨middle, left, -, rfl, -, right⟩ := tiles.of_append
  exact ⟨left.le, right.le⟩

/-- The token between two marked offsets, or none if they are the same. -/
theorem spanning (kind : Kind) (first : mark start) (last : mark stop) (le : start ≤ stop) :
    Tiles mark start stop (Token.spanning kind start stop) := by
  unfold Token.spanning
  split
  · rename_i less
    refine ⟨first, rfl, Nat.sub_pos_of_lt less, ?_⟩
    have stops : start + (stop - start) = stop := by omega
    exact ⟨by rw [Token.stop, stops]; exact last, stops⟩
  · -- nothing lies between the offsets, since the second is not before the first
    rename_i whole
    have same : start = stop := by omega
    exact ⟨first, same⟩

/-- Two neighbours of one kind cover together what they covered apart. -/
theorem join {left right joined : Token} (same : left.join? right = some joined)
    (tiles : Tiles mark start stop (left :: right :: tokens)) :
    Tiles mark start stop (joined :: tokens) := by
  unfold Token.join? at same
  split at same
  · obtain rfl := Option.some.inj same
    obtain ⟨here, first, positive, -, meet, _, tiles⟩ := tiles
    refine ⟨here, first, Nat.add_pos_left positive _, ?_⟩
    rw [Token.stop, meet, Token.stop, Nat.add_assoc] at tiles
    exact tiles
  · exact absurd same (by simp)

end Tiles

/-! ## Merging -/

namespace Merger

variable {mark : Nat → Prop} {start stop : Nat}

/-- Reading a run joins tokens that meet, and leaves all others in place. -/
theorem readRun_tiles {held : Option Token} {unread : List Token}
    (tiles : Tiles mark start stop (held.toList ++ unread)) :
    Tiles mark start stop ((readRun held unread).1.toList ++
      ((readRun held unread).2.1.toList ++ (readRun held unread).2.2)) := by
  fun_induction readRun held unread with
  | case1 held => exact tiles
  | case2 token rest ih => exact ih tiles
  | case3 token rest current joined same ih => exact ih (tiles.join same)
  | case4 token rest current apart => exact tiles

/-- The tokens outstanding still tile their stretch, the one handed out in front. -/
theorem poll_tiles {merger : Merger} (tiles : Tiles mark start stop merger.outstanding) :
    Tiles mark start stop (merger.poll.1.toList ++ merger.poll.2.outstanding) := by
  unfold poll
  split
  · exact readRun_tiles tiles
  · split
    · exact tiles
    · rename_i token rest outstanding
      rw [outstanding] at tiles
      exact tiles

/-- What a merger supplies comes behind what is outstanding. -/
theorem outstanding_supply (merger : Merger) (tokens : List Token) :
    (merger.supply tokens).outstanding = merger.outstanding ++ tokens := by
  simp only [outstanding, supply, List.append_assoc]

/-- The token given up goes in front of the others. -/
theorem outstanding_flush (merger : Merger) :
    merger.flush.1.toList ++ merger.flush.2.outstanding = merger.outstanding := rfl

/-- Nothing is outstanding if nothing is held and nothing waits. -/
theorem outstanding_eq_nil {merger : Merger} :
    merger.outstanding = [] ↔ merger.held = none ∧ merger.unread = [] := by
  rw [outstanding, List.append_eq_nil_iff, Option.toList_eq_nil_iff]

/-- Nothing waits to be read, and a token is held only to be merged: the merger has
nothing to hand out before more is supplied. -/
structure Exhausted (merger : Merger) : Prop where
  unread : merger.unread = []
  held : merger.merging = false → merger.held = none

/-- An exhausted merger gives up the last token outstanding. -/
theorem Exhausted.outstanding_flush_snd {merger : Merger} (exhausted : merger.Exhausted) :
    merger.flush.2.outstanding = [] := exhausted.unread

/-- An exhausted merger hands out nothing and stays as it is. -/
theorem Exhausted.poll_eq {merger : Merger} (exhausted : merger.Exhausted) :
    merger.poll = (none, merger) := by
  obtain ⟨merging, held, unread⟩ := merger
  obtain ⟨rfl, idle⟩ := exhausted
  cases merging with
  | true => rfl
  | false =>
    obtain rfl := idle rfl
    rfl

/-- A run that completes no token has been read to its end. -/
theorem readRun_unread {held : Option Token} {unread : List Token}
    (none : (readRun held unread).1 = none) : (readRun held unread).2.2 = [] := by
  fun_induction readRun held unread with
  | case1 held => rfl
  | case2 token rest ih => exact ih none
  | case3 token rest current joined same ih => exact ih none
  | case4 token rest current apart => exact absurd none (by simp)

/-- A merger that hands out nothing has been read to its end. -/
theorem exhausted_of_poll {merger after : Merger} (polled : merger.poll = (none, after)) :
    after.Exhausted := by
  unfold poll at polled
  split at polled
  · rename_i merging
    obtain ⟨none, rfl⟩ := Prod.mk.inj polled
    exact ⟨readRun_unread none, fun other => absurd (merging.symm.trans other) (by decide)⟩
  · split at polled
    · rename_i outstanding
      obtain ⟨-, rfl⟩ := Prod.mk.inj polled
      obtain ⟨held, unread⟩ := outstanding_eq_nil.1 outstanding
      exact ⟨unread, fun _ => held⟩
    · exact absurd polled (by simp)

end Merger

end GrammarLexer
