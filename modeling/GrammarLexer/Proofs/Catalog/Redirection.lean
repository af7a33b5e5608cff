import GrammarLexer.Proofs.Catalog.Naming

/-!
# What a registration changes

One more entry stands under names of its own in the tables and comes last among the candidates for
files and media types. An answer that is looked up in either way is the same one as before, or is
the new entry (`Redirects`). Lookups that are tried one after the other keep this, since one that
comes earlier cannot find any other entry (`Redirects.or`).
-/

namespace GrammarLexer.Catalog

/-! ## Answers -/

/-- True if an answer is the same one as before, or is an entry. -/
def Redirects (entry : Nat) (before after : Option Nat) : Prop :=
  after = before ∨ after = some entry

section Redirects

variable {entry : Nat} {before after : Option Nat}

theorem Redirects.refl (answer : Option Nat) : Redirects entry answer answer := .inl rfl

/-- Nothing else takes the place of nothing. -/
theorem Redirects.of_isSome (redirects : Redirects entry before after) (found : before.isSome) :
    after.isSome := by
  rcases redirects with rfl | rfl
  · exact found
  · rfl

theorem redirects_ite {condition : Prop} [Decidable condition] :
    Redirects entry before (if condition then some entry else before) := by
  by_cases new : condition
  · exact .inr (if_pos new)
  · exact .inl (if_neg new)

theorem Redirects.or {before' after' : Option Nat} (redirects : Redirects entry before after)
    (redirects' : Redirects entry before' after') :
    Redirects entry (before.or before') (after.or after') := by
  rcases redirects with rfl | rfl
  · cases after with
    | some held => exact .refl _
    | none => exact redirects'
  · exact .inr rfl

theorem Redirects.bind {α : Type} {before after : α → Option Nat}
    (redirects : ∀ key, Redirects entry (before key) (after key)) (key : Option α) :
    Redirects entry (key.bind before) (key.bind after) := by
  cases key with
  | none => exact .refl _
  | some key => exact redirects key

end Redirects

/-! ## Entries -/

variable (catalog : Catalog) (lexer : Lexer) {place : Nat}

theorem size_register : (catalog.register lexer).size = catalog.size + 1 := by
  rw [size, entries_register, List.length_append, List.length_singleton, size]

/-- The entries so far stay where they are. -/
theorem getElem?_entries_register (old : place < catalog.size) :
    (catalog.register lexer).entries[place]? = catalog.entries[place]? := by
  rw [entries_register, List.getElem?_append_left old]

/-- The entry of the lexer comes after them. -/
theorem getElem?_entries_register_size :
    (catalog.register lexer).entries[catalog.size]? = some (Entry.ofLexer lexer) := by
  rw [entries_register, size, List.getElem?_concat_length]

/-- The entries with a property are the same ones, and the new one if it has it. -/
theorem entriesWith_register (test : Entry → Bool) :
    (catalog.register lexer).entriesWith test = catalog.entriesWith test ++
      if test (Entry.ofLexer lexer) then [catalog.size] else [] := by
  have old : (List.range catalog.size).filter
      (fun entry => (catalog.register lexer).entries[entry]?.any test) =
        catalog.entriesWith test := by
    refine List.filter_congr fun entry within => ?_
    rw [getElem?_entries_register catalog lexer (List.mem_range.1 within)]
  rw [entriesWith, size_register, List.range_succ, List.filter_append, old, List.filter_singleton,
    getElem?_entries_register_size, Option.any_some, Bool.cond_eq_ite]

/-! ## Candidates -/

theorem priorityOf_register (old : place < catalog.size) :
    (catalog.register lexer).priorityOf place = catalog.priorityOf place := by
  rw [priorityOf, getElem?_entries_register catalog lexer old, priorityOf]

/-- The better of two candidates is one of them. -/
theorem better_eq_or (held entry : Nat) :
    catalog.better (some held) entry = some held ∨
      catalog.better (some held) entry = some entry := by
  unfold better
  dsimp only
  split
  · exact .inl rfl
  · exact .inr rfl

theorem better_lt {held : Option Nat} (heldOld : ∀ old ∈ held, old < catalog.size) {entry : Nat}
    (here : entry < catalog.size) : ∀ best ∈ catalog.better held entry, best < catalog.size := by
  cases held with
  | none =>
    rintro _ ⟨⟩
    exact here
  | some first =>
    rcases catalog.better_eq_or first entry with kept | taken
    · rw [kept]
      exact heldOld
    · rw [taken]
      rintro _ ⟨⟩
      exact here

/-- The best of candidates that were there before is the same one. -/
theorem foldl_better_register {candidates : List Nat}
    (old : ∀ entry ∈ candidates, entry < catalog.size)
    {held : Option Nat} (heldOld : ∀ entry ∈ held, entry < catalog.size) :
    candidates.foldl (catalog.register lexer).better held =
      candidates.foldl catalog.better held := by
  -- the best so far was there before too, so its priority is the same
  induction candidates generalizing held with
  | nil => rfl
  | cons entry rest ih =>
    obtain ⟨here, old⟩ := List.forall_mem_cons.1 old
    have same : (catalog.register lexer).better held entry = catalog.better held entry := by
      cases held with
      | none => rfl
      | some first =>
        rw [better, priorityOf_register catalog lexer (heldOld first rfl),
          priorityOf_register catalog lexer here, better]
    rw [List.foldl_cons, List.foldl_cons, same]
    exact ih old (catalog.better_lt heldOld here)

/-- The new entry is held against the best one before it, so the answer is one of the two. -/
theorem redirects_best (test : Entry → Bool) :
    Redirects catalog.size (catalog.best (catalog.entriesWith test))
      ((catalog.register lexer).best ((catalog.register lexer).entriesWith test)) := by
  have same : (catalog.register lexer).best (catalog.entriesWith test) =
      catalog.best (catalog.entriesWith test) :=
    foldl_better_register catalog lexer
      (fun _ among => List.mem_range.1 (List.mem_of_mem_filter among)) (fun _ none => nomatch none)
  rw [entriesWith_register]
  split
  · have last : (catalog.register lexer).best (catalog.entriesWith test ++ [catalog.size]) =
        (catalog.register lexer).better (catalog.best (catalog.entriesWith test)) catalog.size := by
      rw [← same, best, List.foldl_append]
      rfl
    rw [last]
    cases catalog.best (catalog.entriesWith test) with
    | none => exact .inr rfl
    | some held => exact better_eq_or _ _ _
  · rw [List.append_nil, same]
    exact .refl _

theorem redirects_byGlob (name : String) :
    Redirects catalog.size (catalog.byGlob name) ((catalog.register lexer).byGlob name) :=
  redirects_best catalog lexer _

theorem redirects_byMimeType (mimeType : String) :
    Redirects catalog.size (catalog.byMimeType mimeType)
      ((catalog.register lexer).byMimeType mimeType) :=
  redirects_best catalog lexer _

/-- The name of the file comes first, and then its name without the suffix of a copy. -/
theorem byFileName_eq_or (path : String) : catalog.byFileName path =
    (catalog.byGlob (FileName.base path)).or
      ((FileName.stem? (FileName.base path)).bind catalog.byGlob) := by
  unfold byFileName
  dsimp only
  cases catalog.byGlob (FileName.base path) <;> rfl

theorem redirects_byFileName (path : String) :
    Redirects catalog.size (catalog.byFileName path)
      ((catalog.register lexer).byFileName path) := by
  rw [byFileName_eq_or, byFileName_eq_or]
  exact (redirects_byGlob catalog lexer _).or
    (Redirects.bind (redirects_byGlob catalog lexer) _)

/-! ## Names -/

theorem redirects_names (text : String) : Redirects catalog.size (catalog.names.lookup text)
    ((catalog.register lexer).names.lookup text) := by
  rw [lookup_names_register]
  exact redirects_ite

theorem redirects_aliases (text : String) : Redirects catalog.size (catalog.aliases.lookup text)
    ((catalog.register lexer).aliases.lookup text) := by
  rw [lookup_aliases_register]
  exact redirects_ite

theorem redirects_byName (name : String) :
    Redirects catalog.size (catalog.byName name) ((catalog.register lexer).byName name) := by
  rw [byName_eq, byName_eq]
  exact (redirects_names catalog lexer _).or ((redirects_aliases catalog lexer _).or
    ((redirects_names catalog lexer _).or (redirects_aliases catalog lexer _)))

theorem find_of_byName {catalog : Catalog} {name : String} (found : (catalog.byName name).isSome) :
    catalog.find name = catalog.byName name := by
  obtain ⟨entry, found⟩ := Option.isSome_iff_exists.1 found
  rw [find, found]

/-- What the tables hold are places of entries. -/
def Indexed : Prop := ∀ pair ∈ catalog.names ++ catalog.aliases, pair.2 < catalog.size

variable {catalog}

theorem mem_index {table : List (String × Nat)} {name : String} {entry : Nat} {pair : String × Nat}
    (among : pair ∈ index table name entry) : pair ∈ table ∨ pair.2 = entry := by
  rw [index, List.mem_cons, List.mem_cons] at among
  rcases among with rfl | rfl | old
  · exact .inr rfl
  · exact .inr rfl
  · exact .inl old

theorem mem_foldl_index {table : List (String × Nat)} {names : List String} {entry : Nat}
    {pair : String × Nat}
    (among : pair ∈ names.foldl (fun table name => index table name entry) table) :
    pair ∈ table ∨ pair.2 = entry := by
  induction names generalizing table with
  | nil => exact .inl among
  | cons name rest ih => exact (ih among).elim mem_index .inr

theorem Indexed.register (indexed : catalog.Indexed) (lexer : Lexer) :
    (catalog.register lexer).Indexed := by
  intro pair among
  have old : pair ∈ catalog.names ++ catalog.aliases ∨ pair.2 = catalog.size := by
    rcases List.mem_append.1 among with named | known
    · exact (mem_index named).imp_left (List.mem_append_left _)
    · exact (mem_foldl_index known).imp_left (List.mem_append_right _)
  rw [size_register]
  rcases old with old | new
  · exact Nat.lt_succ_of_lt (indexed pair old)
  · exact new ▸ Nat.lt_succ_self _

theorem indexed_ofLexers (lexers : List Lexer) : (ofLexers lexers).Indexed := by
  induction lexers using List.reverseRecOn with
  | nil => exact fun pair among => nomatch among
  | append_singleton before lexer ih =>
    rw [ofLexers_append_singleton]
    exact ih.register lexer

/-! ## Registrations -/

/-- **Redirection.** After any registrations, one more changes the answer for a file or a media type
to its own lexer if at all, and so it does the answer for a name that is found in the tables. The
entries so far stay where they are, the new one comes after them, and what the tables hold are
places of entries. -/
theorem register_redirects (lexers : List Lexer) (lexer : Lexer) :
    (∀ path, Redirects (ofLexers lexers).size ((ofLexers lexers).byFileName path)
        (((ofLexers lexers).register lexer).byFileName path)) ∧
      (∀ mimeType, Redirects (ofLexers lexers).size ((ofLexers lexers).byMimeType mimeType)
        (((ofLexers lexers).register lexer).byMimeType mimeType)) ∧
      (∀ name, ((ofLexers lexers).byName name).isSome →
        Redirects (ofLexers lexers).size ((ofLexers lexers).find name)
          (((ofLexers lexers).register lexer).find name)) ∧
      (∀ place < (ofLexers lexers).size,
        ((ofLexers lexers).register lexer).entries[place]? = (ofLexers lexers).entries[place]?) ∧
      ((ofLexers lexers).register lexer).entries[(ofLexers lexers).size]? =
        some (Entry.ofLexer lexer) ∧
      (ofLexers lexers).Indexed ∧ ((ofLexers lexers).register lexer).Indexed := by
  refine ⟨redirects_byFileName _ lexer, redirects_byMimeType _ lexer, ?_,
    fun _ old => getElem?_entries_register _ lexer old, getElem?_entries_register_size _ lexer,
    indexed_ofLexers lexers, (indexed_ofLexers lexers).register lexer⟩
  intro name found
  have redirects := redirects_byName (ofLexers lexers) lexer name
  rw [find_of_byName found, find_of_byName (redirects.of_isSome found)]
  exact redirects

/-- A lexer without rules that has a priority. -/
def ranked (name : String) (globs : List String) (bits : UInt32) : Lexer :=
  bare ⟨name, [], globs, [], ⟨bits⟩, ⟨false, false, false⟩⟩

/-- A name comes to stand for a lexer that has it in small letters, whose priority is no number. -/
theorem register_redirects_capital : ((ofLexers [ranked "C" [] 0]).byName "c").isSome = true ∧
    (ofLexers [ranked "C" [] 0]).find "c" = some 0 ∧
    ((ofLexers [ranked "C" [] 0]).register (ranked "c" [] 0x7FC00000)).find "c" = some 1 ∧
    Redirects 1 (some 0)
      (((ofLexers [ranked "C" [] 0]).register (ranked "c" [] 0x7FC00000)).find "c") := by
  have before : ((ofLexers [ranked "C" [] 0]).byName "c").isSome = true := by decide +kernel
  have found : (ofLexers [ranked "C" [] 0]).find "c" = some 0 := by decide +kernel
  have redirects :=
    (register_redirects [ranked "C" [] 0] (ranked "c" [] 0x7FC00000)).2.2.1 "c" before
  rw [found] at redirects
  exact ⟨before, found, by decide +kernel, redirects⟩

/-- What is found as a file only may change to an entry from before: one whose priority is no number
takes the place of the answer for the extension, and the file name wins over it. -/
example : (ofLexers [ranked "A" ["*.x"] 0x40000000, ranked "B" ["x"] 0]).find "x" = some 0 ∧
    ((ofLexers [ranked "A" ["*.x"] 0x40000000, ranked "B" ["x"] 0]).register
      (ranked "C" ["*.x"] 0x7FC00000)).find "x" = some 1 := by decide +kernel

end GrammarLexer.Catalog
