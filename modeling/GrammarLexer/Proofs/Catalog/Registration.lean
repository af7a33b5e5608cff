import GrammarLexer.Catalog.Basic

/-!
# What a catalog holds after some registrations

`Catalog.ofLexers` registers one lexer after the other. The entry at a place then is that of the
lexer registered there (`getElem?_entries_ofLexers`), and no later registration changes it. The
tables of names and aliases have a key for each spelling of them, as it is and in lower case, and
a registration changes what is found under its own keys only (`lookup_names_register`,
`lookup_aliases_register`).
-/

namespace GrammarLexer

/-- True if one of the file names of a lexer is a glob that matches a name. -/
def Lexer.Matches (name : String) (lexer : Lexer) : Prop :=
  ∃ text ∈ lexer.config.filenames, ∃ glob, Glob.parse? text = some glob ∧ glob.isMatch name = true

/-- True if a lexer lists a media type. -/
def Lexer.Lists (mimeType : String) (lexer : Lexer) : Prop :=
  mimeType ∈ lexer.config.mimeTypes

/-- True if a text spells a name, as it is or in lower case. -/
def Spells (text name : String) : Prop := text = name ∨ text = Unicode.lowercase name

instance (text name : String) : Decidable (Spells text name) := inferInstanceAs (Decidable (_ ∨ _))

/-- True if a text spells the name of a lexer. -/
def Lexer.GoesBy (text : String) (lexer : Lexer) : Prop := Spells text lexer.config.name

/-- True if a text spells one of the aliases of a lexer. -/
def Lexer.GoesByAlias (text : String) (lexer : Lexer) : Prop :=
  ∃ name ∈ lexer.config.aliases, Spells text name

instance (text : String) (lexer : Lexer) : Decidable (lexer.GoesBy text) :=
  inferInstanceAs (Decidable (Spells _ _))

instance (text : String) (lexer : Lexer) : Decidable (lexer.GoesByAlias text) :=
  inferInstanceAs (Decidable (∃ name ∈ _, Spells _ name))

/-- The entry of a lexer, with those of its file names that are globs. -/
def Entry.ofLexer (lexer : Lexer) : Entry where
  lexer := lexer
  globs := lexer.config.filenames.filterMap Glob.parse?

namespace Entry

/-- The globs of an entry match what the file names of its lexer do. -/
theorem any_isMatch_ofLexer {lexer : Lexer} {name : String} :
    (ofLexer lexer).globs.any (·.isMatch name) = true ↔ lexer.Matches name := by
  simp only [ofLexer, List.any_eq_true, List.mem_filterMap, Lexer.Matches]
  constructor
  · rintro ⟨glob, ⟨text, named, parsed⟩, matched⟩
    exact ⟨text, named, glob, parsed, matched⟩
  · rintro ⟨text, named, glob, parsed, matched⟩
    exact ⟨glob, ⟨text, named, parsed⟩, matched⟩

/-- The media types of an entry are those that its lexer lists. -/
theorem contains_mimeTypes_ofLexer {lexer : Lexer} {mimeType : String} :
    (ofLexer lexer).lexer.config.mimeTypes.contains mimeType = true ↔ lexer.Lists mimeType :=
  List.contains_iff_mem

end Entry

namespace Catalog

/-- The catalog after some registrations, the first lexer first. -/
def ofLexers (lexers : List Lexer) : Catalog := lexers.foldl register empty

/-- A registration adds an entry after all others. -/
@[simp] theorem entries_register (catalog : Catalog) (lexer : Lexer) :
    (catalog.register lexer).entries = catalog.entries ++ [Entry.ofLexer lexer] := rfl

/-- Some registrations add one entry each. -/
theorem entries_foldl_register (catalog : Catalog) (lexers : List Lexer) :
    (lexers.foldl register catalog).entries = catalog.entries ++ lexers.map Entry.ofLexer := by
  induction lexers generalizing catalog with
  | nil => simp
  | cons lexer rest ih => simp [ih]

/-- The entry at each place is that of the lexer registered there. -/
theorem getElem?_entries_ofLexers (lexers : List Lexer) (place : Nat) :
    (ofLexers lexers).entries[place]? = lexers[place]?.map Entry.ofLexer := by
  have entries : (ofLexers lexers).entries = lexers.map Entry.ofLexer :=
    entries_foldl_register empty lexers
  rw [entries, List.getElem?_map]

/-- The lexer registered last comes last. -/
theorem ofLexers_append_singleton (lexers : List Lexer) (lexer : Lexer) :
    ofLexers (lexers ++ [lexer]) = (ofLexers lexers).register lexer := by
  simp [ofLexers]

theorem size_ofLexers (lexers : List Lexer) : (ofLexers lexers).size = lexers.length := by
  have entries : (ofLexers lexers).entries = lexers.map Entry.ofLexer :=
    entries_foldl_register empty lexers
  rw [size, entries, List.length_map]

/-! ## Tables -/

section Tables

variable {table : List (String × Nat)} {text : String} {entry : Nat}

theorem lookup_index {name : String} : (index table name entry).lookup text =
    if Spells text name then some entry else table.lookup text := by
  rw [index, List.lookup_cons, List.lookup_cons]
  cases lower : text == Unicode.lowercase name with
  | true => rw [if_pos (.inr (beq_iff_eq.1 lower))]
  | false =>
    rw [beq_eq_false_iff_ne] at lower
    cases same : text == name with
    | true => rw [if_pos (.inl (beq_iff_eq.1 same))]
    | false =>
      have unlike : ¬ Spells text name := not_or.2 ⟨beq_eq_false_iff_ne.1 same, lower⟩
      rw [if_neg unlike]

theorem lookup_foldl_index {names : List String} :
    (names.foldl (fun table name => index table name entry) table).lookup text =
      if ∃ name ∈ names, Spells text name then some entry else table.lookup text := by
  induction names generalizing table with
  | nil => simp
  | cons name rest ih =>
    rw [List.foldl_cons, ih, lookup_index]
    by_cases later : ∃ name ∈ rest, Spells text name
    · rw [if_pos later, if_pos (later.imp fun _ => And.imp_left (List.mem_cons_of_mem _))]
    · by_cases here : Spells text name <;> simp [later, here]

/-- What is found under a name after a registration. -/
theorem lookup_names_register (catalog : Catalog) (lexer : Lexer) :
    (catalog.register lexer).names.lookup text =
      if lexer.GoesBy text then some catalog.size else catalog.names.lookup text :=
  lookup_index

/-- What is found under an alias after a registration. -/
theorem lookup_aliases_register (catalog : Catalog) (lexer : Lexer) :
    (catalog.register lexer).aliases.lookup text =
      if lexer.GoesByAlias text then some catalog.size else catalog.aliases.lookup text :=
  lookup_foldl_index

/-- The tables are asked in turn, for the name and for its lower case. -/
theorem byName_eq (catalog : Catalog) (name : String) : catalog.byName name =
    (catalog.names.lookup name).or ((catalog.aliases.lookup name).or
      ((catalog.names.lookup (Unicode.lowercase name)).or
        (catalog.aliases.lookup (Unicode.lowercase name)))) := by
  unfold byName
  dsimp only
  cases catalog.names.lookup name <;> cases catalog.aliases.lookup name <;>
    cases catalog.names.lookup (Unicode.lowercase name) <;> rfl

end Tables

end Catalog

end GrammarLexer
