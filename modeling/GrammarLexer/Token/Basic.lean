import GrammarLexer.Token.Kind

/-!
# Tokens

A token is a typed span of a text. Its start and length count bytes;
`charRange` gives the same span in characters.
-/

namespace GrammarLexer

/-- A span of a text with its highlighting category. -/
structure Token where
  kind : Kind
  start : Nat
  length : Nat
deriving DecidableEq, Repr

namespace Token

/-- The offset just after the token. In a text this is no greater than the length of the text; for
other tokens the sum may be too great for a machine word. -/
def stop (token : Token) : Nat := token.start + token.length

/-- The token between two offsets, none if that span is empty. -/
def spanning (kind : Kind) (start stop : Nat) : List Token :=
  if start < stop then [⟨kind, start, stop - start⟩] else []

/-- The part of a text that the token covers; empty if the span is not one of
whole characters of the text. -/
def text (token : Token) (source : String) : String :=
  match Text.slice? token.start token.stop source.toList with
  | some covered => String.ofList covered
  | none => ""

/-- The span of the token counted in characters: how many start before each end. -/
def charRange (token : Token) (source : String) : Nat × Nat :=
  (Text.charsBefore token.start source.toList, Text.charsBefore token.stop source.toList)

end Token

end GrammarLexer
