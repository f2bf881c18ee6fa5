/-!
# Character properties

A property of characters is a set of code points, written as blocks in ascending order. The tables
of this folder are those of version 17 of the Unicode character database; a surrogate is no
character, so a block may run over the surrogates.
-/
namespace ScriptLexer.Text

/-- First and last code point of each block. -/
abbrev Property := List (Nat × Nat)

/-- The character lies in one of the blocks. -/
def Property.holds (property : Property) (c : Char) : Bool :=
  property.any fun block => decide (block.1 ≤ c.toNat) && decide (c.toNat ≤ block.2)

end ScriptLexer.Text
