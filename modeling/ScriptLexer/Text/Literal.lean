import ScriptLexer.Text.Property.DefaultIgnorable
import ScriptLexer.Text.Property.GraphemeExtend
import ScriptLexer.Text.Property.Shapeless

/-!
# Text literals

A text written as a literal: between double quotes, with an escape for every character that could
not be told from its neighbours on a screen.
-/
namespace ScriptLexer.Text

/-- A mark without a cell of its own. -/
def isMark (c : Char) : Bool :=
  Property.graphemeExtend.holds c && !Property.halfwidthSoundMark.holds c

/-- Characters that are shown as themselves: the space, and whatever has a shape and a cell of its
own that no renderer may leave out. -/
def isShown (c : Char) : Bool :=
  c == ' ' || !(Property.shapeless.holds c || isMark c || Property.defaultIgnorable.holds c)

def literalChar (c : Char) : List Char :=
  match c with
  | '"' => ['\\', '"']
  | '\\' => ['\\', '\\']
  | '\n' => ['\\', 'n']
  | '\r' => ['\\', 'r']
  | '\t' => ['\\', 't']
  | '\x00' => ['\\', '0']
  | c => if isShown c then [c] else ['\\', 'u', '\x7b'] ++ Nat.toDigits 16 c.toNat ++ ['\x7d']

/-- The literal of a text. -/
def literal (text : String) : String :=
  String.ofList ('"' :: text.toList.flatMap literalChar ++ ['"'])

end ScriptLexer.Text
