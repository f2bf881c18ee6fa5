import ScriptLexer.Lexing
import ScriptLexer.Proofs.Text.Cut

/-!
# The grammar of lexemes

What a lexeme looks like, said without reading one. A finding has a form, which is a language, and a
condition on the character right behind the lexeme; the end of the text may stand behind every
lexeme. Each form is the language of a kind of token or of one kind of spoiled lexeme. Nothing here
mentions how far a family reads or in which order the families are asked.
-/
namespace ScriptLexer

namespace Grammar

/-- `[0-9]*` -/
def IsDigits (text : List Char) : Prop := ∀ c ∈ text, c.isDigit = true

/-- `-?` -/
def IsMinus (text : List Char) : Prop := text = [] ∨ text = ['-']

/-- `[+-]?` -/
def IsExponentSign (text : List Char) : Prop := text = [] ∨ text = ['+'] ∨ text = ['-']

/-- `[A-Za-z0-9_]*` -/
def IsWordChars (text : List Char) : Prop := ∀ c ∈ text, isWordChar c = true

/-- One or more line breaks. -/
def IsNewlines (text : List Char) : Prop := text ≠ [] ∧ ∀ c ∈ text, c = '\n'

/-! ## Comments -/

/-- How each unit of a comment body changes the depth: delimiters are read from left to right
without overlap, and any other character is a unit of its own. -/
def depthSteps : List Char → List Int
  | '<' :: '<' :: '<' :: rest => 1 :: depthSteps rest
  | '>' :: '>' :: '>' :: rest => -1 :: depthSteps rest
  | _ :: rest => 0 :: depthSteps rest
  | [] => []

@[simp] theorem depthSteps_nil : depthSteps [] = [] := rfl

@[simp] theorem depthSteps_opening (rest : List Char) :
    depthSteps ('<' :: '<' :: '<' :: rest) = 1 :: depthSteps rest := rfl

@[simp] theorem depthSteps_closing (rest : List Char) :
    depthSteps ('>' :: '>' :: '>' :: rest) = -1 :: depthSteps rest := rfl

theorem depthSteps_plain {c : Char} {rest : List Char}
    (noOpening : ∀ more, c = '<' → rest = '<' :: '<' :: more → False)
    (noClosing : ∀ more, c = '>' → rest = '>' :: '>' :: more → False) :
    depthSteps (c :: rest) = 0 :: depthSteps rest :=
  depthSteps.eq_3 c rest noOpening noClosing

/-- The depth behind the steps. -/
def depthAfter (depth : Int) (steps : List Int) : Int := steps.foldl (· + ·) depth

@[simp] theorem depthAfter_nil (depth : Int) : depthAfter depth [] = depth := rfl

@[simp] theorem depthAfter_cons (depth step : Int) (steps : List Int) :
    depthAfter depth (step :: steps) = depthAfter (depth + step) steps := rfl

/-- The depth first drops below zero with the last step. -/
def DropsAtEnd (depth : Int) (steps : List Int) : Prop :=
  depthAfter depth steps < 0 ∧ ∀ front, front <+: steps → front ≠ steps → 0 ≤ depthAfter depth front

/-- The depth never drops below zero. -/
def StaysUp (depth : Int) (steps : List Int) : Prop :=
  ∀ front, front <+: steps → 0 ≤ depthAfter depth front

/-- A closing delimiter stands on the first line. -/
def ClosesOnFirstLine (body : List Char) : Prop := closing <:+: body.takeWhile (· != '\n')

def IsLineComment (text : List Char) : Prop :=
  ∃ body, text = opening ++ body ∧ '\n' ∉ body ∧ ¬ closing <:+: body

def IsClosedComment (text : List Char) : Prop :=
  ∃ body, text = opening ++ body ∧ ClosesOnFirstLine body ∧ DropsAtEnd 0 (depthSteps body)

def IsOpenComment (text : List Char) : Prop :=
  ∃ body, text = opening ++ body ∧ ClosesOnFirstLine body ∧ StaysUp 0 (depthSteps body)

/-! ## Strings -/

/-- Characters between quotes: a backslash with any one character, or a character other than a line
break, a backslash and the quote. -/
inductive StringBody (quote : Char) : List Char → Prop
  | nil : StringBody quote []
  | escape (c : Char) {body : List Char} :
      StringBody quote body → StringBody quote ('\\' :: c :: body)
  | plain {c : Char} {body : List Char} (noBreak : c ≠ '\n') (noEscape : c ≠ '\\')
      (noQuote : c ≠ quote) : StringBody quote body → StringBody quote (c :: body)

def IsString (text : List Char) : Prop :=
  ∃ quote body, isQuote quote = true ∧ StringBody quote body ∧ text = quote :: (body ++ [quote])

/-- A string that lacks its closing quote; its last character may be a backslash that escapes
nothing. -/
def IsOpenString (quote : Char) (text : List Char) : Prop :=
  isQuote quote = true ∧
    ∃ body, StringBody quote body ∧ (text = quote :: body ∨ text = quote :: (body ++ ['\\']))

/-- A string without its closing quote, that ends in a backslash with nothing to escape. -/
def IsDanglingString (text : List Char) : Prop :=
  ∃ quote body, isQuote quote = true ∧ StringBody quote body ∧ text = quote :: (body ++ ['\\'])

/-! ## Numbers -/

/-- `[0-9]+(\.[0-9]*)?|\.[0-9]*` -/
inductive IsMantissa : List Char → Prop
  | whole {digits : List Char} : IsDigits digits → digits ≠ [] → IsMantissa digits
  | pointed {whole fraction : List Char} :
      IsDigits whole → IsDigits fraction → IsMantissa (whole ++ '.' :: fraction)

/-- `-?[0-9]+` -/
def IsInteger (text : List Char) : Prop :=
  ∃ sign digits, IsMinus sign ∧ IsDigits digits ∧ digits ≠ [] ∧ text = sign ++ digits

/-- The lone point, `-?[0-9]*\.[0-9]+`, or a mantissa with an exponent. -/
inductive IsDouble : List Char → Prop
  | point : IsDouble ['.']
  | fraction {sign whole digits : List Char} : IsMinus sign → IsDigits whole → IsDigits digits →
      digits ≠ [] → IsDouble (sign ++ (whole ++ '.' :: digits))
  | exponent {sign mantissa exponentSign digits : List Char} {mark : Char} : IsMinus sign →
      IsMantissa mantissa → isExponentMark mark = true → IsExponentSign exponentSign →
      IsDigits digits → digits ≠ [] →
      IsDouble (sign ++ (mantissa ++ mark :: (exponentSign ++ digits)))

/-- A number spoiled by its flaw, with all that it takes along. -/
inductive IsMalformedNumber : NumberFlaw → List Char → Prop
  | secondPoint {sign whole fraction more : List Char} : IsMinus sign → IsDigits whole →
      IsDigits fraction → (∀ c ∈ more, isNumberChar c = true) →
      IsMalformedNumber .secondPoint (sign ++ (whole ++ '.' :: (fraction ++ '.' :: more)))
  | missingExponent {sign mantissa exponentSign word : List Char} {mark : Char} : IsMinus sign →
      IsMantissa mantissa → isExponentMark mark = true → IsExponentSign exponentSign →
      IsWordChars word → Stops Char.isDigit word.head? →
      IsMalformedNumber .missingExponent (sign ++ (mantissa ++ mark :: (exponentSign ++ word)))
  | trailingPoint {sign whole : List Char} : IsMinus sign → IsDigits whole → sign ++ whole ≠ [] →
      IsMalformedNumber .trailingPoint (sign ++ (whole ++ ['.']))

/-- A sound number with a word right behind it. An exponent mark would go on with the number
instead, unless the number has its exponent already. -/
def IsIllegalIdentifier (text : List Char) : Prop :=
  ∃ number c word, (IsInteger number ∨ IsDouble number) ∧ isWordStart c = true ∧ IsWordChars word ∧
    (isExponentMark c = true → number.any isExponentMark = true) ∧ text = number ++ c :: word

/-! ## Words and signs -/

/-- `[A-Za-z_][A-Za-z0-9_]*` -/
def IsWord (text : List Char) : Prop :=
  ∃ c word, isWordStart c = true ∧ IsWordChars word ∧ text = c :: word

def IsKeyword (text : List Char) : Prop := String.ofList text ∈ reservedWords

def IsIdentifier (text : List Char) : Prop := IsWord text ∧ String.ofList text ∉ reservedWords

def IsOperator (text : List Char) : Prop :=
  (∃ a b, (a, b) ∈ longOperators ∧ text = [a, b]) ∨ ∃ c, c ∈ shortOperators ∧ text = [c]

/-- The point is left out: it is always part of a number. -/
def IsPunctuation (text : List Char) : Prop :=
  ∃ c, c ∈ ['(', ')', '[', ']', '{', '}', ','] ∧ text = [c]

/-- A character that no lexeme begins with, alone or with others. -/
structure BeginsNothing (c : Char) : Prop where
  noBlank : isBlank c = false
  noBreak : c ≠ '\n'
  noQuote : isQuote c = false
  noNumber : isNumberChar c = false
  noWord : isWordStart c = false
  noOperator : c ∉ shortOperators
  noPunctuation : c ∉ punctuation

end Grammar

open Grammar

/-- The lexemes that tokens of the kind may have. -/
def Token.Kind.Language : Token.Kind → List Char → Prop
  | .newline => IsNewlines
  | .lineComment => IsLineComment
  | .blockComment => fun text => IsClosedComment text ∨ IsOpenComment text
  | .string => IsString
  | .integer => IsInteger
  | .double => IsDouble
  | .keyword => IsKeyword
  | .identifier => IsIdentifier
  | .operator => IsOperator
  | .punctuation => IsPunctuation

namespace Finding

/-- The lexemes of which the finding may be made. -/
def Form : Finding → List Char → Prop
  | .token .blockComment => IsClosedComment
  | .token kind => kind.Language
  | .openComment => IsOpenComment
  | .error (.unrecognized c) => fun text => BeginsNothing c ∧ text = [c]
  | .error (.openString quote) => IsOpenString quote
  | .error (.number flaw) => IsMalformedNumber flaw
  | .error .illegalIdentifier => IsIllegalIdentifier
  | .error (.operatorSequence _) => fun _ => False
  | .error .openComment => fun _ => False

/-- The character may stand right behind the lexeme, with the lexeme found the same. -/
def Admits (finding : Finding) (lexeme : List Char) (c : Char) : Prop :=
  match finding with
  | .token .newline => c ≠ '\n'
  | .token .lineComment => c = '\n'
  | .token .blockComment => True
  | .token .string => True
  | .token .integer => isNumberChar c = false ∧ isWordStart c = false
  | .token .double =>
    c.isDigit = false ∧ isWordStart c = false ∧ (c = '.' → lexeme.any isExponentMark = true)
  | .token .keyword => isWordChar c = false
  | .token .identifier => isWordChar c = false
  | .token .operator =>
    (∀ a, lexeme = [a] → (a, c) ∉ longOperators) ∧ (lexeme = ['-'] → isNumberChar c = false) ∧
      (lexeme = ['<', '<'] → c ≠ '<')
  | .token .punctuation => True
  | .openComment => False
  | .error (.unrecognized first) => (first, c) ∉ longOperators
  | .error (.openString quote) => c = '\n' ∧ StringBody quote lexeme.tail
  | .error (.number .secondPoint) => isNumberChar c = false
  | .error (.number .missingExponent) =>
    isWordChar c = false ∧ (c = '+' ∨ c = '-' → lexeme.dropLast.any isExponentMark = true)
  | .error (.number .trailingPoint) => isNumberChar c = false ∧ isExponentMark c = false
  | .error .illegalIdentifier => isWordChar c = false
  | .error (.operatorSequence _) => True
  | .error .openComment => True

/-- What follows a lexeme is the end of the text or a character that may stand there. -/
def Ends (finding : Finding) (lexeme : List Char) (next : Option Char) : Prop :=
  ∀ c ∈ next, finding.Admits lexeme c

@[simp] theorem ends_none (finding : Finding) (lexeme : List Char) : finding.Ends lexeme none := by
  intro c absent
  cases absent

@[simp] theorem ends_some (finding : Finding) (lexeme : List Char) (c : Char) :
    finding.Ends lexeme (some c) ↔ finding.Admits lexeme c := by
  simp [Ends]

end Finding

/-- The text begins with the lexeme, and is found to be that. -/
structure Stands (finding : Finding) (lexeme rest : List Char) : Prop where
  form : finding.Form lexeme
  ends : finding.Ends lexeme rest.head?

end ScriptLexer
