import DebugShell.Text.Category.Letters
import DebugShell.Text.Category.Marks
import DebugShell.Text.Category.Numbers
import DebugShell.Text.Category.Punctuation
import DebugShell.Text.Category.Separators
import DebugShell.Text.Category.Symbols

/-!
# General categories

Each character has one general category in the Unicode standard. Other classes of characters are put
together from the categories.
-/

namespace DebugShell.Text

/-- The general categories. -/
inductive Category where
  /-- Capital letters. -/
  | uppercaseLetter
  /-- Small letters. -/
  | lowercaseLetter
  /-- Letters whose first part is a capital. -/
  | titlecaseLetter
  /-- Letters that modify others. -/
  | modifierLetter
  /-- Other letters. -/
  | otherLetter
  /-- Marks that take up no room. -/
  | nonspacingMark
  /-- Marks that take up room. -/
  | spacingMark
  /-- Marks that enclose a character. -/
  | enclosingMark
  /-- Decimal digits. -/
  | decimalNumber
  /-- Letters used as numbers. -/
  | letterNumber
  /-- Other numbers. -/
  | otherNumber
  /-- Punctuation that connects. -/
  | connectorPunctuation
  /-- Dashes. -/
  | dashPunctuation
  /-- Opening brackets. -/
  | openPunctuation
  /-- Closing brackets. -/
  | closePunctuation
  /-- Opening quotes. -/
  | initialPunctuation
  /-- Closing quotes. -/
  | finalPunctuation
  /-- Other punctuation. -/
  | otherPunctuation
  /-- Mathematical symbols. -/
  | mathSymbol
  /-- Currency signs. -/
  | currencySymbol
  /-- Symbols that modify others. -/
  | modifierSymbol
  /-- Other symbols. -/
  | otherSymbol
  /-- Spaces. -/
  | spaceSeparator
  /-- The line separator. -/
  | lineSeparator
  /-- The paragraph separator. -/
  | paragraphSeparator
  /-- Control characters. -/
  | control
  /-- Format characters. -/
  | format
  /-- Characters for private use. -/
  | privateUse
  /-- Code points that are no characters. -/
  | unassigned
  deriving DecidableEq, Repr

namespace Category

/-- All categories of characters. -/
def assigned : List Category :=
  [.uppercaseLetter, .lowercaseLetter, .titlecaseLetter, .modifierLetter, .otherLetter,
   .nonspacingMark, .spacingMark, .enclosingMark, .decimalNumber, .letterNumber, .otherNumber,
   .connectorPunctuation, .dashPunctuation, .openPunctuation, .closePunctuation,
   .initialPunctuation, .finalPunctuation, .otherPunctuation, .mathSymbol, .currencySymbol,
   .modifierSymbol, .otherSymbol, .spaceSeparator, .lineSeparator, .paragraphSeparator, .control,
   .format, .privateUse]

/-- The runs of code points of a category. -/
def runs : Category → List (Nat × Nat × Nat)
  | .uppercaseLetter => uppercaseLetterRuns
  | .lowercaseLetter => lowercaseLetterRuns
  | .titlecaseLetter => titlecaseLetterRuns
  | .modifierLetter => modifierLetterRuns
  | .otherLetter => otherLetterRuns
  | .nonspacingMark => nonspacingMarkRuns
  | .spacingMark => spacingMarkRuns
  | .enclosingMark => enclosingMarkRuns
  | .decimalNumber => decimalNumberRuns
  | .letterNumber => letterNumberRuns
  | .otherNumber => otherNumberRuns
  | .connectorPunctuation => connectorPunctuationRuns
  | .dashPunctuation => dashPunctuationRuns
  | .openPunctuation => openPunctuationRuns
  | .closePunctuation => closePunctuationRuns
  | .initialPunctuation => initialPunctuationRuns
  | .finalPunctuation => finalPunctuationRuns
  | .otherPunctuation => otherPunctuationRuns
  | .mathSymbol => mathSymbolRuns
  | .currencySymbol => currencySymbolRuns
  | .modifierSymbol => modifierSymbolRuns
  | .otherSymbol => otherSymbolRuns
  | .spaceSeparator => spaceSeparatorRuns
  | .lineSeparator => lineSeparatorRuns
  | .paragraphSeparator => paragraphSeparatorRuns
  | .control => controlRuns
  | .format => formatRuns
  | .privateUse => privateUseRuns
  | .unassigned => []

end Category

/-- Whether a code point lies in one of the runs. -/
def inRuns (runs : List (Nat × Nat × Nat)) (n : Nat) : Bool :=
  runs.any fun (low, high, step) => low ≤ n && n ≤ high && (n - low) % step == 0

/-- Whether a character has a category. -/
def Category.contains (category : Category) (c : Char) : Bool :=
  if category = .unassigned then
    !Category.assigned.any fun other => inRuns other.runs c.toNat
  else inRuns category.runs c.toNat

end DebugShell.Text
