import Baseline.Unicode.WordBreakData

/-!
# Word break property

Every character has one role in word segmentation, its word break property.
-/

namespace Baseline
namespace Unicode

/-- The role of a character in word segmentation. -/
inductive WordBreak
  /-- The carriage return. -/
  | carriageReturn
  /-- The line feed. -/
  | lineFeed
  /-- Any other line separator. -/
  | newline
  /-- The zero width joiner. -/
  | joiner
  /-- A mark that extends the character before it. -/
  | extend
  /-- An invisible format character. -/
  | format
  /-- A regional indicator; two of them make a flag. -/
  | regionalIndicator
  /-- A Katakana letter. -/
  | katakana
  /-- A Hebrew letter. -/
  | hebrewLetter
  /-- Any other letter that forms words. -/
  | aLetter
  /-- The apostrophe. -/
  | singleQuote
  /-- The quotation mark. -/
  | doubleQuote
  /-- Punctuation inside words and inside numbers. -/
  | midNumLet
  /-- Punctuation inside words. -/
  | midLetter
  /-- Punctuation inside numbers. -/
  | midNum
  /-- A decimal digit. -/
  | numeric
  /-- A connector such as the low line. -/
  | extendNumLet
  /-- A space that joins the next one. -/
  | wordSpace
  /-- No role. -/
  | other
  deriving DecidableEq, Repr

namespace WordBreak

/-- The word break property of a character. -/
def ofChar (char : Char) : WordBreak :=
  if char = '\r' then .carriageReturn
  else if char = '\n' then .lineFeed
  else if char = '\'' then .singleQuote
  else if char = '"' then .doubleQuote
  else if char = '\u200d' then .joiner
  else if WordBreakData.aLetter.contains char then .aLetter
  else if WordBreakData.numeric.contains char then .numeric
  else if WordBreakData.wordSpace.contains char then .wordSpace
  else if WordBreakData.extendNumLet.contains char then .extendNumLet
  else if WordBreakData.midNumLet.contains char then .midNumLet
  else if WordBreakData.midLetter.contains char then .midLetter
  else if WordBreakData.midNum.contains char then .midNum
  else if WordBreakData.newline.contains char then .newline
  else if WordBreakData.extend.contains char then .extend
  else if WordBreakData.format.contains char then .format
  else if WordBreakData.katakana.contains char then .katakana
  else if WordBreakData.hebrewLetter.contains char then .hebrewLetter
  else if WordBreakData.regionalIndicator.contains char then .regionalIndicator
  else .other

/-- Marks, format characters and joiners attach to what precedes them. -/
def attaches : WordBreak → Bool
  | .extend | .format | .joiner => true
  | _ => false

end WordBreak
end Unicode
end Baseline
