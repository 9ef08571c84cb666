import Baseline.Unicode.WidthData

/-!
# Display width

The number of columns a text takes on a terminal.  Most characters take a fixed
number of columns whatever stands around them.  Some join with what follows: a
carriage return with a line feed, a letter with the rest of a ligature, an emoji
with its variation selector, skin tone or joiner, a regional indicator with its
partner.  The text is therefore read from its end, and for each character it is
known what follows.
-/

namespace Baseline
namespace Unicode
namespace Width

/-- What the text after a character starts with, as far as widths depend on
it. -/
inductive Sequel
  /-- Nothing that matters. -/
  | plain
  /-- A line feed. -/
  | lineFeed
  /-- A skin tone. -/
  | skinTone
  /-- One regional indicator. -/
  | indicator
  /-- A run of regional indicators. -/
  | indicators
  /-- An emoji. -/
  | emoji
  /-- A joiner and an emoji. -/
  | joinedEmoji
  /-- A keycap, a joiner and an emoji. -/
  | joinedKeycap
  /-- A regional indicator, a joiner and an emoji. -/
  | joinedIndicator
  /-- An even run of regional indicators, a joiner and an emoji. -/
  | joinedPairs
  /-- An odd run of regional indicators, a joiner and an emoji. -/
  | joinedOdd
  /-- The end of a tag sequence, a joiner and an emoji. -/
  | joinedTags
  /-- An Arabic alef. -/
  | alef
  /-- A Hebrew lamed. -/
  | lamed
  /-- A Khmer letter that can stand below another. -/
  | subjoined
  /-- A Buginese ya. -/
  | ya
  /-- A Buginese vowel sign, a joiner and a ya. -/
  | vowelYa
  /-- A Tifinagh consonant. -/
  | consonant
  /-- The Tifinagh joiner and a consonant. -/
  | joinedConsonant
  /-- A second Lisu tone letter. -/
  | toneLetter
  /-- An Old Turkic letter that joins the one before it. -/
  | orkhon
  deriving DecidableEq, Repr

/-- How a variation selector asks for a character to be shown. -/
inductive Presentation
  /-- In colour and wide. -/
  | emoji
  /-- Like a letter. -/
  | text
  deriving DecidableEq, Repr

/-- What is known of the text after a character. -/
structure Ahead where
  /-- What it starts with, selectors and joiners apart. -/
  sequel : Sequel := .plain
  /-- A zero width joiner stands before that. -/
  joined : Bool := false
  /-- A variation selector comes first. -/
  selector : Option Presentation := none
  deriving DecidableEq, Repr

/-- The sequel is the second part of a ligature. -/
def Sequel.isLigature : Sequel → Bool
  | .alef | .lamed | .subjoined | .ya | .vowelYa | .consonant | .joinedConsonant
  | .toneLetter | .orkhon => true
  | _ => false

/-- The sequel is an emoji that a joiner ties to what precedes. -/
def Sequel.isJoined : Sequel → Bool
  | .joinedEmoji | .joinedKeycap => true
  | _ => false

/-- The code point lies between two others. -/
def between (char : Char) (first last : Nat) : Bool :=
  first ≤ char.toNat && char.toNat ≤ last

/-- Arabic letters of the form of alef. -/
def isAlef (char : Char) : Bool :=
  CodeRanges.contains
    [(0x622, 0x623), (0x625, 0x625), (0x627, 0x627), (0x671, 0x673), (0x675, 0x675),
     (0x773, 0x774), (0x870, 0x882)] char

/-- Arabic letters of the form of lam. -/
def isLam (char : Char) : Bool :=
  CodeRanges.contains
    [(0x644, 0x644), (0x6B5, 0x6B8), (0x76A, 0x76A), (0x8A6, 0x8A6), (0x8C7, 0x8C7)] char

/-- Khmer letters whose form below another takes no column. -/
def isSubjoinable (char : Char) : Bool :=
  CodeRanges.contains
    [(0x1780, 0x1782), (0x1784, 0x1787), (0x1789, 0x178C), (0x178E, 0x1793),
     (0x1795, 0x1798), (0x179B, 0x179D), (0x17A0, 0x17A0), (0x17A2, 0x17A2),
     (0x17A7, 0x17A7), (0x17AB, 0x17AC), (0x17AF, 0x17AF)] char

/-- Tifinagh consonants. -/
def isConsonant (char : Char) : Bool :=
  between char 0x2D31 0x2D65 || char.toNat = 0x2D6F

/-- Regional indicators. -/
def isIndicator (char : Char) : Bool :=
  between char 0x1F1E6 0x1F1FF

/-- Skin tones. -/
def isSkinTone (char : Char) : Bool :=
  between char 0x1F3FB 0x1F3FF

/-- The columns a character takes by itself. -/
def single (char : Char) : Int :=
  if WidthData.zero.contains char then 0
  else if WidthData.double.contains char then 2
  else 1

/-- What a character is to the one before it. -/
def announce (char : Char) : Ahead :=
  if char.toNat = 0xFE0F then { selector := some .emoji }
  else if char.toNat = 0xFE0E then { selector := some .text }
  else if isAlef char then { sequel := .alef }
  else if char.toNat = 0x5DC then { sequel := .lamed }
  else if isSubjoinable char then { sequel := .subjoined }
  else if char.toNat = 0x1A10 then { sequel := .ya }
  else if isConsonant char then { sequel := .consonant }
  else if between char 0xA4FC 0xA4FD then { sequel := .toneLetter }
  else if char.toNat = 0x10C03 then { sequel := .orkhon }
  else if isSkinTone char then { sequel := .skinTone }
  else if isIndicator char then { sequel := .indicator }
  else if WidthData.emoji.contains char then { sequel := .emoji }
  else {}

/-- The columns of a character that joins the sequel, if it does. -/
def join? (char : Char) (ahead : Ahead) : Option (Int × Ahead) :=
  let code := char.toNat
  match ahead.sequel with
  | .alef =>
      if isLam char then some (0, {})
      else if WidthData.transparent.contains char then some (0, ahead)
      else none
  | .lamed => if ahead.joined && code = 0x5D0 then some (0, {}) else none
  | .subjoined => if code = 0x17D2 then some (-1, {}) else none
  | .ya => if ahead.joined && code = 0x1A17 then some (0, { sequel := .vowelYa }) else none
  | .vowelYa => if code = 0x1A15 then some (0, {}) else none
  | .consonant =>
      if code = 0x2D7F then some (1, { sequel := .joinedConsonant })
      else if ahead.joined && isConsonant char then some (0, {})
      else none
  | .joinedConsonant => if isConsonant char then some (-1, {}) else none
  | .toneLetter => if between char 0xA4F8 0xA4FB then some (0, {}) else none
  | .orkhon => if ahead.joined && code = 0x10C32 then some (0, {}) else none
  | .skinTone =>
      if WidthData.modifierBase.contains char then some (0, { sequel := .emoji })
      else if code = 0x200D then some (0, { sequel := .joinedEmoji })
      else none
  | .indicator =>
      if isIndicator char then some (1, { sequel := .indicators }) else none
  | .indicators =>
      if isIndicator char then some (1, { sequel := .indicators })
      else if code = 0x200D then some (0, { sequel := .joinedEmoji })
      else none
  | .emoji => if code = 0x200D then some (0, { sequel := .joinedEmoji }) else none
  | .joinedEmoji =>
      if code = 0x20E3 then some (0, { sequel := .joinedKeycap })
      else if WidthData.emoji.contains char then some (0, { sequel := .emoji })
      else if isIndicator char then some (1, { sequel := .joinedIndicator })
      else if isSkinTone char then some (0, { sequel := .skinTone })
      else if code = 0xE007F then some (0, { sequel := .joinedTags })
      else none
  | .joinedIndicator => if isIndicator char then some (-1, { sequel := .joinedPairs }) else none
  | .joinedPairs =>
      if isIndicator char then some (3, { sequel := .joinedOdd })
      else if code = 0x200D then some (0, { sequel := .joinedEmoji })
      else none
  | .joinedOdd =>
      if isIndicator char then some (-3, { sequel := .joinedPairs })
      else if code = 0x200D then some (0, { sequel := .joinedEmoji })
      else none
  | .joinedTags =>
      if between char 0xE0020 0xE007E then some (0, ahead)
      else if code = 0x1F3F4 then some (0, { sequel := .emoji })
      else none
  | .joinedKeycap | .lineFeed | .plain => none

/-- What is ahead once a selector that asks for nothing here is passed over. -/
def Ahead.dropSelector (ahead : Ahead) : Ahead :=
  if ahead.sequel.isLigature then { ahead with selector := none } else {}

/-- What is ahead of a character before a variation selector. -/
def Ahead.select (ahead : Ahead) (presentation : Presentation) : Ahead :=
  if ahead.sequel.isLigature || (ahead.sequel.isJoined && presentation = .emoji) then
    { ahead with selector := some presentation }
  else { selector := some presentation }

/-- The columns of a character beyond the no-break space that no selector asks
about. -/
def plainWidth (char : Char) (ahead : Ahead) : Int × Ahead :=
  if ahead.sequel.isLigature && char.toNat = 0x200D then (0, { ahead with joined := true })
  else if ahead.sequel.isLigature && WidthData.ligatureMarks.contains char then (0, ahead)
  else (join? char ahead).getD (single char, announce char)

/-- The columns of a character, given what is ahead of it, and what it is to
the one before it. -/
def next (char : Char) (ahead : Ahead) : Int × Ahead :=
  if ahead.selector = some .emoji && WidthData.emojiBase.contains char then
    (if ahead.sequel.isJoined then 0 else 2, { sequel := .emoji })
  else
    let ahead := if ahead.selector = some .emoji then ahead.dropSelector else ahead
    if char.toNat ≤ 0xA0 then
      if char = '\n' then (0, { sequel := .lineFeed })
      else if char = '\r' && ahead.sequel = .lineFeed then (0, {})
      else (1, {})
    else if char.toNat = 0xFE0F then (0, ahead.select .emoji)
    else if char.toNat = 0xFE0E then (0, ahead.select .text)
    else if ahead.selector = some .text then
      if WidthData.textBase.contains char then (1, {})
      else plainWidth char ahead.dropSelector
    else plainWidth char ahead

end Width

/-- The number of columns a text takes on a terminal. -/
def width (text : String) : Nat :=
  let total := text.toList.foldr
    (fun char (sum, ahead) =>
      let (columns, ahead) := Width.next char ahead
      (sum + columns, ahead))
    ((0 : Int), ({} : Width.Ahead))
  total.1.toNat

end Unicode
end Baseline
