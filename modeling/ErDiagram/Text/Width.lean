import ErDiagram.Text.Width.Emoji
import ErDiagram.Text.Width.Ranges

/-!
# Display width

The number of terminal columns that a text takes. Most characters take one column, wide ones two,
and marks none. Some take a different width together with what stands after them: an emoji and its
variation selector, a pair of regional indicators, emoji joined by a zero width joiner, letters
that form a ligature. So a text is measured from its end, and a `Tail` says what the characters
to the right can still join with. The width of a character may then be negative, where it narrows
what has been counted for its neighbour.
-/

namespace ErDiagram.Text

/-- How a variation selector asks for the character before it to be shown. -/
inductive Presentation where
  | plain
  | text
  | emoji
deriving DecidableEq, Repr

/-- What the characters to the right begin with, as far as a character before them can join it. A
flag in `joined` says that a zero width joiner stands between. -/
inductive Link where
  | none
  | lineFeed
  | fullwidthQuote
  | emoji
  | emojiModifier
  | flagLetter
  | flagLetters
  | emojiJoiner
  | keycapJoiner
  | flagHalfJoiner
  | evenFlagsJoiner
  | oddFlagsJoiner
  | tagEnd
  | tagLetters (count : Nat)
  | tagDigits (count : Nat)
  | alef
  | lamed (joined : Bool)
  | buginese (joined : Bool)
  | bugineseVowel (joined : Bool)
  | tifinagh (joined : Bool)
  | tifinaghJoiner (joined : Bool)
  | lisuTone (joined : Bool)
  | orkhon (joined : Bool)
  | khmer (joined : Bool)
  | kiratE (joined : Bool)
  | kiratAI (joined : Bool)
deriving DecidableEq, Repr

structure Tail where
  presentation : Presentation
  link : Link
deriving DecidableEq, Repr

/-- The columns that one character adds, and the tail that it makes with the text after it. -/
structure Measure where
  width : Int
  tail : Tail

namespace Link

def isLigature : Link → Bool
  | alef | lamed _ | buginese _ | bugineseVowel _ | tifinagh _ | tifinaghJoiner _ | lisuTone _
  | orkhon _ | khmer _ | kiratE _ | kiratAI _ => true
  | _ => false

/-- Whether joiners and selectors may stand inside the ligature. -/
def isLigatureOpen (link : Link) : Bool := link.isLigature && link != alef

def join : Link → Link
  | lamed _ => lamed true
  | buginese _ => buginese true
  | bugineseVowel _ => bugineseVowel true
  | tifinagh _ => tifinagh true
  | tifinaghJoiner _ => tifinaghJoiner true
  | lisuTone _ => lisuTone true
  | orkhon _ => orkhon true
  | khmer _ => khmer true
  | kiratE _ => kiratE true
  | kiratAI _ => kiratAI true
  | other => other

def joinsEmoji : Link → Bool
  | emojiJoiner | keycapJoiner => true
  | _ => false

/-- Whether a zero width joiner before the link joins emoji. -/
def takesJoiner : Link → Bool
  | emoji | flagLetters | evenFlagsJoiner | oddFlagsJoiner | emojiModifier => true
  | _ => false

end Link

namespace Tail

def free : Tail := ⟨.plain, .none⟩

def ofLink (link : Link) : Tail := ⟨.plain, link⟩

/-- The tail without the wish of its selector. A ligature stays open across it. -/
def dropSelector (tail : Tail) : Tail :=
  ⟨.plain, if tail.link.isLigature then tail.link else .none⟩

/-- The tail after an emoji selector, which keeps what an emoji could still join. -/
def selectEmoji (tail : Tail) : Tail :=
  ⟨.emoji, if tail.link.isLigature || tail.link.joinsEmoji then tail.link else .none⟩

def selectText (tail : Tail) : Tail :=
  ⟨.text, if tail.link.isLigature then tail.link else .none⟩

end Tail

def codeWithin (first last : Nat) (c : Char) : Bool := first ≤ c.toNat && c.toNat ≤ last

def isRegionalIndicator (c : Char) : Bool := codeWithin 0x1F1E6 0x1F1FF c

def isEmojiModifier (c : Char) : Bool := codeWithin 0x1F3FB 0x1F3FF c

def isTagLetter (c : Char) : Bool := codeWithin 0xE0061 0xE007A c

def isTagDigit (c : Char) : Bool := codeWithin 0xE0030 0xE0039 c

/-- The Tifinagh letters that a joiner binds in pairs. -/
def isTifinaghConsonant (c : Char) : Bool := codeWithin 0x2D31 0x2D65 c || c == '\u2d6f'

/-- The Arabic letters that form a ligature with an alef after them. -/
def isLam (c : Char) : Bool :=
  ['\u0644', '\u06b5', '\u06b6', '\u06b7', '\u06b8', '\u076a', '\u08a6', '\u08c7'].contains c

def isAlef (c : Char) : Bool :=
  ['\u0622', '\u0623', '\u0625', '\u0627', '\u0671', '\u0672', '\u0673', '\u0675', '\u0773',
    '\u0774'].contains c || codeWithin 0x870 0x882 c

/-- The Khmer letters that may be written below another one. -/
def isKhmerSubscript (c : Char) : Bool :=
  covers [⟨0x1780, 0x1782⟩, ⟨0x1784, 0x1787⟩, ⟨0x1789, 0x178C⟩, ⟨0x178E, 0x1793⟩,
    ⟨0x1795, 0x1798⟩, ⟨0x179B, 0x179D⟩, ⟨0x17A0, 0x17A0⟩, ⟨0x17A2, 0x17A2⟩, ⟨0x17A7, 0x17A7⟩,
    ⟨0x17AB, 0x17AC⟩, ⟨0x17AF, 0x17AF⟩] c.toNat

/-- The characters that may stand inside a ligature without a part in it. -/
def isLigatureFiller (c : Char) : Bool :=
  covers [⟨0x34F, 0x34F⟩, ⟨0x17B4, 0x17B5⟩, ⟨0x180B, 0x180D⟩, ⟨0x180F, 0x180F⟩,
    ⟨0x200D, 0x200D⟩, ⟨0xFE00, 0xFE0F⟩, ⟨0xE0100, 0xE01EF⟩] c.toNat

/-- Whether a text selector narrows the character. The squared ideographs keep their width. -/
def narrowsAsText (c : Char) : Bool :=
  isEmojiVariationBase c && isEmojiPresentation c && !codeWithin 0x1F200 0x1F2FF c

def measureAlone (c : Char) : Measure :=
  let linked (width : Int) (link : Link) : Measure := ⟨width, .ofLink link⟩
  if isRegionalIndicator c then linked 1 .flagLetter
  else if isEmojiModifier c then linked 2 .emojiModifier
  else if isEmojiPresentation c then linked 2 .emoji
  else if c = '\ufe0e' then ⟨0, ⟨.text, .none⟩⟩
  else if c = '\ufe0f' then ⟨0, ⟨.emoji, .none⟩⟩
  else if c = '\ufe01' then linked 0 .fullwidthQuote
  else if c = '\u05dc' then linked 1 (.lamed false)
  else if isAlef c then linked 1 .alef
  else if isKhmerSubscript c then linked 1 (.khmer false)
  else if c = '\u17d8' then linked 3 .none
  else if c = '\u17a4' then linked 2 .none
  else if c = '\u1a10' then linked 1 (.buginese false)
  else if isTifinaghConsonant c then linked 1 (.tifinagh false)
  else if c = '\ua4fc' || c = '\ua4fd' then linked 1 (.lisuTone false)
  else if c.toNat = 0x10C03 then linked 1 (.orkhon false)
  else if c.toNat = 0x16D67 || c.toNat = 0x16D68 then
    linked 1 (if c.toNat = 0x16D67 then .kiratE false else .kiratAI false)
  else if isZeroWidth c then linked 0 .none
  else if isWide c then linked 2 .none
  else linked 1 .none

/-- The width of a character that joins the link on its right, if it does. -/
def measureJoined? (c : Char) (link : Link) : Option Measure :=
  let linked (width : Int) (link : Link) : Option Measure := some ⟨width, .ofLink link⟩
  if c = '\u200d' && link.takesJoiner then linked 0 .emojiJoiner
  else match link with
  | .fullwidthQuote =>
    if ['\u2018', '\u2019', '\u201c', '\u201d'].contains c then linked 2 .none else none
  | .alef =>
    if isLam c then linked 0 .none else if isJoinTransparent c then linked 0 .alef else none
  | .lamed true => if c = '\u05d0' then linked 0 .none else none
  | .khmer false => if c = '\u17d2' then linked (-1) .none else none
  | .buginese true => if c = '\u1a17' then linked 0 (.bugineseVowel false) else none
  | .bugineseVowel false => if c = '\u1a15' then linked 0 .none else none
  | .tifinagh joined =>
    if c = '\u2d7f' then linked 1 (.tifinaghJoiner false)
    else if joined && isTifinaghConsonant c then linked 0 .none else none
  | .tifinaghJoiner false => if isTifinaghConsonant c then linked (-1) .none else none
  | .lisuTone _ => if codeWithin 0xA4F8 0xA4FB c then linked 0 .none else none
  | .orkhon true => if c.toNat = 0x10C32 then linked 0 .none else none
  | .emojiModifier => if isEmojiModifierBase c then linked 0 .emoji else none
  | .flagLetter | .flagLetters => if isRegionalIndicator c then linked 1 .flagLetters else none
  | .flagHalfJoiner | .oddFlagsJoiner =>
    if isRegionalIndicator c then linked (-1) .evenFlagsJoiner else none
  | .evenFlagsJoiner => if isRegionalIndicator c then linked 3 .oddFlagsJoiner else none
  | .emojiJoiner =>
    if c = '\u20e3' then linked 0 .keycapJoiner
    else if isRegionalIndicator c then linked 1 .flagHalfJoiner
    else if isEmojiModifier c then linked 0 .emojiModifier
    else if c.toNat = 0xE007F then linked 0 .tagEnd
    else if isEmojiPresentation c then linked 0 .emoji else none
  | .tagEnd =>
    if isTagLetter c then linked 0 (.tagLetters 1)
    else if isTagDigit c then linked 0 (.tagDigits 1) else none
  | .tagLetters count =>
    if isTagLetter c && count < 6 then linked 0 (.tagLetters (count + 1))
    else if isTagDigit c && count < 5 then linked 0 (.tagDigits 1)
    else if c.toNat = 0x1F3F4 && 3 ≤ count then linked 0 .emoji else none
  | .tagDigits count =>
    if isTagDigit c && count < 3 then linked 0 (.tagDigits (count + 1))
    else if c.toNat = 0x1F3F4 && count = 3 then linked 0 .emoji else none
  | .kiratE false =>
    if c.toNat = 0x16D63 || c.toNat = 0x16D69 then linked 0 .none
    else if c.toNat = 0x16D67 then linked 0 (.kiratAI false)
    else if c.toNat = 0x16D68 then linked 1 (.kiratE false) else none
  | .kiratAI false => if c.toNat = 0x16D63 then linked 0 .none else none
  | _ => none

/-- The width of a character past ASCII whose right side asks for no emoji. -/
def measureBefore (tail : Tail) (c : Char) : Measure :=
  if tail = .free then measureAlone c
  else if c = '\ufe0f' then ⟨0, tail.selectEmoji⟩
  else if c = '\ufe0e' then ⟨0, tail.selectText⟩
  else if tail.presentation = .text && narrowsAsText c then ⟨1, .free⟩
  else
    let tail := if tail.presentation = .text then tail.dropSelector else tail
    if tail.link.isLigatureOpen && c = '\u200d' then ⟨0, ⟨tail.presentation, tail.link.join⟩⟩
    else if tail.link.isLigatureOpen && isLigatureFiller c then ⟨0, tail⟩
    else (measureJoined? c tail.link).getD (measureAlone c)

/-- The columns that a character adds before the given tail, and the tail that it makes. A
carriage return before a line feed adds none, since the pair counts as one. -/
def measure (c : Char) (tail : Tail) : Measure :=
  if tail.presentation = .emoji && isEmojiVariationBase c then
    ⟨if tail.link.joinsEmoji then 0 else 2, .ofLink .emoji⟩
  else
    let tail := if tail.presentation = .emoji then tail.dropSelector else tail
    if c.toNat ≤ 0xA0 then
      if c = '\n' then ⟨1, .ofLink .lineFeed⟩
      else if c = '\r' && tail = .ofLink .lineFeed then ⟨0, .free⟩
      else ⟨1, .free⟩
    else measureBefore tail c

def measureAll : List Char → Measure
  | [] => ⟨0, .free⟩
  | c :: rest =>
    let after := measureAll rest
    let here := measure c after.tail
    ⟨here.width + after.width, here.tail⟩

def displayWidth (text : String) : Nat := (measureAll text.toList).width.toNat

end ErDiagram.Text
