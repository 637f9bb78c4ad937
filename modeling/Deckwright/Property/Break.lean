import Deckwright.Property.Script
import Deckwright.Property.Trait
set_option autoImplicit false

namespace Deckwright

def carriageReturn : CharSet := .char '\r'

def lineFeed : CharSet := .char '\n'

def joiners : CharSet := .range 0x200C 0x200D

def zeroWidthJoiner : CharSet := .range 0x200D 0x200D

namespace ClusterBreak

def control : CharSet :=
  (CharSet.unionOf [GeneralCategory.lineSeparator, GeneralCategory.paragraphSeparator,
    GeneralCategory.control, GeneralCategory.format,
    GeneralCategory.unassigned.both Trait.defaultIgnorable]).without
    (.unionOf [carriageReturn, lineFeed, joiners, Trait.prependedConcatenationMark, Trait.graphemeExtend])

def extend : CharSet := .either Trait.graphemeExtend Trait.emojiModifier

def prepend : CharSet :=
  .either Trait.prependedConcatenationMark ⟨[
    (0xD4E, 0xD4E), (0x111C2, 0x111C3), (0x113D1, 0x113D1), (0x1193F, 0x1193F), (0x11941, 0x11941),
    (0x11A3A, 0x11A3A), (0x11A84, 0x11A89), (0x11D46, 0x11D46), (0x11F02, 0x11F02)]⟩

def freeMarks : CharSet := ⟨[
  (0x102B, 0x102C), (0x1038, 0x1038), (0x1062, 0x1064), (0x1067, 0x106D), (0x1083, 0x1083),
  (0x1087, 0x108C), (0x108F, 0x108F), (0x109A, 0x109C), (0x1A61, 0x1A61), (0x1A63, 0x1A64),
  (0xAA7B, 0xAA7B), (0xAA7D, 0xAA7D), (0x11720, 0x11721)]⟩

def spacingMark : CharSet :=
  (CharSet.either GeneralCategory.spacingMark ⟨[(0xE33, 0xE33), (0xEB3, 0xEB3)]⟩).without
    (.either Trait.graphemeExtend freeMarks)

def leading : CharSet := ⟨[(0x1100, 0x115F), (0xA960, 0xA97C)]⟩

def vowel : CharSet :=
  ⟨[(0x1160, 0x11A7), (0xD7B0, 0xD7C6), (0x16D63, 0x16D63), (0x16D67, 0x16D6A)]⟩

def trailing : CharSet := ⟨[(0x11A8, 0x11FF), (0xD7CB, 0xD7FB)]⟩

def syllable : CharSet := .range 0xAC00 0xD7A3

-- Every twenty-eighth syllable ends in its vowel.
def openSyllable : CharSet := .ofCodes ((List.range 399).map fun i => 0xAC00 + 28 * i)

def all : List NamedSet :=
  [⟨["cr"], carriageReturn⟩,
    ⟨["control", "cn"], control⟩,
    ⟨["extend", "ex"], extend⟩,
    ⟨["l"], leading⟩,
    ⟨["lf"], lineFeed⟩,
    ⟨["lv"], openSyllable⟩,
    ⟨["lvt"], syllable.without openSyllable⟩,
    ⟨["prepend", "pp"], prepend⟩,
    ⟨["regionalindicator", "ri"], Trait.regionalIndicator⟩,
    ⟨["spacingmark", "sm"], spacingMark⟩,
    ⟨["t"], trailing⟩,
    ⟨["v"], vowel⟩,
    ⟨["zwj"], zeroWidthJoiner⟩]

def find? (name : String) : Option CharSet := NamedSet.find? all name

end ClusterBreak

namespace WordBreak

def numberSign : CharSet := Trait.prependedConcatenationMark.without (.range 0x70F 0x70F)

def newline : CharSet := ⟨[(0xB, 0xC), (0x85, 0x85), (0x2028, 0x2029)]⟩

def extend : CharSet :=
  (CharSet.unionOf [Trait.graphemeExtend, GeneralCategory.spacingMark, Trait.emojiModifier]).without
    zeroWidthJoiner

def format : CharSet :=
  GeneralCategory.format.without
    (.unionOf [.range 0x200B 0x200D, Trait.prependedConcatenationMark, extend])

def katakana : CharSet :=
  .either Script.katakana ⟨[
    (0x3031, 0x3035), (0x309B, 0x309C), (0x30A0, 0x30A0), (0x30FC, 0x30FC), (0xFF70, 0xFF70)]⟩

def hebrewLetter : CharSet := .both Script.hebrew GeneralCategory.otherLetter

-- Scripts that put no space between words.
def unspaced : CharSet :=
  .unionOf [Script.thai, Script.lao, Script.myanmar, Script.khmer, Script.taiLe, Script.newTaiLue,
    Script.taiTham, Script.taiViet, Script.ahom, Script.hiragana, Trait.ideographic]

def letterSign : CharSet := ⟨[
  (0x2C2, 0x2C5), (0x2D2, 0x2D7), (0x2DE, 0x2DF), (0x2E5, 0x2EB), (0x2ED, 0x2ED), (0x2EF, 0x2FF),
  (0x55A, 0x55C), (0x55E, 0x55E), (0x58A, 0x58A), (0x5F3, 0x5F3), (0x70F, 0x70F), (0xA708, 0xA716),
  (0xA720, 0xA721), (0xA789, 0xA78A), (0xAB5B, 0xAB5B)]⟩

def letter : CharSet :=
  (CharSet.either Trait.alphabetic letterSign).without
    (.unionOf [katakana, hebrewLetter, unspaced, extend])

def numeric : CharSet :=
  .unionOf [GeneralCategory.decimalNumber, numberSign, ⟨[(0x66B, 0x66B), (0x19DA, 0x19DA)]⟩]

def midNum : CharSet := ⟨[
  (0x2C, 0x2C), (0x3B, 0x3B), (0x37E, 0x37E), (0x589, 0x589), (0x60C, 0x60D), (0x66C, 0x66C),
  (0x7F8, 0x7F8), (0x2044, 0x2044), (0xFE50, 0xFE50), (0xFE54, 0xFE54), (0xFF0C, 0xFF0C), (0xFF1B, 0xFF1B)]⟩

def extendNumLet : CharSet := ⟨[
  (0x5F, 0x5F), (0x202F, 0x202F), (0x203F, 0x2040), (0x2054, 0x2054), (0xFE33, 0xFE34),
  (0xFE4D, 0xFE4F), (0xFF3F, 0xFF3F)]⟩

def segmentSpace : CharSet := ⟨[
  (0x20, 0x20), (0x1680, 0x1680), (0x2000, 0x2006), (0x2008, 0x200A), (0x205F, 0x205F), (0x3000, 0x3000)]⟩

def all : List NamedSet :=
  [⟨["aletter", "le"], letter⟩,
    ⟨["cr"], carriageReturn⟩,
    ⟨["doublequote", "dq"], .char '"'⟩,
    ⟨["extend"], extend⟩,
    ⟨["extendnumlet", "ex"], extendNumLet⟩,
    ⟨["format", "fo"], format⟩,
    ⟨["hebrewletter", "hl"], hebrewLetter⟩,
    ⟨["katakana", "ka"], katakana⟩,
    ⟨["lf"], lineFeed⟩,
    ⟨["midletter", "ml"], Trait.midLetter⟩,
    ⟨["midnum", "mn"], midNum⟩,
    ⟨["midnumlet", "mb"], Trait.midNumLet⟩,
    ⟨["newline", "nl"], newline⟩,
    ⟨["numeric", "nu"], numeric⟩,
    ⟨["regionalindicator", "ri"], Trait.regionalIndicator⟩,
    ⟨["singlequote", "sq"], .char '\''⟩,
    ⟨["wsegspace"], segmentSpace⟩,
    ⟨["zwj"], zeroWidthJoiner⟩]

def find? (name : String) : Option CharSet := NamedSet.find? all name

end WordBreak

namespace SentenceBreak

def fullStop : CharSet := ⟨[(0x2E, 0x2E), (0x2024, 0x2024), (0xFE52, 0xFE52), (0xFF0E, 0xFF0E)]⟩

def extend : CharSet := .unionOf [Trait.graphemeExtend, GeneralCategory.spacingMark, zeroWidthJoiner]

def format : CharSet :=
  GeneralCategory.format.without (.unionOf [joiners, WordBreak.numberSign, extend])

def lower : CharSet := Trait.lowercase.without (.either extend Trait.mkhedruli)

def upper : CharSet :=
  (CharSet.either Trait.uppercase GeneralCategory.titlecaseLetter).without Trait.mtavruli

def letter : CharSet :=
  (CharSet.either Trait.alphabetic (.range 0x5F3 0x5F3)).without (.unionOf [lower, upper, extend])

def numeric : CharSet := .either WordBreak.numeric (.range 0x66C 0x66C)

def separator : CharSet := ⟨[(0x85, 0x85), (0x2028, 0x2029)]⟩

def space : CharSet :=
  Trait.whiteSpace.without (.unionOf [separator, carriageReturn, lineFeed])

def continued : CharSet := ⟨[
  (0x2C, 0x2D), (0x3A, 0x3B), (0x37E, 0x37E), (0x55D, 0x55D), (0x60C, 0x60D), (0x7F8, 0x7F8),
  (0x1802, 0x1802), (0x1808, 0x1808), (0x2013, 0x2014), (0x3001, 0x3001), (0xFE10, 0xFE11),
  (0xFE13, 0xFE14), (0xFE31, 0xFE32), (0xFE50, 0xFE51), (0xFE54, 0xFE55), (0xFE58, 0xFE58),
  (0xFE63, 0xFE63), (0xFF0C, 0xFF0D), (0xFF1A, 0xFF1B), (0xFF64, 0xFF64)]⟩

def ornateQuotes : CharSet := ⟨[
  (0x275B, 0x2760), (0x2E00, 0x2E01), (0x2E06, 0x2E08), (0x2E0B, 0x2E0B), (0x1F676, 0x1F678)]⟩

def wideQuotes : CharSet := ⟨[(0xFF02, 0xFF02), (0xFF07, 0xFF07)]⟩

def closing : CharSet :=
  (CharSet.unionOf [GeneralCategory.openPunctuation, GeneralCategory.closePunctuation,
    GeneralCategory.initialPunctuation, GeneralCategory.finalPunctuation, Trait.quotationMark,
    ornateQuotes]).without wideQuotes

def all : List NamedSet :=
  [⟨["aterm", "at"], fullStop⟩,
    ⟨["cr"], carriageReturn⟩,
    ⟨["close", "cl"], closing⟩,
    ⟨["extend", "ex"], extend⟩,
    ⟨["format", "fo"], format⟩,
    ⟨["lf"], lineFeed⟩,
    ⟨["lower", "lo"], lower⟩,
    ⟨["numeric", "nu"], numeric⟩,
    ⟨["oletter", "le"], letter⟩,
    ⟨["scontinue", "sc"], continued⟩,
    ⟨["sterm", "st"], Trait.sentenceTerminal.without fullStop⟩,
    ⟨["sep", "se"], separator⟩,
    ⟨["sp"], space⟩,
    ⟨["upper", "up"], upper⟩]

def find? (name : String) : Option CharSet := NamedSet.find? all name

end SentenceBreak

end Deckwright
