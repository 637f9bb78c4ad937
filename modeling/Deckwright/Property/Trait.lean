import Deckwright.CharSet.Folding
import Deckwright.Property.GeneralCategory
import Deckwright.Property.TraitTable
set_option autoImplicit false

namespace Deckwright.Trait

def lowercase : CharSet := .either GeneralCategory.lowercaseLetter otherLowercase

def uppercase : CharSet := .either GeneralCategory.uppercaseLetter otherUppercase

def cased : CharSet := .unionOf [lowercase, uppercase, GeneralCategory.titlecaseLetter]

def alphabetic : CharSet :=
  .unionOf [cased, GeneralCategory.modifierLetter, GeneralCategory.otherLetter, GeneralCategory.letterNumber,
    otherAlphabetic]

def math : CharSet := .either GeneralCategory.mathSymbol otherMath

def graphemeExtend : CharSet :=
  .unionOf [GeneralCategory.enclosingMark, GeneralCategory.nonspacingMark, otherGraphemeExtend]

def graphemeBase : CharSet :=
  (CharSet.unionOf [GeneralCategory.control, GeneralCategory.format, GeneralCategory.privateUse,
    GeneralCategory.unassigned, GeneralCategory.lineSeparator, GeneralCategory.paragraphSeparator,
    graphemeExtend]).outside

def patternMarks : CharSet := .either patternSyntax patternWhiteSpace

def idStart : CharSet :=
  (CharSet.unionOf [GeneralCategory.letter, GeneralCategory.letterNumber, otherIdStart]).without patternMarks

def idContinue : CharSet :=
  (CharSet.unionOf [idStart, GeneralCategory.nonspacingMark, GeneralCategory.spacingMark,
    GeneralCategory.decimalNumber, GeneralCategory.connectorPunctuation, otherIdContinue]).without
      patternMarks

-- In a plainer form these would no longer be part of a name.
def looseInName : CharSet := ⟨[
  (0x37A, 0x37A), (0x309B, 0x309C), (0xFC5E, 0xFC63), (0xFDFA, 0xFDFB), (0xFE70, 0xFE70),
  (0xFE72, 0xFE72), (0xFE74, 0xFE74), (0xFE76, 0xFE76), (0xFE78, 0xFE78), (0xFE7A, 0xFE7A),
  (0xFE7C, 0xFE7C), (0xFE7E, 0xFE7E)]⟩

def looseInFront : CharSet := ⟨[(0xE33, 0xE33), (0xEB3, 0xEB3), (0xFF9E, 0xFF9F)]⟩

def xidStart : CharSet := idStart.without (.either looseInName looseInFront)

def xidContinue : CharSet := idContinue.without looseInName

def formatKept : CharSet :=
  .unionOf [prependedConcatenationMark, whiteSpace, ⟨[(0xFFF9, 0xFFFB), (0x13430, 0x13440)]⟩]

def defaultIgnorable : CharSet :=
  .either otherDefaultIgnorable ((CharSet.either GeneralCategory.format variationSelector).without formatKept)

def midLetter : CharSet := ⟨[
  (0x3A, 0x3A), (0xB7, 0xB7), (0x387, 0x387), (0x55F, 0x55F), (0x5F4, 0x5F4), (0x2027, 0x2027),
  (0xFE13, 0xFE13), (0xFE55, 0xFE55), (0xFF1A, 0xFF1A)]⟩

def midNumLet : CharSet := ⟨[
  (0x2E, 0x2E), (0x2018, 0x2019), (0x2024, 0x2024), (0xFE52, 0xFE52), (0xFF07, 0xFF07), (0xFF0E, 0xFF0E)]⟩

def caseIgnorable : CharSet :=
  .unionOf [GeneralCategory.nonspacingMark, GeneralCategory.enclosingMark, GeneralCategory.format,
    GeneralCategory.modifierLetter, GeneralCategory.modifierSymbol, midLetter, midNumLet, .char '\'']

def twinned : CharSet := .ofCodes (Text.twins.map Prod.fst)

def folding : CharSet := .ofCodes (Text.foldPairs.map Prod.snd)

-- Lower-case letters whose capital form is more than one character.
def longCapital : CharSet := ⟨[
  (0x131, 0x131), (0x149, 0x149), (0x1F0, 0x1F0), (0x587, 0x587), (0x1E96, 0x1E9A), (0x1F50, 0x1F50),
  (0x1F52, 0x1F52), (0x1F54, 0x1F54), (0x1F56, 0x1F56), (0x1FB2, 0x1FB2), (0x1FB4, 0x1FB4),
  (0x1FB6, 0x1FB7), (0x1FC2, 0x1FC2), (0x1FC4, 0x1FC4), (0x1FC6, 0x1FC7), (0x1FD2, 0x1FD2),
  (0x1FD6, 0x1FD7), (0x1FE2, 0x1FE2), (0x1FE4, 0x1FE4), (0x1FE6, 0x1FE7), (0x1FF2, 0x1FF2),
  (0x1FF4, 0x1FF4), (0x1FF6, 0x1FF7), (0xFB00, 0xFB04), (0xFB13, 0xFB17)]⟩

def longFold : CharSet := ⟨[
  (0xDF, 0xDF), (0x130, 0x130), (0x149, 0x149), (0x587, 0x587), (0x1E9A, 0x1E9A), (0x1F80, 0x1F87),
  (0x1F90, 0x1F97), (0x1FA0, 0x1FA7), (0x1FB2, 0x1FB4), (0x1FB7, 0x1FB7), (0x1FC2, 0x1FC4),
  (0x1FC7, 0x1FC7), (0x1FF2, 0x1FF4), (0x1FF7, 0x1FF7), (0xFB00, 0xFB04), (0xFB06, 0xFB06),
  (0xFB13, 0xFB17)]⟩

def respelled : CharSet := ⟨[(0x1FBE, 0x1FBE), (0x1FD3, 0x1FD3), (0x1FE3, 0x1FE3)]⟩

-- Letters with capitals that no word begins with alone.
def mkhedruli : CharSet := ⟨[(0x10D0, 0x10FA), (0x10FD, 0x10FF)]⟩

def mtavruli : CharSet := ⟨[(0x1C90, 0x1CBA), (0x1CBD, 0x1CBF)]⟩

-- Capital pairs of letters, only the first of which stays capital in front of a word.
def pairCapital : CharSet := ⟨[(0x1C4, 0x1C4), (0x1C7, 0x1C7), (0x1CA, 0x1CA), (0x1F1, 0x1F1)]⟩

def lowers : CharSet :=
  .either (twinned.both (.either uppercase GeneralCategory.titlecaseLetter)) (.range 0x130 0x130)

def uppers : CharSet := .either (twinned.without uppercase) longCapital

def titles : CharSet :=
  .either (uppers.without (.either GeneralCategory.titlecaseLetter mkhedruli)) pairCapital

def folds : CharSet := (CharSet.either folding longFold).without respelled

def caseMapped : CharSet := .unionOf [lowers, uppers, titles]

def word : CharSet :=
  .unionOf [alphabetic, GeneralCategory.mark, GeneralCategory.decimalNumber,
    GeneralCategory.connectorPunctuation, joinControl]

def all : List NamedSet :=
  [⟨["asciihexdigit", "ahex"], asciiHexDigit⟩,
    ⟨["alphabetic", "alpha"], alphabetic⟩,
    ⟨["bidicontrol", "bidic"], bidiControl⟩,
    ⟨["bidimirrored", "bidim"], bidiMirrored⟩,
    ⟨["caseignorable", "ci"], caseIgnorable⟩,
    ⟨["cased"], cased⟩,
    ⟨["changeswhencasefolded", "cwcf"], folds⟩,
    ⟨["changeswhencasemapped", "cwcm"], caseMapped⟩,
    ⟨["changeswhenlowercased", "cwl"], lowers⟩,
    ⟨["changeswhentitlecased", "cwt"], titles⟩,
    ⟨["changeswhenuppercased", "cwu"], uppers⟩,
    ⟨["dash"], dash⟩,
    ⟨["defaultignorablecodepoint", "di"], defaultIgnorable⟩,
    ⟨["deprecated", "dep"], deprecated⟩,
    ⟨["diacritic", "dia"], diacritic⟩,
    ⟨["emoji"], emoji⟩,
    ⟨["emojicomponent", "ecomp"], emojiComponent⟩,
    ⟨["emojimodifier", "emod"], emojiModifier⟩,
    ⟨["emojimodifierbase", "ebase"], emojiModifierBase⟩,
    ⟨["emojipresentation", "epres"], emojiPresentation⟩,
    ⟨["extendedpictographic", "extpict"], extendedPictographic⟩,
    ⟨["extender", "ext"], extender⟩,
    ⟨["graphemebase", "grbase"], graphemeBase⟩,
    ⟨["graphemeextend", "grext"], graphemeExtend⟩,
    ⟨["graphemelink", "grlink"], graphemeLink⟩,
    ⟨["hexdigit", "hex"], hexDigit⟩,
    ⟨["hyphen"], hyphen⟩,
    ⟨["idcompatmathcontinue"], idCompatMathContinue⟩,
    ⟨["idcompatmathstart"], idCompatMathStart⟩,
    ⟨["idcontinue", "idc"], idContinue⟩,
    ⟨["idstart", "ids"], idStart⟩,
    ⟨["idsbinaryoperator", "idsb"], idsBinaryOperator⟩,
    ⟨["idstrinaryoperator", "idst"], idsTrinaryOperator⟩,
    ⟨["idsunaryoperator", "idsu"], idsUnaryOperator⟩,
    ⟨["ideographic", "ideo"], ideographic⟩,
    ⟨["joincontrol", "joinc"], joinControl⟩,
    ⟨["logicalorderexception", "loe"], logicalOrderException⟩,
    ⟨["lowercase", "lower"], lowercase⟩,
    ⟨["math"], math⟩,
    ⟨["modifiercombiningmark", "mcm"], modifierCombiningMark⟩,
    ⟨["noncharactercodepoint", "nchar"], noncharacter⟩,
    ⟨["otheralphabetic", "oalpha"], otherAlphabetic⟩,
    ⟨["otherdefaultignorablecodepoint", "odi"], otherDefaultIgnorable⟩,
    ⟨["othergraphemeextend", "ogrext"], otherGraphemeExtend⟩,
    ⟨["otheridcontinue", "oidc"], otherIdContinue⟩,
    ⟨["otheridstart", "oids"], otherIdStart⟩,
    ⟨["otherlowercase", "olower"], otherLowercase⟩,
    ⟨["othermath", "omath"], otherMath⟩,
    ⟨["otheruppercase", "oupper"], otherUppercase⟩,
    ⟨["patternsyntax", "patsyn"], patternSyntax⟩,
    ⟨["patternwhitespace", "patws"], patternWhiteSpace⟩,
    ⟨["prependedconcatenationmark", "pcm"], prependedConcatenationMark⟩,
    ⟨["quotationmark", "qmark"], quotationMark⟩,
    ⟨["radical"], radical⟩,
    ⟨["regionalindicator", "ri"], regionalIndicator⟩,
    ⟨["sentenceterminal", "sterm"], sentenceTerminal⟩,
    ⟨["softdotted", "sd"], softDotted⟩,
    ⟨["terminalpunctuation", "term"], terminalPunctuation⟩,
    ⟨["unifiedideograph", "uideo"], unifiedIdeograph⟩,
    ⟨["uppercase", "upper"], uppercase⟩,
    ⟨["variationselector", "vs"], variationSelector⟩,
    ⟨["whitespace", "wspace", "space"], whiteSpace⟩,
    ⟨["xidcontinue", "xidc"], xidContinue⟩,
    ⟨["xidstart", "xids"], xidStart⟩]

def find? (name : String) : Option CharSet := NamedSet.find? all name

end Deckwright.Trait
