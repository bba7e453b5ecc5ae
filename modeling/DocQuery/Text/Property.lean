import DocQuery.Text.Blank
import DocQuery.Text.Category
import DocQuery.Text.Trait

/-!
# Derived traits of characters

Traits that follow from the general category and a list of exceptions, and the names under which
all traits are looked up: in lower case, without blanks, hyphens and underscores.
-/

namespace DocQuery.Text

/-! ## Case -/

def lowercase : CharSet := (ofCategories ["ll"]).union otherLowercase

def uppercase : CharSet := (ofCategories ["lu"]).union otherUppercase

def cased : CharSet := .unions [lowercase, uppercase, ofCategories ["lt"]]

/-- Characters with a lower-case form other than themselves. -/
def lowered : CharSet := (uppercase.union (ofCategories ["lt"])).diff uncasedUpper

def raised : CharSet := ((ofCategories ["ll"]).diff uncasedLower).union otherRaised

def titled : CharSet := (raised.diff raisedNotTitled).union titledNotRaised

def foldChanged : CharSet := (lowered.diff loweredNotFolded).union foldedNotLowered

/-! ## Letters and identifiers -/

def alphabetic : CharSet :=
  .unions [lowercase, uppercase, ofCategories ["lt", "lm", "lo", "nl"], otherAlphabetic]

def mathematical : CharSet := (ofCategories ["sm"]).union otherMath

/-- Characters that never stand in an identifier. -/
def patternChars : CharSet := patternSyntax.union patternBlank

def idStart : CharSet :=
  (CharSet.unions [letterCategories, ofCategories ["nl"], otherIdStart]).diff patternChars

def idContinue : CharSet :=
  (CharSet.unions [idStart, ofCategories ["mn", "mc", "nd", "pc"], otherIdContinue]).diff
    patternChars

/-! ## Marks -/

/-- Characters that are not shown where they are not supported. -/
def ignorable : CharSet :=
  (CharSet.unions [otherIgnorable, ofCategories ["cf"], variationSelector]).diff
    (.unions [blanks, ⟨[(0xFFF9, 0xFFFB), (0x13430, 0x13440)]⟩, prependedMark])

/-- Characters that join the one before them. -/
def graphemeExtend : CharSet := (ofCategories ["me", "mn"]).union otherGraphemeExtend

def graphemeBase : CharSet :=
  visibleCategories.diff ((ofCategories ["zl", "zp"]).union graphemeExtend)

/-- Punctuation that stands inside of words. -/
def innerPunctuation : CharSet := .ofTable
  ["27 2E 3A B7 387 55F 5F4 2018-2019 2024 2027 FE13 FE52 FE55 FF07 FF0E FF1A"]

/-- Characters that do not tell where a word begins for the sake of case. -/
def caseIgnorable : CharSet :=
  (ofCategories ["mn", "me", "cf", "lm", "sk"]).union innerPunctuation

/-! ## Names -/

def traits : List NamedSet :=
  [ ⟨["ahex", "asciihexdigit"], .ofTable ["30-39 41-46 61-66"]⟩,
    ⟨["alpha", "alphabetic"], alphabetic⟩,
    ⟨["bidic", "bidicontrol"], bidiControl⟩,
    ⟨["bidim", "bidimirrored"], turnedRound⟩,
    ⟨["ci", "caseignorable"], caseIgnorable⟩,
    ⟨["cased"], cased⟩,
    ⟨["cwcf", "changeswhencasefolded"], foldChanged⟩,
    ⟨["cwcm", "changeswhencasemapped"], .unions [lowered, raised, titled]⟩,
    ⟨["cwl", "changeswhenlowercased"], lowered⟩,
    ⟨["cwt", "changeswhentitlecased"], titled⟩,
    ⟨["cwu", "changeswhenuppercased"], raised⟩,
    ⟨["dash"], dash⟩,
    ⟨["dep", "deprecated"], deprecatedChars⟩,
    ⟨["di", "defaultignorablecodepoint"], ignorable⟩,
    ⟨["dia", "diacritic"], diacritic⟩,
    ⟨["ebase", "emojimodifierbase"], emojiModifierBase⟩,
    ⟨["ecomp", "emojicomponent"], emojiComponent⟩,
    ⟨["emod", "emojimodifier"], emojiModifier⟩,
    ⟨["emoji"], emoji⟩,
    ⟨["epres", "emojipresentation"], emojiPresentation⟩,
    ⟨["ext", "extender"], extender⟩,
    ⟨["extpict", "extendedpictographic"], pictographic⟩,
    ⟨["grbase", "graphemebase"], graphemeBase⟩,
    ⟨["grext", "graphemeextend"], graphemeExtend⟩,
    ⟨["grlink", "graphemelink"], graphemeLink⟩,
    ⟨["hex", "hexdigit"], .ofTable ["30-39 41-46 61-66 FF10-FF19 FF21-FF26 FF41-FF46"]⟩,
    ⟨["hyphen"], hyphenLike⟩,
    ⟨["idcompatmathcontinue"], mathContinue⟩,
    ⟨["idcompatmathstart"], mathStart⟩,
    ⟨["idc", "idcontinue"], idContinue⟩,
    ⟨["ids", "idstart"], idStart⟩,
    ⟨["ideo", "ideographic"], ideographic⟩,
    ⟨["idsb", "idsbinaryoperator"], binaryDescription⟩,
    ⟨["idst", "idstrinaryoperator"], trinaryDescription⟩,
    ⟨["idsu", "idsunaryoperator"], unaryDescription⟩,
    ⟨["joinc", "joincontrol"], joinControl⟩,
    ⟨["loe", "logicalorderexception"], visualOrder⟩,
    ⟨["lower", "lowercase"], lowercase⟩,
    ⟨["math"], mathematical⟩,
    ⟨["mcm", "modifiercombiningmark"], combiningModifier⟩,
    ⟨["nchar", "noncharactercodepoint"], noncharacter⟩,
    ⟨["oalpha", "otheralphabetic"], otherAlphabetic⟩,
    ⟨["odi", "otherdefaultignorablecodepoint"], otherIgnorable⟩,
    ⟨["ogrext", "othergraphemeextend"], otherGraphemeExtend⟩,
    ⟨["oidc", "otheridcontinue"], otherIdContinue⟩,
    ⟨["oids", "otheridstart"], otherIdStart⟩,
    ⟨["olower", "otherlowercase"], otherLowercase⟩,
    ⟨["omath", "othermath"], otherMath⟩,
    ⟨["oupper", "otheruppercase"], otherUppercase⟩,
    ⟨["patsyn", "patternsyntax"], patternSyntax⟩,
    ⟨["patws", "patternwhitespace"], patternBlank⟩,
    ⟨["pcm", "prependedconcatenationmark"], prependedMark⟩,
    ⟨["qmark", "quotationmark"], quotationMark⟩,
    ⟨["radical"], radical⟩,
    ⟨["ri", "regionalindicator"], regionalIndicator⟩,
    ⟨["sd", "softdotted"], softDotted⟩,
    ⟨["sterm", "sentenceterminal"], sentenceTerminal⟩,
    ⟨["term", "terminalpunctuation"], terminalPunctuation⟩,
    ⟨["uideo", "unifiedideograph"], unifiedIdeograph⟩,
    ⟨["upper", "uppercase"], uppercase⟩,
    ⟨["vs", "variationselector"], variationSelector⟩,
    ⟨["wspace", "whitespace", "space"], blanks⟩,
    ⟨["xidc", "xidcontinue"], idContinue.diff unstableContinue⟩,
    ⟨["xids", "xidstart"], idStart.diff unstableStart⟩ ]

end DocQuery.Text
