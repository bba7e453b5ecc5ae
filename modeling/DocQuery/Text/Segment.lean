import DocQuery.Text.Property
import DocQuery.Text.WritingSystem

/-!
# Classes for cutting text into pieces

The classes by which text is cut into what a reader takes for one character, into words and into
sentences. Every class has its names in the form in which they are looked up.
-/

namespace DocQuery.Text

/-! ## Single characters -/

/-- The syllables without a final consonant, every twenty-eighth of the block. -/
def openSyllables : CharSet := ⟨(List.range 399).map fun n => (0xAC00 + 28 * n, 0xAC00 + 28 * n)⟩

def closedSyllables : CharSet :=
  ⟨(List.range 399).map fun n => (0xAC01 + 28 * n, 0xAC1B + 28 * n)⟩

/-- Spacing marks that do not join the character before them. -/
def standaloneMarks : CharSet := .ofTable
  ["102B-102C 1038 1062-1064 1067-106D 1083 1087-108C 108F 109A-109C 1A61 1A63-1A64 AA7B AA7D",
   "11720-11721"]

/-- Letters that join the character after them. -/
def prependedLetters : CharSet := .ofTable
  ["D4E 111C2-111C3 113D1 1193F 11941 11A3A 11A84-11A89 11D46 11F02"]

def clusterBreaks : List NamedSet :=
  [ ⟨["cn", "control"], controls⟩,
    ⟨["cr"], .ofTable ["D"]⟩,
    ⟨["ex", "extend"], graphemeExtend.union emojiModifier⟩,
    ⟨["l"], .ofTable ["1100-115F A960-A97C"]⟩,
    ⟨["lf"], .ofTable ["A"]⟩,
    ⟨["lv"], openSyllables⟩,
    ⟨["lvt"], closedSyllables⟩,
    ⟨["pp", "prepend"], prependedMark.union prependedLetters⟩,
    ⟨["ri", "regionalindicator"], regionalIndicator⟩,
    ⟨["sm", "spacingmark"],
      (((ofCategories ["mc"]).diff graphemeExtend).diff standaloneMarks).union
        (.ofTable ["E33 EB3"])⟩,
    ⟨["t"], .ofTable ["11A8-11FF D7CB-D7FB"]⟩,
    ⟨["v"], .ofTable ["1160-11A7 D7B0-D7C6 16D63 16D67-16D6A"]⟩,
    ⟨["zwj"], .ofTable ["200D"]⟩ ]
where
  controls : CharSet :=
    (CharSet.unions [ofCategories ["zl", "zp", "cc", "cf"], assigned.compl.inter ignorable]).diff
      (.unions [.ofTable ["A D 200C-200D"], prependedMark, graphemeExtend.union emojiModifier])

/-! ## Words -/

/-- Numbers for cutting, beyond the decimal digits. -/
def otherNumeric : CharSet := .ofTable
  ["600-605 66B 6DD 890-891 8E2 19DA 110BD 110CD"]

/-- Letters of words that are not alphabetic. -/
def otherWordLetters : CharSet := .ofTable
  ["2C2-2C5 2D2-2D7 2DE-2DF 2E5-2EB 2ED 2EF-2FF 55A-55C 55E 58A 5F3 70F A708-A716 A720-A721",
   "A789-A78A AB5B"]

/-- Letters of writing systems that do not part words. -/
def unpartedLetters : CharSet := .ofTable
  ["E01-E30 E32-E33 E40-E46 E81-E82 E84 E86-E8A E8C-EA3 EA5 EA7-EB0 EB2-EB3 EBD EC0-EC4 EC6",
   "EDC-EDF 1000-102A 103F 1050-1055 105A-105D 1061 1065-1066 106E-1070 1075-1081 108E",
   "1780-17B3 17D7 17DC 1950-196D 1970-1974 1980-19AB 19B0-19C9 1A20-1A54 1AA7 A9E0-A9E4",
   "A9E6-A9EF A9FA-A9FE AA60-AA76 AA7A AA7E-AAAF AAB1 AAB5-AAB6 AAB9-AABD AAC0 AAC2 AADB-AADD",
   "11700-1171A 11740-11746"]

/-- The tags that spell out regions. -/
def tags : CharSet := ⟨[(0xE0020, 0xE007F)]⟩

def wordBreaks : List NamedSet :=
  [ ⟨["cr"], .ofTable ["D"]⟩,
    ⟨["dq", "doublequote"], .ofTable ["22"]⟩,
    ⟨["ex", "extendnumlet"], (ofCategories ["pc"]).union (.ofTable ["202F"])⟩,
    ⟨["extend"], extend⟩,
    ⟨["fo", "format"],
      (ofCategories ["cf"]).diff (.unions [.ofTable ["200B-200D"], prependedMark, tags])⟩,
    ⟨["hl", "hebrewletter"], hebrew⟩,
    ⟨["ka", "katakana"], katakana⟩,
    ⟨["le", "aletter"],
      (alphabetic.diff
        (.unions [ideographic, katakana, hiragana, extend, hebrew, unpartedLetters])).union
          otherWordLetters⟩,
    ⟨["lf"], .ofTable ["A"]⟩,
    ⟨["mb", "midnumlet"], .ofTable ["2E 2018-2019 2024 FE52 FF07 FF0E"]⟩,
    ⟨["ml", "midletter"], .ofTable ["3A B7 387 55F 5F4 2027 FE13 FE55 FF1A"]⟩,
    ⟨["mn", "midnum"],
      .ofTable ["2C 3B 37E 589 60C-60D 66C 7F8 2044 FE50 FE54 FF0C FF1B"]⟩,
    ⟨["nl", "newline"], .ofTable ["B-C 85 2028-2029"]⟩,
    ⟨["nu", "numeric"], (ofCategories ["nd"]).union otherNumeric⟩,
    ⟨["ri", "regionalindicator"], regionalIndicator⟩,
    ⟨["sq", "singlequote"], .ofTable ["27"]⟩,
    ⟨["wsegspace"], .ofTable ["20 1680 2000-2006 2008-200A 205F 3000"]⟩,
    ⟨["zwj"], .ofTable ["200D"]⟩ ]
where
  extend : CharSet :=
    (CharSet.unions [graphemeExtend, ofCategories ["mc"], emojiModifier]).diff (.ofTable ["200D"])
  hebrew : CharSet := (NamedSet.unionOf writingSystems ["hebr"]).inter (ofCategories ["lo"])
  hiragana : CharSet := NamedSet.unionOf writingSystems ["hira"]
  katakana : CharSet :=
    (NamedSet.unionOf writingSystems ["kana"]).union
      (.ofTable ["3031-3035 309B-309C 30A0 30FC FF70"])

/-! ## Sentences -/

def sentenceBreaks : List NamedSet :=
  [ ⟨["at", "aterm"], abbreviation⟩,
    ⟨["cl", "close"],
      (ofCategories ["ps", "pe", "pi", "pf"]).union
        (.ofTable ["22 27 275B-2760 2E00-2E01 2E06-2E08 2E0B 1F676-1F678"])⟩,
    ⟨["cr"], .ofTable ["D"]⟩,
    ⟨["ex", "extend"], extend⟩,
    ⟨["fo", "format"],
      (ofCategories ["cf"]).diff (.unions [.ofTable ["200C-200D"], enclosing, tags])⟩,
    ⟨["le", "oletter"],
      (alphabetic.union (.ofTable ["5F3"])).diff (.unions [lower, upper, extend])⟩,
    ⟨["lf"], .ofTable ["A"]⟩,
    ⟨["lo", "lower"], lower⟩,
    ⟨["nu", "numeric"],
      .unions [ofCategories ["nd"], otherNumeric, .ofTable ["66C"]]⟩,
    ⟨["sc", "scontinue"],
      .ofTable
        ["2C-2D 3A-3B 37E 55D 60C-60D 7F8 1802 1808 2013-2014 3001 FE10-FE11 FE13-FE14 FE31-FE32",
         "FE50-FE51 FE54-FE55 FE58 FE63 FF0C-FF0D FF1A-FF1B FF64"]⟩,
    ⟨["se", "sep"], .ofTable ["85 2028-2029"]⟩,
    ⟨["sp"], blanks.diff (.ofTable ["A D 85 2028-2029"])⟩,
    ⟨["st", "sterm"], sentenceTerminal.diff abbreviation⟩,
    ⟨["up", "upper"], upper⟩ ]
where
  abbreviation : CharSet := .ofTable ["2E 2024 FE52 FF0E"]
  enclosing : CharSet := .ofTable ["600-605 6DD 890-891 8E2 110BD 110CD"]
  extend : CharSet := .unions [graphemeExtend, ofCategories ["mc"], .ofTable ["200D"]]
  lower : CharSet := lowercase.diff (graphemeExtend.union (.ofTable ["10D0-10FA 10FD-10FF"]))
  upper : CharSet :=
    (uppercase.union (ofCategories ["lt"])).diff (.ofTable ["1C90-1CBA 1CBD-1CBF"])

end DocQuery.Text
