import OpcodeTables.Text.CharSet.Property
import OpcodeTables.Text.CharSet.Script

/-!
# Classes for segmentation

Unicode sorts the characters into classes that decide where one cluster, one word
or one sentence ends and the next begins.  Most classes follow from other
properties; characters outside every class ask for no special treatment.
-/

namespace OpcodeTables.CharSet

def carriageReturn : CharSet := .ofChar '\r'

def lineFeed : CharSet := .ofChar '\n'

def zeroWidthJoiner : CharSet := .ofTable "200D"

def zeroWidthNonJoiner : CharSet := .ofTable "200C"

/-! ## Clusters -/

/-- The characters that a cluster with the next character begins with. -/
def clusterStarts : CharSet :=
  union prependedMarks
    (.ofTable "D4E 111C2-111C3 113D1 1193F 11941 11A3A 11A84-11A89 11D46 11F02")

def clusterControls : CharSet :=
  without
    (unionAll
      [Category.charsOfAll [.lineSeparator, .paragraphSeparator, .control, .format],
        intersection (Category.chars .unassigned) defaultIgnorable])
    [carriageReturn, lineFeed, zeroWidthNonJoiner, zeroWidthJoiner, prependedMarks,
      graphemeExtenders]

def clusterExtenders : CharSet := without (union graphemeExtenders emojiModifiers) [zeroWidthJoiner]

/-- Marks that take up room and yet stand outside the cluster in front of them. -/
def separateMarks : CharSet :=
  .ofTable
    "102B-102C 1038 1062-1064 1067-106D 1083 1087-108C 108F 109A-109C 1A61 1A63-1A64 AA7B AA7D
    11720-11721"

def clusterMarks : CharSet :=
  without (union (Category.chars .spacingMark) (.ofTable "E33 EB3"))
    [clusterExtenders, separateMarks]

/-- The syllables of Hangul without a final consonant. -/
def openSyllables : CharSet :=
  .ofCodePoints ((List.range 399).map fun index => 0xAC00 + 28 * index)

def syllables : CharSet := .ofTable "AC00-D7A3"

/-- The classes of characters by which texts are divided into clusters. -/
def clusterBreaks : List (List String × CharSet) :=
  [(["cn", "control"], clusterControls),
    (["cr"], carriageReturn),
    (["ex", "extend"], clusterExtenders),
    (["l"], .ofTable "1100-115F A960-A97C"),
    (["lf"], lineFeed),
    (["lv"], openSyllables),
    (["lvt"], without syllables [openSyllables]),
    (["pp", "prepend"], clusterStarts),
    (["ri", "regionalindicator"], regionalIndicators),
    (["sm", "spacingmark"], clusterMarks),
    (["t"], .ofTable "11A8-11FF D7CB-D7FB"),
    (["v"], .ofTable "1160-11A7 D7B0-D7C6 16D63 16D67-16D6A"),
    (["zwj"], zeroWidthJoiner)]

/-! ## Words -/

def wordExtenders : CharSet :=
  without (unionAll [graphemeExtenders, Category.chars .spacingMark, emojiModifiers])
    [zeroWidthJoiner]

/-- The digits, and the marks that stand in front of a number. -/
def numeric : CharSet :=
  unionAll [decimal, .ofTable "66B-66C", without prependedMarks [.ofTable "70F"]]

def katakana : CharSet :=
  union (Script.charsWithCode "kana") (.ofTable "3031-3035 309B-309C 30A0 30FC FF70")

def hebrewLetters : CharSet :=
  intersection (Script.charsWithCode "hebr") (Category.chars .otherLetter)

/-- Letters of scripts that put no blanks between words. -/
def unspacedLetters : CharSet :=
  .ofTable
    "E01-E30 E32-E33 E40-E46 E81-E82 E84 E86-E8A E8C-EA3 EA5 EA7-EB0 EB2-EB3 EBD EC0-EC4 EC6
    EDC-EDF 1000-102A 103F 1050-1055 105A-105D 1061 1065-1066 106E-1070 1075-1081 108E
    109E-109F 1780-17B3 17D7 17DC 1950-196D 1970-1974 1980-19AB 19B0-19C9 19DA 19DE-19DF
    1A20-1A54 1AA0-1AAD A9E0-A9E4 A9E6-A9EF A9FA-A9FE AA60-AA7A AA7E-AAAF AAB1 AAB5-AAB6
    AAB9-AABD AAC0 AAC2 AADB-AADF 11700-1171A 1173A-1173B 1173F-11746"

/-- Signs that count as letters of a word. -/
def letterSigns : CharSet :=
  .ofTable
    "2C2-2C5 2D2-2D7 2DE-2DF 2E5-2EB 2ED 2EF-2FF 55A-55C 55E 58A 5F3 70F A708-A716 A720-A721
    A789-A78A AB5B"

def wordLetters : CharSet :=
  without (union alphabetic letterSigns)
    [ideographs, katakana, unspacedLetters, Script.charsWithCode "hira", wordExtenders,
      hebrewLetters]

def wordFormats : CharSet :=
  without (Category.chars .format)
    [.ofTable "200B", zeroWidthNonJoiner, zeroWidthJoiner, prependedMarks, wordExtenders]

/-- The classes of characters by which texts are divided into words. -/
def wordBreaks : List (List String × CharSet) :=
  [(["cr"], carriageReturn),
    (["dq", "doublequote"], .ofChar '"'),
    (["extend"], wordExtenders),
    (["ex", "extendnumlet"], union (Category.chars .connectorPunctuation) (.ofTable "202F")),
    (["fo", "format"], wordFormats),
    (["hl", "hebrewletter"], hebrewLetters),
    (["ka", "katakana"], katakana),
    (["le", "aletter"], wordLetters),
    (["lf"], lineFeed),
    (["mb", "midnumlet"], .ofTable "2E 2018-2019 2024 FE52 FF07 FF0E"),
    (["ml", "midletter"], .ofTable "3A B7 387 55F 5F4 2027 FE13 FE55 FF1A"),
    (["mn", "midnum"], .ofTable "2C 3B 37E 589 60C-60D 66C 7F8 2044 FE10 FE14 FE50 FE54 FF0C FF1B"),
    (["nl", "newline"], .ofTable "B-C 85 2028-2029"),
    (["nu", "numeric"], without numeric [.ofTable "66C"]),
    (["ri", "regionalindicator"], regionalIndicators),
    (["sq", "singlequote"], .ofChar '\''),
    (["wsegspace"], .ofTable "20 1680 2000-2006 2008-200A 205F 3000"),
    (["zwj"], zeroWidthJoiner)]

/-! ## Sentences -/

def sentenceExtenders : CharSet :=
  unionAll [graphemeExtenders, Category.chars .spacingMark, zeroWidthJoiner]

def fullStops : CharSet := .ofTable "2E 2024 FE52 FF0E"

def sentenceEnds : CharSet := without sentenceTerminals [fullStops]

/-- Capitals of Georgian are no sign of a new sentence. -/
def sentenceCapitals : CharSet :=
  without (union (Category.chars .titlecaseLetter) uppercase) [.ofTable "1C90-1CBA 1CBD-1CBF"]

def sentenceSmallLetters : CharSet :=
  without lowercase [graphemeExtenders, .ofTable "10D0-10FA 10FD-10FF"]

def sentenceLetters : CharSet :=
  without (union alphabetic (.ofTable "5F3"))
    [sentenceSmallLetters, sentenceCapitals, sentenceExtenders]

def quotes : CharSet :=
  union (Category.charsOfAll [.initialPunctuation, .finalPunctuation])
    (.ofTable "22 27 275B-2760 2E00-2E01 2E06-2E08 2E0B 1F676-1F678")

def lineSeparators : CharSet := .ofTable "85 2028-2029"

/-- The classes of characters by which texts are divided into sentences. -/
def sentenceBreaks : List (List String × CharSet) :=
  [(["at", "aterm"], fullStops),
    (["cl", "close"],
      without (union (Category.charsOfAll [.openPunctuation, .closePunctuation]) quotes)
        [fullStops, sentenceEnds]),
    (["cr"], carriageReturn),
    (["ex", "extend"], sentenceExtenders),
    (["fo", "format"],
      without (Category.chars .format)
        [zeroWidthNonJoiner, zeroWidthJoiner, numeric, sentenceExtenders]),
    (["le", "oletter"], sentenceLetters),
    (["lf"], lineFeed),
    (["lo", "lower"], sentenceSmallLetters),
    (["nu", "numeric"], numeric),
    (["sc", "scontinue"],
      .ofTable
        "2C-2D 3A-3B 37E 55D 60C-60D 7F8 1802 1808 2013-2014 3001 FE10-FE11 FE13-FE14 FE31-FE32
        FE50-FE51 FE54-FE55 FE58 FE63 FF0C-FF0D FF1A-FF1B FF64"),
    (["se", "sep"], lineSeparators),
    (["sp"], without blanks [carriageReturn, lineFeed, lineSeparators]),
    (["st", "sterm"], sentenceEnds),
    (["up", "upper"], sentenceCapitals)]

end OpcodeTables.CharSet
