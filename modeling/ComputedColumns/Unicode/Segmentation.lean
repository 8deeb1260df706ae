import ComputedColumns.Unicode.Property
import ComputedColumns.Unicode.Script

namespace ComputedColumns.Unicode

def ownScript (name : String) : Ranges := (script? name).getD []

def carriageReturn : Ranges := .ofHex "D"

def lineFeed : Ranges := .ofHex "A"

def joiner : Ranges := .ofHex "200D"

def formatCharacters : Ranges := ofCategories ["Cf"]

def numberSigns : Ranges := (listedProperty "prependedconcatenationmark").diff (.ofHex "70F")

def numeric : Ranges :=
  ((decimalDigits.diff (.ofHex "FF10-FF19")).union (.ofHex "66B-66C 19DA")).union numberSigns

def clusterPrepend : Ranges :=
  (listedProperty "prependedconcatenationmark").union
    (.ofHex "D4E 111C2-111C3 113D1 1193F 11941 11A3A 11A84-11A89 11D46 11F02")

def clusterExtend : Ranges := graphemeExtend.union (listedProperty "emojimodifier")

def clusterSpacingMark : Ranges :=
  ((ofCategories ["Mc"]).union (.ofHex "E33 EB3")).diff
    (clusterExtend.union
      (.ofHex "102B-102C 1038 1062-1064 1067-106D 1083 1087-108C 108F 109A-109C 1A61 1A63-1A64 AA7B AA7D
        11720-11721"))

def clusterControl : Ranges :=
  ((ofCategories ["Zl", "Zp", "Cc", "Cf"]).union
    ((listedProperty "defaultignorablecodepoint").diff assigned)).diff
      ((clusterExtend.union clusterPrepend).union (.ofHex "A D 200C-200D"))

/-- The syllables of Hangul without a last consonant are every 28th. -/
def openSyllables : Ranges := (List.range 399).map fun i => ⟨0xAC00 + 28 * i, 0xAC00 + 28 * i⟩

def clusterBreak? (name : String) : Option Ranges :=
  match name with
  | "cr" => some carriageReturn
  | "lf" => some lineFeed
  | "zwj" => some joiner
  | "control" | "cn" => some clusterControl
  | "extend" | "ex" => some clusterExtend
  | "prepend" | "pp" => some clusterPrepend
  | "regionalindicator" | "ri" => some (listedProperty "regionalindicator")
  | "spacingmark" | "sm" => some clusterSpacingMark
  | "l" => some (.ofHex "1100-115F A960-A97C")
  | "v" => some (.ofHex "1160-11A7 D7B0-D7C6 16D63 16D67-16D6A")
  | "t" => some (.ofHex "11A8-11FF D7CB-D7FB")
  | "lv" => some openSyllables
  | "lvt" => some ((Ranges.ofHex "AC00-D7A3").diff openSyllables)
  | _ => none

def wordExtend : Ranges := (clusterExtend.union (ofCategories ["Mc"])).diff joiner

def wordNumeric : Ranges := (numeric.union (.ofHex "FF10-FF19")).diff (.ofHex "66C")

def wordKatakana : Ranges :=
  (ownScript "katakana").union (.ofHex "3031-3035 309B-309C 30A0 30FC FF70")

def hebrewLetters : Ranges := (ownScript "hebrew").inter (ofCategories ["Lo"])

def unspacedLetters : Ranges :=
  .ofHex "E01-E30 E32-E33 E40-E46 E81-E82 E84 E86-E8A E8C-EA3 EA5 EA7-EB0 EB2-EB3 EBD EC0-EC4 EC6 EDC-EDF
    1000-102A 103F 1050-1055 105A-105D 1061 1065-1066 106E-1070 1075-1081 108E 1780-17B3 17D7 17DC
    1950-196D 1970-1974 1980-19AB 19B0-19C9 1A20-1A54 1AA7 A9E0-A9E4 A9E6-A9EF A9FA-A9FE AA60-AA76 AA7A
    AA7E-AAAF AAB1 AAB5-AAB6 AAB9-AABD AAC0 AAC2 AADB-AADD 11700-1171A 11740-11746"

def letterSigns : Ranges :=
  .ofHex "2C2-2C5 2D2-2D7 2DE-2DF 2E5-2EB 2ED 2EF-2FF 55A-55C 55E 58A 5F3 70F A708-A716 A720-A721
    A789-A78A AB5B"

def wordLetters : Ranges :=
  (alphabetic.union letterSigns).diff
    (((listedProperty "ideographic").union (ownScript "hiragana")).union
      ((wordKatakana.union hebrewLetters).union (unspacedLetters.union wordExtend)))

def wordFormat : Ranges :=
  formatCharacters.diff ((clusterPrepend.union wordExtend).union (.ofHex "200B-200D"))

def wordBreak? (name : String) : Option Ranges :=
  match name with
  | "cr" => some carriageReturn
  | "lf" => some lineFeed
  | "zwj" => some joiner
  | "newline" | "nl" => some (.ofHex "B-C 85 2028-2029")
  | "doublequote" | "dq" => some (.ofHex "22")
  | "singlequote" | "sq" => some (.ofHex "27")
  | "extend" => some wordExtend
  | "format" | "fo" => some wordFormat
  | "regionalindicator" | "ri" => some (listedProperty "regionalindicator")
  | "katakana" | "ka" => some wordKatakana
  | "hebrewletter" | "hl" => some hebrewLetters
  | "aletter" | "le" => some wordLetters
  | "midletter" | "ml" => some (.ofHex "3A B7 387 55F 5F4 2027 FE13 FE55 FF1A")
  | "midnumlet" | "mb" => some (.ofHex "2E 2018-2019 2024 FE52 FF07 FF0E")
  | "midnum" | "mn" =>
    some (.ofHex "2C 3B 37E 589 60C-60D 66C 7F8 2044 FE50 FE54 FF0C FF1B")
  | "numeric" | "nu" => some wordNumeric
  | "extendnumlet" | "ex" => some ((ofCategories ["Pc"]).union (.ofHex "202F"))
  | "wsegspace" => some ((ofCategories ["Zs"]).diff (.ofHex "A0 2007 202F"))
  | _ => none

def sentenceExtend : Ranges :=
  (graphemeExtend.union (ofCategories ["Mc"])).union joiner

def sentenceNumeric : Ranges := numeric.union (.ofHex "FF10-FF19")

/-- Georgian letters are lower case in a text without being so in a sentence. -/
def sentenceLower : Ranges :=
  (lowercase.diff graphemeExtend).diff (.ofHex "10D0-10FA 10FD-10FF")

def sentenceUpper : Ranges :=
  ((ofCategories ["Lt"]).union uppercase).diff (.ofHex "1C90-1CBA 1CBD-1CBF")

def sentenceLetters : Ranges :=
  (alphabetic.union (.ofHex "5F3")).diff
    ((sentenceLower.union sentenceUpper).union sentenceExtend)

def periods : Ranges := .ofHex "2E 2024 FE52 FF0E"

def sentenceTerminators : Ranges := (listedProperty "sentenceterminal").diff periods

def sentenceClose : Ranges :=
  ((ofCategories ["Ps", "Pe", "Pi", "Pf"]).union
    (.ofHex "22 27 275B-2760 2E00-2E01 2E06-2E08 2E0B 1F676-1F678")).diff
      (periods.union sentenceTerminators)

def sentenceBreak? (name : String) : Option Ranges :=
  match name with
  | "cr" => some carriageReturn
  | "lf" => some lineFeed
  | "sep" | "se" => some (.ofHex "85 2028-2029")
  | "sp" => some ((ofCategories ["Zs"]).union (.ofHex "9 B-C"))
  | "extend" | "ex" => some sentenceExtend
  | "format" | "fo" =>
    some (formatCharacters.diff ((sentenceExtend.union sentenceNumeric).union (.ofHex "200C")))
  | "lower" | "lo" => some sentenceLower
  | "upper" | "up" => some sentenceUpper
  | "oletter" | "le" => some sentenceLetters
  | "numeric" | "nu" => some sentenceNumeric
  | "aterm" | "at" => some periods
  | "sterm" | "st" => some sentenceTerminators
  | "scontinue" | "sc" =>
    some (.ofHex "2C-2D 3A-3B 37E 55D 60C-60D 7F8 1802 1808 2013-2014 3001 FE10-FE11 FE13-FE14 FE31-FE32
      FE50-FE51 FE54-FE55 FE58 FE63 FF0C-FF0D FF1A-FF1B FF64")
  | "close" | "cl" => some sentenceClose
  | _ => none

end ComputedColumns.Unicode
