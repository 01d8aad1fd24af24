import Overlay.Pattern.Property

/-!
Classes of characters in the rules for the ends of graphemes, words and
sentences. The classes are made of categories, properties and scripts, and of
single characters that no category tells apart.
-/

namespace Overlay.Pattern

def lineFeed : Ranges := [(0x0A, 0x0A)]

def carriageReturn : Ranges := [(0x0D, 0x0D)]

def zeroWidthJoiner : Ranges := [(0x200D, 0x200D)]

/-- Characters that extend the one before them. -/
def extenders : Ranges :=
  ((property "graphemeextend").union (property "emojimodifier")).diff zeroWidthJoiner

/-- Hangul syllables without a final consonant. They are the first of each 28
that share an initial consonant and a vowel. -/
def openSyllables : Ranges :=
  (List.range 399).map fun k => (0xAC00 + 28 * k, 0xAC00 + 28 * k)

/-- Vowels that join the syllable before them, of Hangul and of Kirat Rai. -/
def joiningVowels : Ranges := .ofHex "1160-11A7 D7B0-D7C6 16D63 16D67-16D6A"

/-- Signs that stand before the characters they belong to. -/
def prepended : Ranges :=
  (property "prependedconcatenationmark").union
    (.ofHex "D4E 111C2-111C3 113D1 1193F 11941 11A3A 11A84-11A89 11D46 11F02")

/-- Spacing marks at which a grapheme may end. -/
def looseMarks : Ranges := .ofRows
  ["102B-102C 1038 1062-1064 1067-106D 1083 1087-108C 108F 109A-109C 1A61 1A63-1A64 AA7B",
   "AA7D 11720-11721"]

/-- A class of the rules for graphemes, by one of its names. -/
def graphemeClass? (name : String) : Option Ranges :=
  match name with
  | "cn" | "control" =>
    some (((categories ["cc", "cf", "zl", "zp"]).union
      (unassigned.inter (property "defaultignorablecodepoint"))).diff
      (Ranges.normal (lineFeed ++ carriageReturn ++ zeroWidthJoiner ++ extenders ++ prepended)))
  | "cr" => some carriageReturn
  | "ex" | "extend" => some extenders
  | "l" => some (.ofHex "1100-115F A960-A97C")
  | "lf" => some lineFeed
  | "lv" => some openSyllables
  | "lvt" => some (Ranges.diff [(0xAC00, 0xD7A3)] openSyllables)
  | "pp" | "prepend" => some prepended
  | "ri" | "regionalindicator" => some (property "regionalindicator")
  | "sm" | "spacingmark" =>
    some (((categories ["mc"]).union [(0xE33, 0xE33), (0xEB3, 0xEB3)]).diff
      (Ranges.normal (looseMarks ++ extenders ++ joiningVowels)))
  | "t" => some (.ofHex "11A8-11FF D7CB-D7FB")
  | "v" => some joiningVowels
  | "zwj" => some zeroWidthJoiner
  | _ => none

/-- Marks and other characters that belong to the one before them in a word
or a sentence. -/
def attached : Ranges := extenders.union (categories ["mc"])

/-- Digits, and signs that are written among digits. -/
def numerals : Ranges :=
  (categories ["nd"]).union
    (.ofHex "600-605 66B-66C 6DD 890-891 8E2 19DA 110BD 110CD")

/-- The Arabic sign between thousands. -/
def thousandsSign : Ranges := [(0x66C, 0x66C)]

def katakana : Ranges :=
  ((script? "kana").getD []).union (.ofHex "3031-3035 309B-309C 30A0 30FC FF70")

def hebrewLetters : Ranges := ((script? "hebr").getD []).inter (categories ["lo"])

/-- Scripts whose words are not kept apart, or not by spaces alone. -/
def unspacedScripts : List String :=
  ["ahom", "hira", "khmr", "lana", "laoo", "mymr", "tale", "talu", "tavt", "thai"]

/-- Signs that are letters inside of words. -/
def letterSigns : Ranges := .ofRows
  ["B8 2C2-2C5 2D2-2D7 2DE-2DF 2E5-2EB 2ED 2EF-2FF 55A-55C 55E 58A 5F3 70F A708-A716",
   "A720-A721 A789-A78A AB5B"]

/-- Letters of the scripts in which spaces or signs end the words. -/
def spacedLetters : Ranges :=
  ((property "alphabetic").union letterSigns).diff
    (Ranges.normal (property "ideographic" ++ katakana ++ hebrewLetters ++ attached ++
      unspacedScripts.flatMap fun s => (script? s).getD []))

/-- A class of the rules for words, by one of its names. -/
def wordClass? (name : String) : Option Ranges :=
  match name with
  | "cr" => some carriageReturn
  | "dq" | "doublequote" => some [(0x22, 0x22)]
  | "ex" | "extendnumlet" => some ((categories ["pc"]).union [(0x202F, 0x202F)])
  | "extend" => some attached
  | "fo" | "format" =>
    some ((categories ["cf"]).diff (Ranges.normal ([(0x200B, 0x200D)] ++ attached ++
      property "prependedconcatenationmark")))
  | "hl" | "hebrewletter" => some hebrewLetters
  | "ka" | "katakana" => some katakana
  | "le" | "aletter" => some spacedLetters
  | "lf" => some lineFeed
  | "mb" | "midnumlet" => some (.ofHex "2E 2018-2019 2024 FE52 FF07 FF0E")
  | "ml" | "midletter" => some (.ofHex "3A B7 387 55F 5F4 2027 FE13 FE55 FF1A")
  | "mn" | "midnum" =>
    some ((Ranges.ofHex "2C 3B 37E 589 60C-60D 7F8 2044 FE10 FE14 FE50 FE54 FF0C FF1B").union
      thousandsSign)
  | "nl" | "newline" => some (.ofHex "B-C 85 2028-2029")
  | "nu" | "numeric" => some (numerals.diff thousandsSign)
  | "ri" | "regionalindicator" => some (property "regionalindicator")
  | "sq" | "singlequote" => some [(0x27, 0x27)]
  | "wsegspace" => some ((categories ["zs"]).diff (.ofHex "A0 2007 202F"))
  | "zwj" => some zeroWidthJoiner
  | _ => none

/-- Marks after which no sentence ends: commas, colons and dashes. -/
def sentencePauses : Ranges := .ofRows
  ["2C-2D 3A-3B 37E 55D 60C-60D 7F8 1802 1808 2013-2014 3001 FE10-FE11 FE13-FE14",
   "FE31-FE32 FE50-FE51 FE54-FE55 FE58 FE63 FF0C-FF0D FF1A-FF1B FF64"]

def fullStops : Ranges := .ofHex "2E 2024 FE52 FF0E"

def sentenceBreaks : Ranges := .ofHex "85 2028-2029"

/-- Quotation marks that do not tell an opening from a closing one. -/
def plainQuotes : Ranges := .ofHex "22 27 275B-2760 2E00-2E01 2E06-2E08 2E0B 1F676-1F678"

/-- Small letters. Georgian does not begin sentences with capitals, so its
letters are left out. -/
def smallLetters : Ranges :=
  (property "lowercase").diff
    (Ranges.normal (property "graphemeextend" ++ .ofHex "10D0-10FA 10FD-10FF"))

/-- Capital letters and titlecase letters, without those of Georgian. -/
def capitalLetters : Ranges :=
  ((property "uppercase").union (categories ["lt"])).diff (.ofHex "1C90-1CBA 1CBD-1CBF")

/-- Marks and joiners, which belong to the character before them. -/
def sentenceExtenders : Ranges :=
  ((property "graphemeextend").union (categories ["mc"])).union zeroWidthJoiner

/-- A class of the rules for sentences, by one of its names. -/
def sentenceClass? (name : String) : Option Ranges :=
  match name with
  | "at" | "aterm" => some fullStops
  | "cl" | "close" =>
    some (((categories ["ps", "pe", "pi", "pf"]).union plainQuotes).diff
      (Ranges.normal (fullStops ++ property "sentenceterminal" ++ sentencePauses)))
  | "cr" => some carriageReturn
  | "ex" | "extend" => some sentenceExtenders
  | "fo" | "format" =>
    some ((categories ["cf"]).diff (Ranges.normal (sentenceExtenders ++ numerals)))
  | "le" | "oletter" =>
    some (((property "alphabetic").union [(0x5F3, 0x5F3)]).diff
      (Ranges.normal (smallLetters ++ capitalLetters ++ sentenceExtenders)))
  | "lf" => some lineFeed
  | "lo" | "lower" => some smallLetters
  | "nu" | "numeric" => some numerals
  | "sc" | "scontinue" => some sentencePauses
  | "se" | "sep" => some sentenceBreaks
  | "sp" =>
    some ((property "whitespace").diff
      (Ranges.normal (sentenceBreaks ++ lineFeed ++ carriageReturn)))
  | "st" | "sterm" => some ((property "sentenceterminal").diff fullStops)
  | "up" | "upper" => some capitalLetters
  | _ => none

end Overlay.Pattern
