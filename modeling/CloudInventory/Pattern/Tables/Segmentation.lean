import CloudInventory.Pattern.Tables.Property
import CloudInventory.Pattern.Tables.Script

/-!
How a text is segmented: the part that a character plays where characters, words and sentences are
told apart. The parts are derived from general categories and other properties, with a few
characters listed.
-/
namespace CloudInventory.Pattern

/-! ### Characters as a reader sees them -/

/-- Signs that stand before the character to which they belong. -/
def prependedSigns : CodeRanges := CodeRanges.ofTable [
  "600-605 6dd 70f 890-891 8e2 d4e 110bd 110cd 111c2-111c3 113d1 1193f 11941 11a3a 11a84-11a89",
  "11d46 11f02"]

/-- Syllables without a final consonant. -/
def openSyllables : CodeRanges :=
  (List.range 399).map (fun k => (0xac00 + 28 * k, 0xac00 + 28 * k))

/-- Syllables with a final consonant. -/
def closedSyllables : CodeRanges :=
  CodeRanges.difference [(0xac00, 0xd7a3)] openSyllables

/-- Code points without a visible form, which stand alone. -/
def controlCodes : CodeRanges :=
  (CodeRanges.ofList (categoryUnion ["zl", "zp", "cc", "cf"]
    ++ unassigned.inter defaultIgnorable)).difference
    (CodeRanges.ofList (graphemeExtend ++ listed "pcm" ++ CodeRanges.ofTable ["a d 200c-200d"]))

/-- Marks with a width of their own that belong to the character before them. -/
def spacingMarks : CodeRanges :=
  ((category "mc").union (CodeRanges.ofTable ["e33 eb3"])).difference
    (graphemeExtend.union (CodeRanges.ofTable [
      "102b-102c 1038 1062-1064 1067-106d 1083 1087-108c 108f 109a-109c 1a61 1a63-1a64 aa7b",
      "aa7d 11720-11721"]))

/-- The parts of characters, with their names. -/
def graphemeBreaks : List (List String × CodeRanges) := [
  (["cn", "control"], controlCodes),
  (["cr"], CodeRanges.ofTable ["d"]),
  (["ex", "extend"], graphemeExtend.union (listed "emod")),
  (["l"], CodeRanges.ofTable ["1100-115f a960-a97c"]),
  (["lf"], CodeRanges.ofTable ["a"]),
  (["lv"], openSyllables),
  (["lvt"], closedSyllables),
  (["pp", "prepend"], prependedSigns),
  (["ri", "regionalindicator"], listed "ri"),
  (["sm", "spacingmark"], spacingMarks),
  (["t"], CodeRanges.ofTable ["11a8-11ff d7cb-d7fb"]),
  (["v"], CodeRanges.ofTable ["1160-11a7 d7b0-d7c6 16d63 16d67-16d6a"]),
  (["zwj"], CodeRanges.ofTable ["200d"])]

/-! ### Words -/

/-- Characters that extend a word where they stand in one. -/
def wordExtend : CodeRanges :=
  (CodeRanges.ofList (graphemeExtend ++ category "mc" ++ listed "emod")).difference
    (CodeRanges.ofTable ["200d"])

/-- Digits and signs of numbers. -/
def wordDigits : CodeRanges :=
  (category "nd").union (CodeRanges.ofTable ["600-605 66b 6dd 890-891 8e2 19da 110bd 110cd"])

/-- Format characters, over which a word goes on. -/
def wordFormat : CodeRanges :=
  (category "cf").difference
    (CodeRanges.ofList (wordDigits ++ wordExtend ++ CodeRanges.ofTable ["70f 200b-200d"]))

/-- Characters with which words in Katakana are written. -/
def wordKatakana : CodeRanges := CodeRanges.ofTable [
  "3031-3035 309b-309c 30a0-30fa 30fc-30ff 31f0-31ff 32d0-32fe 3300-3357 ff66-ff9d 1aff0-1aff3",
  "1aff5-1affb 1affd-1affe 1b000 1b120-1b122 1b155 1b164-1b167"]

def hebrewLetters : CodeRanges := CodeRanges.ofTable [
  "5d0-5ea 5ef-5f2 fb1d fb1f-fb28 fb2a-fb36 fb38-fb3c fb3e fb40-fb41 fb43-fb44 fb46-fb4f"]

/-- Letters of scripts that set no blanks between words. -/
def unspacedLetters : CodeRanges := CodeRanges.ofTable [
  "e01-e3a e40-e46 e4d e81-e82 e84 e86-e8a e8c-ea3 ea5 ea7-eb9 ebb-ebd ec0-ec4 ec6 ecd edc-edf",
  "1000-1036 1038 103b-103f 1050-108f 109a-109d 1780-17b3 17b6-17c8 17d7 17dc 1950-196d",
  "1970-1974 1980-19ab 19b0-19c9 1a20-1a5e 1a61-1a74 1aa7 a9e0-a9ef a9fa-a9fe aa60-aa76",
  "aa7a-aabe aac0 aac2 aadb-aadd 11700-1171a 1171d-1172a 11740-11746"]

/-- Signs that count as letters within words. -/
def letterLike : CodeRanges := CodeRanges.ofTable [
  "b8 2c2-2c5 2d2-2d7 2de-2df 2e5-2eb 2ed 2ef-2ff 55a-55c 55e 58a 5f3 70f a708-a716 a720-a721",
  "a789-a78a ab5b"]

def wordLetters : CodeRanges :=
  (alphabetic.difference (CodeRanges.ofList (listed "ideo" ++ wordKatakana ++ unspacedLetters
    ++ (scriptNamed? "hira").getD [] ++ wordExtend ++ hebrewLetters))).union letterLike

/-- The parts of words, with their names. -/
def wordBreaks : List (List String × CodeRanges) := [
  (["cr"], CodeRanges.ofTable ["d"]),
  (["dq", "doublequote"], CodeRanges.ofTable ["22"]),
  (["ex", "extendnumlet"], CodeRanges.ofTable ["5f 202f 203f-2040 2054 fe33-fe34 fe4d-fe4f ff3f"]),
  (["extend"], wordExtend),
  (["fo", "format"], wordFormat),
  (["hl", "hebrewletter"], hebrewLetters),
  (["ka", "katakana"], wordKatakana),
  (["le", "aletter"], wordLetters),
  (["lf"], CodeRanges.ofTable ["a"]),
  (["mb", "midnumlet"], CodeRanges.ofTable ["2e 2018-2019 2024 fe52 ff07 ff0e"]),
  (["ml", "midletter"], CodeRanges.ofTable ["3a b7 387 55f 5f4 2027 fe13 fe55 ff1a"]),
  (["mn", "midnum"], CodeRanges.ofTable [
    "2c 3b 37e 589 60c-60d 66c 7f8 2044 fe10 fe14 fe50 fe54 ff0c ff1b"]),
  (["nl", "newline"], CodeRanges.ofTable ["b-c 85 2028-2029"]),
  (["nu", "numeric"], wordDigits),
  (["ri", "regionalindicator"], listed "ri"),
  (["sq", "singlequote"], CodeRanges.ofTable ["27"]),
  (["wsegspace"], CodeRanges.ofTable ["20 1680 2000-2006 2008-200a 205f 3000"]),
  (["zwj"], CodeRanges.ofTable ["200d"])]

/-! ### Sentences -/

/-- Letters with a lowercase and an uppercase form whose sentences do not begin in uppercase. -/
def georgianLetters : CodeRanges :=
  CodeRanges.ofTable ["10d0-10fa 10fd-10ff 1c90-1cba 1cbd-1cbf"]

def sentenceExtend : CodeRanges :=
  CodeRanges.ofList (graphemeExtend ++ category "mc" ++ CodeRanges.ofTable ["200d"])

def sentenceLower : CodeRanges :=
  lowercase.difference (graphemeExtend.union georgianLetters)

def sentenceUpper : CodeRanges :=
  (uppercase.union (category "lt")).difference georgianLetters

def sentenceLetters : CodeRanges :=
  (CodeRanges.ofList (alphabetic ++ georgianLetters ++ CodeRanges.ofTable ["5f3"])).difference
    (CodeRanges.ofList (sentenceLower ++ sentenceUpper ++ sentenceExtend))

/-- Full stops, which may also end an abbreviation. -/
def fullStops : CodeRanges :=
  CodeRanges.ofTable ["2e 2024 fe52 ff0e"]

/-- Brackets and quotation marks. -/
def closingSigns : CodeRanges :=
  (categoryUnion ["ps", "pe", "pi", "pf"]).union (CodeRanges.ofTable [
    "22 27 275b-2760 2e00-2e01 2e06-2e08 2e0b 1f676-1f678"])

/-- The parts of sentences, with their names. -/
def sentenceBreaks : List (List String × CodeRanges) := [
  (["at", "aterm"], fullStops),
  (["cl", "close"], closingSigns),
  (["cr"], CodeRanges.ofTable ["d"]),
  (["ex", "extend"], sentenceExtend),
  (["fo", "format"], wordFormat.union (CodeRanges.ofTable ["70f 200b"])),
  (["le", "oletter"], sentenceLetters),
  (["lf"], CodeRanges.ofTable ["a"]),
  (["lo", "lower"], sentenceLower),
  (["nu", "numeric"], wordDigits.union (CodeRanges.ofTable ["66c"])),
  (["sc", "scontinue"], CodeRanges.ofTable [
    "2c-2d 3a-3b 37e 55d 60c-60d 7f8 1802 1808 2013-2014 3001 fe10-fe11 fe13-fe14 fe31-fe32",
    "fe50-fe51 fe54-fe55 fe58 fe63 ff0c-ff0d ff1a-ff1b ff64"]),
  (["se", "sep"], CodeRanges.ofTable ["85 2028-2029"]),
  (["sp"], CodeRanges.ofTable ["9 b-c 20 a0 1680 2000-200a 202f 205f 3000"]),
  (["st", "sterm"], (listed "sterm").difference fullStops),
  (["up", "upper"], sentenceUpper)]

/-- The characters that play the part of a name. -/
def breakNamed? (breaks : List (List String × CodeRanges)) (name : String) : Option CodeRanges :=
  (breaks.find? (fun (names, _) => names.contains name)).map Prod.snd

end CloudInventory.Pattern
