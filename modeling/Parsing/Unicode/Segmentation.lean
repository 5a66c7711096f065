import Parsing.Unicode.BinaryProperty

namespace Parsing.CharSet

open Unicode

def openSyllable : CharSet :=
  ⟨(List.range 399).flatMap fun i => [0xAC00 + 28 * i, 0xAC00 + 28 * i + 1]⟩

def closedSyllable : CharSet := (range '가' '힣').diff openSyllable

def extendingMark : CharSet := union graphemeExtend (category .spacingMark)

def prepended : CharSet := .ofText <|
  "600 6 d7 1 31 1 180 2 50 1 46b 1 1036e 1 f 1 f4 2 20d 1 56d 1 1 1 f8 1 49 6 2bc 1 1bb 1"

def detachedVowelSign : CharSet := ofText <|
  "102b 2 b 1 29 3 2 7 15 1 3 6 2 1 a 3 9c4 1 1 2 9016 1 1 1 6ca2 2"

def graphemeControl : CharSet :=
  ((unionAll [categories [.lineSeparator, .paragraphSeparator, .control, .format],
    (category .unassigned).inter defaultIgnorable]).diff prependedConcatenationMark).diff
    (ofText "a 1 2 1 1ffe 2 de012 60")

def graphemeSpacing : CharSet :=
  (((category .spacingMark).diff graphemeExtend).diff detachedVowelSign).union
    (ofText "e33 1 7f 1")

def graphemeBreak? : String → Option CharSet
  | "control" | "cn" => some graphemeControl
  | "cr" => some (.ofText "d 1")
  | "extend" | "ex" => some (graphemeExtend.union emojiModifier)
  | "l" => some (.ofText "1100 60 9800 1d")
  | "lf" => some (.ofText "a 1")
  | "lv" => some openSyllable
  | "lvt" => some closedSyllable
  | "prepend" | "pp" => some prepended
  | "regionalindicator" | "ri" => some (.ofText "1f1e6 1a")
  | "spacingmark" | "sm" => some graphemeSpacing
  | "t" => some (.ofText "11a8 58 c5cb 31")
  | "v" => some (.ofText "1160 48 c608 17 959c 1 3 4")
  | "zwj" => some (.ofText "200d 1")
  | _ => none

def breakNumeric : CharSet :=
  digit.union (ofText "600 6 65 2 70 1 1b2 2 50 1 10f7 1 f6e2 1 f 1")

def wordLetter : CharSet := .ofText <|
  "41 1a 6 1a 2f 1 a 1 4 1 5 17 1 1f 1 1e0 6 22 70 5 1 2 2 4 1 1 6 1 1 3 1 1 1 14 1 53 1 8b 8 " ++
    "a6 1 26 2 4 1 1 1 29 1 1 68 1 2c 2b 23 2 1 63 1 1 f 2 7 2 a 3 2 1 f 2 1 1e 1d 59 b 1 18 21 " ++
    "9 2 4 1 5 16 4 1 9 1 3 1 17 19 7 b 5 18 1 6 11 2a 3a 36 3 1 12 1 7 a f 10 4 8 2 2 2 16 1 7 " ++
    "1 1 3 4 3 1 10 1 d 2 1 3 e 2 a 1 8 6 4 2 2 16 1 7 1 2 1 2 1 2 1f 4 1 1 13 3 10 9 1 3 1 16 " ++
    "1 7 1 2 1 5 3 1 12 1 f 2 17 1 b 8 2 2 2 16 1 7 1 2 1 5 3 1 1e 2 1 3 f 1 11 1 1 6 3 3 1 4 3 " ++
    "2 1 1 1 2 3 2 3 3 3 c 16 1 34 8 1 3 1 17 1 10 3 1 1a 3 2 1 2 2 1e 1 4 8 1 3 1 17 1 a 1 5 3 " ++
    "1 1f 2 1 2 f 2 11 9 1 3 1 29 2 1 10 1 5 3 8 3 18 6 5 12 3 18 1 9 1 1 2 7 139 1 3f 8 1 24 " ++
    "1b 5 113 26 1 1 5 1 2 2b 1 14d 1 4 2 7 1 1 1 4 2 29 1 4 2 21 1 4 2 7 1 1 1 4 2 f 1 39 1 4 " ++
    "2 43 25 10 10 56 2 6 3 26c 2 11 1 1a 5 4b 3 b 7 12 d 13 e 12 e d 1 3 af 59 7 5 2 22 1 1 5 " ++
    "46 a 1f e1 17 ee 2f 11 8 36 1e d 2 a 2c 1a 24 29 3 a 24 2 b 5 2b 2 3 29 4 1 6 1 2 3 1 5 c0 " ++
    "40 116 2 6 2 26 2 6 2 8 1 1 1 1 1 1 1 1f 2 35 1 7 1 1 3 3 1 7 3 4 2 6 4 d 5 3 1 7 74 1 d 1 " ++
    "10 d 65 1 4 1 2 a 1 1 3 5 6 1 1 1 1 1 1 4 1 b 2 4 5 5 4 1 11 29 32d 34 716 e5 6 4 3 2 c 26 " ++
    "1 1 5 1 2 38 7 1 10 17 9 7 1 7 1 7 1 7 1 7 1 7 1 7 1 7 50 1 1d5 1 35 2 c8 2b 1 5e 11 20 " ++
    "6e40 48d 43 2e 2 10d 3 10 a 2 14 2f 10 1f 2 50 18 c6 2 2 1 1 1 8 15 10 1 3 1 4 1 17 1d 34 " ++
    "e 32 3e 6 3 1 1 2 b 1c a 17 19 1d 7 2f 1c 1 30 29 17 3 1 8 94 b 7 3 c 6 2 6 2 6 9 7 1 7 1 " ++
    "3a 6 73 1d 2ba4 c 17 4 31 2304 7 c 5 38 62 21 16b 12 40 2 36 28 c 74 5 1 87 24 1a 6 1a 45 " ++
    "1f 3 6 2 6 2 6 2 3 23 c 1 1a 1 13 1 2 1 f 2 e 22 7b 45 35 10b 1d 3 31 2f 20 d 1e 5 26 a 1e " ++
    "2 24 4 8 1 5 2a 9e 12 24 4 24 4 28 8 34 c b 1 f 1 7 1 2 1 b 1 f 1 7 1 2 3 34 c 137 9 16 a " ++
    "8 18 6 1 2a 1 9 45 6 2 1 1 2c 1 2 3 1 2 17 a 17 9 1f 41 13 1 2 a 16 a 1a 46 38 6 2 40 1 f " ++
    "4 1 3 1 1d 2a 1d 3 1d 23 8 1 1c 1b 36 a 16 a 13 d 12 6e 49 37 33 d 33 d 24 26 1c 9 17 fa " ++
    "2a 6 2 10 3 3b 1d a 1 8 16 2a 12 2e 15 1b 17 c 35 39 2 2 1 d 2d 20 19 1a 24 1d 1 2 1 8 23 " ++
    "3 1 c 30 e 4 15 1 1 1 23 12 1 19 13 2 3f 7 1 1 1 4 1 f 1 a 7 2f 26 8 2 2 2 16 1 7 1 2 1 5 " ++
    "3 1 12 1 c 5 1e a 1 1 2 1 1 26 1 1 19 1 1 1 2c 35 12 4 14 3 1e 30 14 2 1 1 b8 2f 29 4 24 " ++
    "30 14 1 3b 2b d 1 147 2c 74 40 1f 8 2 1 2 8 1 2 1 18 f 1 1 1 5e 8 2 27 10 1 1 1 1c 1 a 28 " ++
    "7 1 15 1 b 2e 13 1 12 49 c7 21 1f 9 1 25 11 1 31 1e 70 7 1 2 1 26 15 1 19 6 1 2 1 20 e 1 " ++
    "147 13 f 1 1 d 1 22 7c 1 4f 39a 66 6f 11 c4 a4c 61 f 430 11 6 19 f9b 5 247 1ab9 1e 6e2 239 " ++
    "7 1f 11 4f 11 1e 12 30 10 4 1f 15 5 13 1b0 2d d3 40 80 4b 5 1 42 d 40 2 1 1 4c1c 6b 5 d 3 " ++
    "9 7 a 1766 55 1 47 1 2 2 1 2 2 2 4 1 c 1 1 1 7 1 41 1 4 2 8 1 7 1 1c 1 4 1 5 1 1 3 7 1 154 " ++
    "2 19 1 19 1 1f 1 19 1 1f 1 19 1 1f 1 19 1 1f 1 19 1 8 734 1f 6 6 105 3e 92 2d a 7 10 1 141 " ++
    "1e 12 2c 1e4 1c e4 1e 2 1 1ef 7 1 4 1 2 1 f 1 c5 3b 44 7 1 4b4 4 1 1b 1 2 1 1 2 1 1 a 1 4 " ++
    "1 1 1 1 6 1 4 1 1 1 1 1 1 3 1 2 1 1 2 1 1 1 1 1 1 1 1 1 1 2 1 1 2 4 1 7 1 4 1 4 1 1 1 a 1 " ++
    "11 5 3 1 5 1 11 274 1a 6 1a 6 1a"

def wordBreak? : String → Option CharSet
  | "aletter" | "le" => some wordLetter
  | "cr" => some (.ofText "d 1")
  | "doublequote" | "dq" => some (.ofText "22 1")
  | "extend" => some ((extendingMark.union emojiModifier).diff (single '\u200d'))
  | "extendnumlet" | "ex" => some (.ofText "5f 1 1fcf 1 f 2 13 1 ddde 2 18 3 ef 1")
  | "format" | "fo" =>
    some (.ofText <| "ad 1 56e 1 11f1 1 7ff 2 1a 5 31 5 1 a de8f 1 f9 3 3434 10 8860 4 14cf 8 " ++
      "c2e86 1")
  | "hebrewletter" | "hl" => some (.ofText "5d0 1b 4 4 f52a 1 1 a 1 d 1 5 1 1 1 2 1 2 1 a")
  | "katakana" | "ka" =>
    some (.ofText <| "3031 5 65 2 3 5b 1 4 f0 10 d0 2f 1 58 cc0e 38 b052 4 1 7 1 2 1 1 11f 3 32 " ++
      "1 e 4")
  | "lf" => some (.ofText "a 1")
  | "midletter" | "ml" => some (.ofText "3a 1 7c 1 2cf 1 1d7 1 94 1 1a32 1 ddeb 1 41 1 c4 1")
  | "midnum" | "mn" =>
    some (.ofText <| "2c 1 e 1 342 1 20a 1 82 2 5e 1 18b 1 184b 1 de0b 1 3 1 b7 1 e 1")
  | "midnumlet" | "mb" => some (.ofText "2e 1 1fe9 2 a 1 de2d 1 b4 1 6 1")
  | "newline" | "nl" => some (.ofText "b 2 78 1 1fa2 2")
  | "numeric" | "nu" => some (breakNumeric.diff (single '٬'))
  | "regionalindicator" | "ri" => some (.ofText "1f1e6 1a")
  | "singlequote" | "sq" => some (.ofText "27 1")
  | "wsegspace" => some (.ofText "20 1 165f 1 97f 7 1 3 54 1 fa0 1")
  | "zwj" => some (.ofText "200d 1")
  | _ => none

def sentenceLower : CharSet := (lowercase.diff graphemeExtend).diff (ofText "10d0 2c 1 3")

def sentenceUpper : CharSet :=
  (uppercase.union (category .titlecaseLetter)).diff (ofText "1c90 30")

def sentenceLetter : CharSet :=
  (((alphabetic.union (single '׳')).diff sentenceLower).diff sentenceUpper).diff extendingMark

def sentenceEnd : CharSet := sentenceTerminal.diff (ofText "2e 1 1ff5 1 de2d 1 bb 1")

def sentenceBreak? : String → Option CharSet
  | "aterm" | "at" => some (.ofText "2e 1 1ff5 1 de2d 1 bb 1")
  | "close" | "cl" =>
    some (.ofText <| "22 1 4 3 31 1 1 1 1d 1 1 1 2d 1 f 1 e7e 4 75d 2 97b 8 19 2 a 2 36 2 e 2 " ++
      "279 4 1d 2 430 6 7 e 4f 2 1f a 193 16 3f 4 20 2 402 e e 2 2 a 18 1 12 8 1ab a 2 8 1 3 " ++
      "cd1e 2 d7 2 1c 10 2 2 10 6 a9 2 31 1 1 1 1d 1 1 1 1 2 1 2 f712 3")
  | "cr" => some (.ofText "d 1")
  | "extend" | "ex" => some (extendingMark.union (single '\u200d'))
  | "format" | "fo" =>
    some (.ofText <| "ad 1 56e 1 f2 1 10fe 1 7fc 1 2 2 1a 5 31 5 1 a de8f 1 f9 3 3434 10 8860 4 " ++
      "14cf 8 c2e86 1")
  | "lf" => some (.ofText "a 1")
  | "lower" | "lo" => some sentenceLower
  | "numeric" | "nu" => some breakNumeric
  | "oletter" | "le" => some sentenceLetter
  | "scontinue" | "sc" =>
    some (.ofText <| "2c 2 c 2 342 1 1de 1 ae 2 1ea 1 1009 1 5 1 80a 2 fec 1 ce0e 2 1 2 1c 2 1d " ++
      "2 2 2 2 1 a 1 a8 2 c 2 48 1")
  | "sep" | "se" => some (.ofText "85 1 1fa2 2")
  | "sp" => some (.ofText "9 1 1 2 13 1 7f 1 15df 1 97f b 24 1 2f 1 fa0 1")
  | "sterm" | "st" => some sentenceEnd
  | "upper" | "up" => some sentenceUpper
  | _ => none

end Parsing.CharSet
