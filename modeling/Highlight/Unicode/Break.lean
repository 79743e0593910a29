import Highlight.Unicode.Property

/-!
# Where a text can be broken

The classes of characters by which a text is broken into clusters, words and sentences, as of
Unicode 16.
-/

namespace Highlight.Unicode

open Category Property

/-- The carriage return and the newline. -/
def Break.lineEnds : List (Nat × Nat) :=
  [(0xA, 0xA), (0xD, 0xD)]

/-- The marks in front of numbers. -/
def Break.numberMarks : List (Nat × Nat) :=
  without prependedConcatenationMark [(0x70F, 0x70F)]

/-- The format characters that are no part of what they follow. -/
def Break.format : List (Nat × Nat) :=
  without Category.format (unite [graphemeExtend, prependedConcatenationMark, joinControl])

/-! ### Clusters -/

namespace ClusterBreak

/-- The first code point of the syllables of Hangul. -/
def firstSyllable : Nat := 0xAC00

/-- The number of syllables that differ only in their last part, which the first one lacks. -/
def syllableStep : Nat := 28

/-- The syllables of Hangul without a last part. -/
def openSyllable : List (Nat × Nat) :=
  (List.range 399).map fun i =>
    (firstSyllable + syllableStep * i, firstSyllable + syllableStep * i)

def closedSyllable : List (Nat × Nat) :=
  without [(firstSyllable, firstSyllable + 399 * syllableStep - 1)] openSyllable

def extend : List (Nat × Nat) :=
  unite [graphemeExtend, emojiModifier]

def prepend : List (Nat × Nat) :=
  unite
    [prependedConcatenationMark,
     [(0xD4E, 0xD4E), (0x111C2, 0x111C3), (0x113D1, 0x113D1), (0x1193F, 0x1193F),
      (0x11941, 0x11941), (0x11A3A, 0x11A3A), (0x11A84, 0x11A89), (0x11D46, 0x11D46),
      (0x11F02, 0x11F02)]]

/-- The signs of South East Asian scripts that are no part of what they follow. -/
def looseMarks : List (Nat × Nat) :=
  [(0x102B, 0x102C), (0x1038, 0x1038), (0x1062, 0x1064), (0x1067, 0x106D), (0x1083, 0x1083),
   (0x1087, 0x108C), (0x108F, 0x108F), (0x109A, 0x109C), (0x1A61, 0x1A61), (0x1A63, 0x1A64),
   (0xAA7B, 0xAA7B), (0xAA7D, 0xAA7D), (0x11720, 0x11721)]

def spacingMark : List (Nat × Nat) :=
  without (unite [Category.spacingMark, [(0xE33, 0xE33), (0xEB3, 0xEB3)]])
    (unite [extend, looseMarks])

def control : List (Nat × Nat) :=
  without
    (unite
      [lineSeparator, paragraphSeparator, Category.control, Category.format,
        both unassigned defaultIgnorable])
    (unite [Break.lineEnds, joinControl, graphemeExtend, prependedConcatenationMark])

/-- The classes, with the names that each goes by. -/
def named : List (List String × List (Nat × Nat)) :=
  [(["cn", "control"], control), (["cr"], [(0xD, 0xD)]), (["ex", "extend"], extend),
   (["l"], [(0x1100, 0x115F), (0xA960, 0xA97C)]), (["lf"], [(0xA, 0xA)]),
   (["lv"], openSyllable), (["lvt"], closedSyllable), (["pp", "prepend"], prepend),
   (["ri", "regionalindicator"], regionalIndicator), (["sm", "spacingmark"], spacingMark),
   (["t"], [(0x11A8, 0x11FF), (0xD7CB, 0xD7FB)]),
   (["v"], [(0x1160, 0x11A7), (0xD7B0, 0xD7C6), (0x16D63, 0x16D63), (0x16D67, 0x16D6A)]),
   (["zwj"], [(0x200D, 0x200D)])]

end ClusterBreak

/-! ### Words -/

namespace WordBreak

def hebrewLetter : List (Nat × Nat) :=
  [(0x5D0, 0x5EA), (0x5EF, 0x5F2), (0xFB1D, 0xFB1D), (0xFB1F, 0xFB28), (0xFB2A, 0xFB36),
   (0xFB38, 0xFB3C), (0xFB3E, 0xFB3E), (0xFB40, 0xFB41), (0xFB43, 0xFB44), (0xFB46, 0xFB4F)]

def katakana : List (Nat × Nat) :=
  [(0x3031, 0x3035), (0x309B, 0x309C), (0x30A0, 0x30FA), (0x30FC, 0x30FF), (0x31F0, 0x31FF),
   (0x32D0, 0x32FE), (0x3300, 0x3357), (0xFF66, 0xFF9D), (0x1AFF0, 0x1AFF3), (0x1AFF5, 0x1AFFB),
   (0x1AFFD, 0x1AFFE), (0x1B000, 0x1B000), (0x1B120, 0x1B122), (0x1B155, 0x1B155),
   (0x1B164, 0x1B167)]

def hiragana : List (Nat × Nat) :=
  [(0x3041, 0x3096), (0x309D, 0x309F), (0x1B001, 0x1B11F), (0x1B132, 0x1B132), (0x1B150, 0x1B152),
   (0x1F200, 0x1F200)]

/-- The letters of scripts that put no space between words. -/
def unspacedLetter : List (Nat × Nat) :=
  [(0xE01, 0xE30), (0xE32, 0xE33), (0xE40, 0xE46), (0xE81, 0xE82), (0xE84, 0xE84), (0xE86, 0xE8A),
   (0xE8C, 0xEA3), (0xEA5, 0xEA5), (0xEA7, 0xEB0), (0xEB2, 0xEB3), (0xEBD, 0xEBD), (0xEC0, 0xEC4),
   (0xEC6, 0xEC6), (0xEDC, 0xEDF), (0x1000, 0x102A), (0x103F, 0x103F), (0x1050, 0x1055),
   (0x105A, 0x105D), (0x1061, 0x1061), (0x1065, 0x1066), (0x106E, 0x1070), (0x1075, 0x1081),
   (0x108E, 0x108E), (0x1780, 0x17B3), (0x17D7, 0x17D7), (0x17DC, 0x17DC), (0x1950, 0x196D),
   (0x1970, 0x1974), (0x1980, 0x19AB), (0x19B0, 0x19C9), (0x1A20, 0x1A54), (0x1AA7, 0x1AA7),
   (0xA9E0, 0xA9E4), (0xA9E6, 0xA9EF), (0xA9FA, 0xA9FE), (0xAA60, 0xAA76), (0xAA7A, 0xAA7A),
   (0xAA7E, 0xAAAF), (0xAAB1, 0xAAB1), (0xAAB5, 0xAAB6), (0xAAB9, 0xAABD), (0xAAC0, 0xAAC0),
   (0xAAC2, 0xAAC2), (0xAADB, 0xAADD), (0x11700, 0x1171A), (0x11740, 0x11746)]

/-- The signs that stand in words like letters. -/
def letterLike : List (Nat × Nat) :=
  [(0x2C2, 0x2C5), (0x2D2, 0x2D7), (0x2DE, 0x2DF), (0x2E5, 0x2EB), (0x2ED, 0x2ED), (0x2EF, 0x2FF),
   (0x55A, 0x55C), (0x55E, 0x55E), (0x58A, 0x58A), (0x5F3, 0x5F3), (0x70F, 0x70F), (0xA708, 0xA716),
   (0xA720, 0xA721), (0xA789, 0xA78A), (0xAB5B, 0xAB5B)]

def extend : List (Nat × Nat) :=
  without (unite [graphemeExtend, Category.spacingMark, emojiModifier]) [(0x200D, 0x200D)]

def letter : List (Nat × Nat) :=
  unite
    [without alphabetic
      (unite [ideographic, katakana, hiragana, unspacedLetter, extend, hebrewLetter]),
     letterLike]

/-- The zero width space ends words, while the other format characters are passed over. -/
def format : List (Nat × Nat) :=
  without Break.format [(0x200B, 0x200B)]

def numeric : List (Nat × Nat) :=
  unite [digitRanges, [(0x66B, 0x66B)], Break.numberMarks]

def betweenNumbers : List (Nat × Nat) :=
  [(0x2C, 0x2C), (0x3B, 0x3B), (0x37E, 0x37E), (0x589, 0x589), (0x60C, 0x60D), (0x66C, 0x66C),
   (0x7F8, 0x7F8), (0x2044, 0x2044), (0xFE10, 0xFE10), (0xFE14, 0xFE14), (0xFE50, 0xFE50),
   (0xFE54, 0xFE54), (0xFF0C, 0xFF0C), (0xFF1B, 0xFF1B)]

def betweenLettersOrNumbers : List (Nat × Nat) :=
  [(0x2E, 0x2E), (0x2018, 0x2019), (0x2024, 0x2024), (0xFE52, 0xFE52), (0xFF07, 0xFF07),
   (0xFF0E, 0xFF0E)]

def betweenLetters : List (Nat × Nat) :=
  without insideWords (unite [[(0x27, 0x27)], betweenLettersOrNumbers])

/-- The classes, with the names that each goes by. -/
def named : List (List String × List (Nat × Nat)) :=
  [(["le", "aletter"], letter), (["cr"], [(0xD, 0xD)]), (["dq", "doublequote"], [(0x22, 0x22)]),
   (["extend"], extend),
   (["ex", "extendnumlet"], unite [connectorPunctuation, [(0x202F, 0x202F)]]),
   (["fo", "format"], format), (["hl", "hebrewletter"], hebrewLetter),
   (["ka", "katakana"], katakana), (["lf"], [(0xA, 0xA)]), (["ml", "midletter"], betweenLetters),
   (["mn", "midnum"], betweenNumbers), (["mb", "midnumlet"], betweenLettersOrNumbers),
   (["nl", "newline"], [(0xB, 0xC), (0x85, 0x85), (0x2028, 0x2029)]),
   (["nu", "numeric"], numeric), (["ri", "regionalindicator"], regionalIndicator),
   (["sq", "singlequote"], [(0x27, 0x27)]),
   (["wsegspace"], without spaceSeparator [(0xA0, 0xA0), (0x2007, 0x2007), (0x202F, 0x202F)]),
   (["zwj"], [(0x200D, 0x200D)])]

end WordBreak

/-! ### Sentences -/

namespace SentenceBreak

/-- The points, which can also end an abbreviation. -/
def point : List (Nat × Nat) :=
  [(0x2E, 0x2E), (0x2024, 0x2024), (0xFE52, 0xFE52), (0xFF0E, 0xFF0E)]

def terminal : List (Nat × Nat) :=
  without sentenceTerminal point

def otherQuote : List (Nat × Nat) :=
  [(0x22, 0x22), (0x27, 0x27), (0x275B, 0x2760), (0x2E00, 0x2E01), (0x2E06, 0x2E08),
   (0x2E0B, 0x2E0B), (0x1F676, 0x1F678)]

def close : List (Nat × Nat) :=
  without
    (unite [openPunctuation, closePunctuation, initialPunctuation, finalPunctuation, otherQuote])
    (unite [point, terminal])

def extend : List (Nat × Nat) :=
  unite [graphemeExtend, Category.spacingMark, [(0x200D, 0x200D)]]

def lower : List (Nat × Nat) :=
  without Property.lowercase (unite [graphemeExtend, [(0x10D0, 0x10FA), (0x10FD, 0x10FF)]])

def upper : List (Nat × Nat) :=
  without (unite [titlecaseLetter, Property.uppercase]) [(0x1C90, 0x1CBA), (0x1CBD, 0x1CBF)]

def letter : List (Nat × Nat) :=
  unite
    [without alphabetic (unite [lower, upper, extend]), [(0x5F3, 0x5F3), (0x70F, 0x70F)]]

def numeric : List (Nat × Nat) :=
  unite [digitRanges, [(0x66B, 0x66C)], Break.numberMarks]

def separator : List (Nat × Nat) :=
  [(0x85, 0x85), (0x2028, 0x2029)]

/-- The signs behind which a sentence goes on. -/
def goingOn : List (Nat × Nat) :=
  [(0x2C, 0x2D), (0x3A, 0x3B), (0x37E, 0x37E), (0x55D, 0x55D), (0x60C, 0x60D), (0x7F8, 0x7F8),
   (0x1802, 0x1802), (0x1808, 0x1808), (0x2013, 0x2014), (0x3001, 0x3001), (0xFE10, 0xFE11),
   (0xFE13, 0xFE14), (0xFE31, 0xFE32), (0xFE50, 0xFE51), (0xFE54, 0xFE55), (0xFE58, 0xFE58),
   (0xFE63, 0xFE63), (0xFF0C, 0xFF0D), (0xFF1A, 0xFF1B), (0xFF64, 0xFF64)]

/-- The classes, with the names that each goes by. -/
def named : List (List String × List (Nat × Nat)) :=
  [(["at", "aterm"], point), (["cl", "close"], close), (["cr"], [(0xD, 0xD)]),
   (["ex", "extend"], extend), (["fo", "format"], Break.format), (["lf"], [(0xA, 0xA)]),
   (["lo", "lower"], lower), (["nu", "numeric"], numeric), (["le", "oletter"], letter),
   (["sc", "scontinue"], goingOn), (["st", "sterm"], terminal), (["se", "sep"], separator),
   (["sp"], without spaceRanges (unite [separator, Break.lineEnds])), (["up", "upper"], upper)]

end SentenceBreak

end Highlight.Unicode
