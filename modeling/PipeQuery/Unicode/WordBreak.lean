import PipeQuery.Unicode.Emoji
import PipeQuery.Unicode.Letter
import PipeQuery.Unicode.Script
import PipeQuery.Unicode.Sign

/-!
# Breaks between words

The classes of characters by which texts are cut into words, from the Unicode character database,
version 16.
-/

set_option autoImplicit false

namespace PipeQuery.Unicode

def wordKatakana : CharSet :=
  (ofScript "Kana").union (readGaps "12337 5 101 2 3 1 91 1 52851 1")

def wordHebrew : CharSet := (ofScript "Hebr").intersection (ofCategories ["Lo"])

def wordExtend : CharSet :=
  ((graphemeExtend.union (ofCategories ["Mc"])).union emojiModifier).without ⟨#[0x200D, 0x200E]⟩

/-- Letters of scripts that are written without blanks between words. -/
def unspacedLetters : CharSet := readGaps
  "3585 48 1 2 12 7 58 2 1 1 1 5 1 24 1 1 1 10 1 2 9 1 2 5 1 1 21 4 288 43 20 1 16 6 4 4 3 1 3 2 7 3 4
  13 12 1 1777 52 35 1 4 1 371 30 2 5 11 44 4 26 86 53 82 1 36664 5 1 10 10 5 97 23 3 1 3 50 1 1 3 2 2 5
  2 1 1 1 24 3 27682 27 37 7"

def letterSigns : CharSet := readGaps
  "184 1 521 4 12 6 6 2 5 7 1 1 1 17 602 3 1 1 43 1 104 1 283 1 40952 15 9 2 103 2 976 1"

def wordLetter : CharSet :=
  (alphabetic.without
    (((ideographic.union unspacedLetters).union (wordKatakana.union (ofScript "Hira"))).union
      (wordHebrew.union wordExtend))).union letterSigns

def wordFormat : CharSet :=
  (ofCategories ["Cf"]).without
    (CharSet.union ⟨#[0x200B, 0x200E]⟩ (graphemeExtend.union prependedConcatenationMark))

def wordNumeric : CharSet :=
  (((ofCategories ["Nd"]).union prependedConcatenationMark).union (readGaps "1643 1 4974 1")).without
    ⟨#[0x70F, 0x710]⟩

def wordBlank : CharSet :=
  (ofCategories ["Zs"]).without (readGaps "160 1 8038 1 39 1")

def wordBreakNames : List (List String × CharSet) :=
  [(["le", "aletter"], wordLetter),
   (["cr"], ⟨#[0xD, 0xE]⟩),
   (["dq", "doublequote"], ⟨#[0x22, 0x23]⟩),
   (["extend"], wordExtend),
   (["ex", "extendnumlet"], (ofCategories ["Pc"]).union ⟨#[0x202F, 0x2030]⟩),
   (["fo", "format"], wordFormat),
   (["hl", "hebrewletter"], wordHebrew),
   (["ka", "katakana"], wordKatakana),
   (["lf"], ⟨#[0xA, 0xB]⟩),
   (["ml", "midletter"], readGaps "58 1 124 1 719 1 471 1 148 1 6706 1 56811 1 65 1 196 1"),
   (["mn", "midnum"],
    readGaps "44 1 14 1 834 1 522 1 130 2 94 1 395 1 6219 1 56779 1 3 1 59 1 3 1 183 1 14 1"),
   (["mb", "midnumlet"], readGaps "46 1 8169 2 10 1 56877 1 180 1 6 1"),
   (["nl", "newline"], readGaps "11 2 120 1 8098 2"),
   (["nu", "numeric"], wordNumeric),
   (["ri", "regionalindicator"], regionalIndicator),
   (["sq", "singlequote"], ⟨#[0x27, 0x28]⟩),
   (["wsegspace"], wordBlank),
   (["zwj"], ⟨#[0x200D, 0x200E]⟩)]

def wordBreak? (name : String) : Option CharSet :=
  (wordBreakNames.find? (fun row => row.1.contains name)).map Prod.snd

end PipeQuery.Unicode
