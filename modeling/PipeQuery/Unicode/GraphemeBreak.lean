import PipeQuery.Unicode.Emoji
import PipeQuery.Unicode.Sign

/-!
# Breaks between graphemes

The classes of characters by which texts are cut into what readers take for one character, from the
Unicode character database, version 16.
-/

set_option autoImplicit false

namespace PipeQuery.Unicode

def graphemePrepend : CharSet :=
  prependedConcatenationMark.union
    (readGaps "3406 1 66675 2 525 1 1389 1 1 1 248 1 73 6 700 1 443 1")

def graphemeExtendBreak : CharSet := graphemeExtend.union emojiModifier

/-- Spacing marks that do not belong to the grapheme before them. -/
def separateMarks : CharSet := readGaps
  "4139 2 11 1 41 3 2 7 21 1 3 6 2 1 10 3 2500 1 1 2 36886 1 1 1 27810 2"

def graphemeSpacingMark : CharSet :=
  ((ofCategories ["Mc"]).without (graphemeExtend.union separateMarks)).union
    (readGaps "3635 1 127 1")

def graphemeControl : CharSet :=
  ((ofCategories ["Zl", "Zp", "Cc", "Cf"]).union
    ((ofCategories ["Cn"]).intersection defaultIgnorable)).without
      ((readGaps "10 1 2 1 8191 1").union (graphemeExtend.union prependedConcatenationMark))

/-- Hangul syllables of a consonant and a vowel. In the order of the syllables each of them is followed
by the twenty-seven with a further consonant. -/
def hangulOpenSyllable : CharSet :=
  ⟨((List.range 399).flatMap (fun index => [0xAC00 + 28 * index, 0xAC01 + 28 * index])).toArray⟩

def hangulClosedSyllable : CharSet := CharSet.without ⟨#[0xAC00, 0xD7A4]⟩ hangulOpenSyllable

def graphemeBreakNames : List (List String × CharSet) :=
  [(["cn", "control"], graphemeControl),
   (["cr"], ⟨#[0xD, 0xE]⟩),
   (["ex", "extend"], graphemeExtendBreak),
   (["l"], readGaps "4352 96 38912 29"),
   (["lf"], ⟨#[0xA, 0xB]⟩),
   (["lv"], hangulOpenSyllable),
   (["lvt"], hangulClosedSyllable),
   (["pp", "prepend"], graphemePrepend),
   (["ri", "regionalindicator"], regionalIndicator),
   (["sm", "spacingmark"], graphemeSpacingMark),
   (["t"], readGaps "4520 88 50635 49"),
   (["v"], readGaps "4448 72 50696 23 38300 1 3 4"),
   (["zwj"], ⟨#[0x200D, 0x200E]⟩)]

def graphemeBreak? (name : String) : Option CharSet :=
  (graphemeBreakNames.find? (fun row => row.1.contains name)).map Prod.snd

end PipeQuery.Unicode
