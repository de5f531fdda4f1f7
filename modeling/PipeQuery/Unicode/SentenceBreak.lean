import PipeQuery.Unicode.Case
import PipeQuery.Unicode.Letter
import PipeQuery.Unicode.Sign

/-!
# Breaks between sentences

The classes of characters by which texts are cut into sentences, from the Unicode character database,
version 16.
-/

set_option autoImplicit false

namespace PipeQuery.Unicode

def sentenceExtend : CharSet :=
  (graphemeExtend.union (ofCategories ["Mc"])).union ⟨#[0x200D, 0x200E]⟩

def sentenceFormat : CharSet :=
  ((ofCategories ["Cf"]).without
    (CharSet.union ⟨#[0x200C, 0x200E]⟩ (graphemeExtend.union prependedConcatenationMark))).union
    ⟨#[0x70F, 0x710]⟩

def paragraphSeparator : CharSet := readGaps "133 1 8098 2"

def sentenceBlank : CharSet :=
  whiteSpace.without (paragraphSeparator.union (readGaps "10 1 2 1"))

/-- Small letters. Those of Georgian tell nothing about where a sentence begins. -/
def sentenceLower : CharSet :=
  lowercase.without (graphemeExtend.union (readGaps "4304 43 2 3"))

def sentenceUpper : CharSet :=
  (uppercase.union titlecase).without (readGaps "7312 43 2 3")

def sentenceLetter : CharSet :=
  (alphabetic.union ⟨#[0x5F3, 0x5F4]⟩).without
    ((sentenceLower.union sentenceUpper).union sentenceExtend)

def sentenceNumeric : CharSet :=
  (((ofCategories ["Nd"]).union prependedConcatenationMark).union (readGaps "1643 2 4973 1")).without
    ⟨#[0x70F, 0x710]⟩

def ambiguousStop : CharSet := readGaps "46 1 8181 1 56877 1 187 1"

def sentenceClose : CharSet :=
  (((ofCategories ["Ps", "Pe", "Pi", "Pf"]).union quotationMark).union
    (readGaps "10075 6 1695 2 4 3 2 1 116842 3")).without (readGaps "65282 1 4 1")

def sentenceBreakNames : List (List String × CharSet) :=
  [(["at", "aterm"], ambiguousStop),
   (["cl", "close"], sentenceClose),
   (["cr"], ⟨#[0xD, 0xE]⟩),
   (["ex", "extend"], sentenceExtend),
   (["fo", "format"], sentenceFormat),
   (["le", "oletter"], sentenceLetter),
   (["lf"], ⟨#[0xA, 0xB]⟩),
   (["lo", "lower"], sentenceLower),
   (["nu", "numeric"], sentenceNumeric),
   (["sc", "scontinue"],
    readGaps "44 2 12 2 834 1 478 1 174 2 490 1 4105 1 5 1 2058 2 4076 1 52750 2 1 2 28 2 29 2 2 2 2
      1 10 1 168 2 12 2 72 1"),
   (["se", "sep"], paragraphSeparator),
   (["sp"], sentenceBlank),
   (["st", "sterm"], sentenceTerminal.without ambiguousStop),
   (["up", "upper"], sentenceUpper)]

def sentenceBreak? (name : String) : Option CharSet :=
  (sentenceBreakNames.find? (fun row => row.1.contains name)).map Prod.snd

end PipeQuery.Unicode
