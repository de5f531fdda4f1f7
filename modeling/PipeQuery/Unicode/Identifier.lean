import PipeQuery.Unicode.Category

/-!
# Identifiers

Characters of identifiers, and the characters that patterns keep for themselves, from the Unicode
character database, version 16.
-/

set_option autoImplicit false

namespace PipeQuery.Unicode

def patternSyntax : CharSet := readGaps
  "33 15 10 7 26 4 1 1 26 4 34 7 1 1 1 2 1 1 1 2 4 1 4 1 3 1 23 1 31 1 7960 24 8 15 2 19 1 10 305
  720 160 630 30 1132 512 128 385 3 4 25 15 1 52493 2 261 2"

def patternWhiteSpace : CharSet := readGaps "9 5 18 1 100 1 8072 2 24 2"

def otherIdStart : CharSet := readGaps "6277 2 2193 1 21 1 3948 2"

def otherIdContinue : CharSet := readGaps "183 1 719 1 4065 9 1640 1 1585 2 4333 1 52841 1"

def idStart : CharSet :=
  ((ofCategories ["Lu", "Ll", "Lt", "Lm", "Lo", "Nl"]).union otherIdStart).without
    (patternSyntax.union patternWhiteSpace)

def idContinue : CharSet :=
  idStart.union
    (((ofCategories ["Mn", "Mc", "Nd", "Pc"]).union otherIdContinue).without
      (patternSyntax.union patternWhiteSpace))

/-- Characters that start identifiers and still do so in their normal form. -/
def xidStart : CharSet :=
  idStart.without (readGaps
    "890 1 2744 1 127 1 8679 2 52161 6 406 2 116 1 1 1 1 1 1 1 1 1 1 1 1 1 1 1 287 2")

def xidContinue : CharSet :=
  idContinue.without (readGaps
    "890 1 11552 2 52161 6 406 2 116 1 1 1 1 1 1 1 1 1 1 1 1 1 1 1")

def idCompatMathStart : CharSet := readGaps
  "8706 1 4 1 22 1 111778 1 25 1 31 1 25 1 31 1 25 1 31 1 25 1 31 1 25 1"

def idCompatMathContinue : CharSet := readGaps
  "178 2 5 1 8118 1 3 11 1 15 371 1 4 1 22 1 111778 1 25 1 31 1 25 1 31 1 25 1 31 1 25 1 31 1 25
  1"

end PipeQuery.Unicode
