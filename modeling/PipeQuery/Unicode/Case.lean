import PipeQuery.Unicode.Category

/-!
# Case

Small and capital letters, and which characters the mappings between them change, from the Unicode
character database, version 16. The mappings change the letters of one case and leave few of them alone,
so what they change is kept by the letters for which that is not so.
-/

set_option autoImplicit false

namespace PipeQuery.Unicode

def otherLowercase : CharSet := readGaps
  "170 1 15 1 501 9 7 2 30 5 96 1 52 1 3457 1 3119 63 13 1 34 37 689 1 13 1 16 13 211 16 848 26
  1938 2 31262 2 210 1 129 3 3 2 866 4 9 1 23574 1 2 3 1 42 1 9 55413 62"

def lowercase : CharSet := (ofCategories ["Ll"]).union otherLowercase

def otherUppercase : CharSet := readGaps "8544 16 838 26 117856 26 6 26 6 26"

def uppercase : CharSet := (ofCategories ["Lu"]).union otherUppercase

/-- Letters that stand for a capital letter and a small one after it. -/
def titlecase : CharSet := ofCategories ["Lt"]

def cased : CharSet := (lowercase.union uppercase).union titlecase

def wordPunctuation : CharSet := readGaps
  "39 1 6 1 11 1 124 1 719 1 471 1 148 1 6691 2 10 1 2 1 56811 1 62 1 2 1 177 1 6 1 11 1"

def caseIgnorable : CharSet := (ofCategories ["Mn", "Me", "Cf", "Lm", "Sk"]).union wordPunctuation

def softDotted : CharSet := readGaps
  "105 2 196 1 281 1 30 1 52 1 20 1 320 1 98 1 1 1 6409 1 51 1 13 1 3 1 132 1 157 1 421 1 214 2
  2866 1 108453 2 50 2 50 2 50 2 50 2 50 2 50 2 50 2 50 2 50 2 50 2 50 2 50 2 2182 1 305 2 26 1"

def changedByLowercase : CharSet :=
  (uppercase.union titlecase).symmetricDifference (readGaps
    "978 3 7469 1 4 1 3 3 2 3 2 1 3 5 6 1 3 1 3 2 2 2 1 1 10 2 5 1 111290 26 26 26 26 26 26 1 1 2 2
    1 2 2 2 4 1 8 26 26 26 2 1 4 2 8 1 7 27 2 1 4 1 5 1 1 3 7 27 26 26 26 26 26 26 26 26 26 26 26
    30 25 33 25 33 25 33 25 33 25 33 1 6501 26 6 26 6 26")

def changedByUppercase : CharSet :=
  (lowercase.union titlecase).symmetricDifference (readGaps
    "170 1 15 1 125 1 84 1 28 2 14 1 3 1 98 1 18 6 27 1 2 1 1 1 2 3 2 1 4 1 5 2 1 1 2 2 1 7 1 2 1 1
    2 3 6 5 1 1 1 8 2 26 7 2 30 5 149 1 129 1 355 1 39 1 2931 1 3075 121 1 3 1 16 1 49 220 2 1 1
    465 1 13 1 16 13 109 1 3 2 3 1 27 1 4 1 4 1 2 2 8 4 2855 1 2 1 2 7 102 1 31159 2 146 2 62 9 21
    1 6 1 25 1 35 1 1 1 28 3 3 3 821 35 1 7 1 14 23574 1 2 3 1 42 1 9 52319 26 26 7 1 18 26 26 26 4
    1 1 1 7 1 11 26 26 26 26 26 26 26 26 26 26 26 26 26 26 26 26 26 28 28 25 1 6 26 25 1 6 26 25 1
    6 26 25 1 6 26 25 1 6 1 1 1844 10 1 20 6 6 261 62")

def changedByTitlecase : CharSet :=
  lowercase.symmetricDifference (readGaps
    "170 1 15 1 125 1 84 1 28 2 14 1 3 1 5 1 2 1 2 1 38 1 47 1 18 6 27 1 2 1 1 1 2 3 2 1 4 1 5 2 1 1
    2 2 1 7 1 2 1 1 2 3 6 5 1 1 1 8 2 26 7 2 30 5 149 1 129 1 355 1 39 1 2887 43 1 4 3072 121 1 3 1
    16 1 49 220 2 1 1 465 1 13 1 16 13 109 1 3 2 3 1 27 1 4 1 4 1 2 2 8 4 2855 1 2 1 2 7 102 1
    31159 2 146 2 62 9 21 1 6 1 25 1 35 1 1 1 28 3 3 3 821 35 1 7 1 14 23574 1 2 3 1 42 1 9 52319
    26 26 7 1 18 26 26 26 4 1 1 1 7 1 11 26 26 26 26 26 26 26 26 26 26 26 26 26 26 26 26 26 28 28
    25 1 6 26 25 1 6 26 25 1 6 26 25 1 6 26 25 1 6 1 1 1844 10 1 20 6 6 261 62")

/-- Characters that differ from the form in which they are compared without regard to case. -/
def changedByFolding : CharSet :=
  (uppercase.union titlecase).symmetricDifference (readGaps
    "181 1 41 1 105 1 53 1 453 1 124 1 13 7 25 2 3 1 401 1 3608 86 2 6 2178 9 529 2 228 8 8 8 8 8 10
    3 2 1 10 3 2 1 42 3 2 1 266 1 4 1 3 3 2 3 2 1 3 5 6 1 3 1 3 2 2 2 1 1 10 2 5 1 35370 80 20288 7
    12 5 55528 26 26 26 26 26 26 1 1 2 2 1 2 2 2 4 1 8 26 26 26 2 1 4 2 8 1 7 27 2 1 4 1 5 1 1 3 7
    27 26 26 26 26 26 26 26 26 26 26 26 30 25 33 25 33 25 33 25 33 25 33 1 6501 26 6 26 6 26")

def changedByCase : CharSet :=
  (changedByLowercase.union changedByUppercase).union changedByTitlecase

end PipeQuery.Unicode
