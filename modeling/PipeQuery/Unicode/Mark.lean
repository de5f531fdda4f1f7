import PipeQuery.Unicode.Category

/-!
# Marks

Characters that combine with the ones before or after them, from the Unicode character database, version
16.
-/

set_option autoImplicit false

namespace PipeQuery.Unicode

/-- Characters that extend the one before them without being marks that do by their category. -/
def otherGraphemeExtend : CharSet := readGaps
  "2494 1 24 1 358 1 24 1 102 1 24 1 232 1 1 1 4 2 1 2 9 2 103 1 24 1 119 1 15 1 2357 1 30 1 1024
  1 5 1 1 1 5 2 101 1 71 2 1048 1 4129 2 31011 1 108 1 21981 2 4640 1 116 1 264 1 14 1 9 1 96 1 9
  1 2 1 1 3 5 1 224 1 12 1 241 1 262 1 633 1 12 1 1539 1 20654 2 24947 2 6 6 798381 96"

def graphemeExtend : CharSet := (ofCategories ["Mn", "Me"]).union otherGraphemeExtend

def graphemeBase : CharSet :=
  CharSet.all.without
    ((ofCategories ["Cc", "Cf", "Cs", "Co", "Cn", "Zl", "Zp"]).union graphemeExtend)

def graphemeLink : CharSet := readGaps
  "2381 1 127 1 127 1 127 1 127 1 127 1 127 1 127 1 109 2 16 1 124 1 111 1 127 1 201 1 180 2 1753
  2 30 1 157 1 653 1 227 1 101 2 70 2 4491 1 31366 1 37 1 151 1 142 1 108 1 309 1 246 1 24145 1
  1542 1 41 1 14 1 57 1 121 2 139 1 116 1 180 1 98 1 128 3 113 1 127 1 252 1 127 1 118 1 116 1 269
  1 259 2 161 1 83 1 18 1 81 1 421 1 260 2 81 1 425 2 16876 1"

def modifierCombiningMark : CharSet := readGaps "1620 2 2 1 131 1 6 1 3 2 481 2 1 3 3 1 31 1"

def prependedConcatenationMark : CharSet := readGaps "1536 6 215 1 49 1 384 2 80 1 67546 1 15 1"

def variationSelector : CharSet := readGaps "6155 3 1 1 58864 16 852720 240"

def joinControl : CharSet := readGaps "8204 2"

end PipeQuery.Unicode
