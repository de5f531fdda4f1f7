import PipeQuery.Unicode.CategoryRuns

/-!
# General categories

Characters by general category, and the names of the categories and of the groups they form. No
character is a surrogate, so that category has no name here.
-/

set_option autoImplicit false

namespace PipeQuery.Unicode

/-- The names of each category and group, in the form in which they are compared, and the categories
that belong to it. -/
def categoryNames : List (List String × List String) :=
  [(["c", "other"], ["Cc", "Cf", "Cn", "Co"]),
   (["cc", "control", "cntrl"], ["Cc"]),
   (["cf", "format"], ["Cf"]),
   (["cn", "unassigned"], ["Cn"]),
   (["co", "privateuse"], ["Co"]),
   (["l", "letter"], ["Lu", "Ll", "Lt", "Lm", "Lo"]),
   (["lc", "casedletter"], ["Lu", "Ll", "Lt"]),
   (["ll", "lowercaseletter"], ["Ll"]),
   (["lm", "modifierletter"], ["Lm"]),
   (["lo", "otherletter"], ["Lo"]),
   (["lt", "titlecaseletter"], ["Lt"]),
   (["lu", "uppercaseletter"], ["Lu"]),
   (["m", "mark", "combiningmark"], ["Mn", "Mc", "Me"]),
   (["mc", "spacingmark"], ["Mc"]),
   (["me", "enclosingmark"], ["Me"]),
   (["mn", "nonspacingmark"], ["Mn"]),
   (["n", "number"], ["Nd", "Nl", "No"]),
   (["nd", "decimalnumber", "digit"], ["Nd"]),
   (["nl", "letternumber"], ["Nl"]),
   (["no", "othernumber"], ["No"]),
   (["p", "punctuation", "punct"], ["Pc", "Pd", "Ps", "Pe", "Pi", "Pf", "Po"]),
   (["pc", "connectorpunctuation"], ["Pc"]),
   (["pd", "dashpunctuation"], ["Pd"]),
   (["pe", "closepunctuation"], ["Pe"]),
   (["pf", "finalpunctuation"], ["Pf"]),
   (["pi", "initialpunctuation"], ["Pi"]),
   (["po", "otherpunctuation"], ["Po"]),
   (["ps", "openpunctuation"], ["Ps"]),
   (["s", "symbol"], ["Sm", "Sc", "Sk", "So"]),
   (["sc", "currencysymbol"], ["Sc"]),
   (["sk", "modifiersymbol"], ["Sk"]),
   (["sm", "mathsymbol"], ["Sm"]),
   (["so", "othersymbol"], ["So"]),
   (["z", "separator"], ["Zs", "Zl", "Zp"]),
   (["zl", "lineseparator"], ["Zl"]),
   (["zp", "paragraphseparator"], ["Zp"]),
   (["zs", "spaceseparator"], ["Zs"])]

def ofCategories (categories : List String) : CharSet :=
  .ofRuns categories.contains categoryRuns

/-- The characters of a category or of a group of them by its name. Three names that are not categories
are used like them. -/
def category? (name : String) : Option CharSet :=
  if name == "any" then some .all
  else if name == "assigned" then some (.ofRuns (· != "Cn") categoryRuns)
  else if name == "ascii" then some ⟨#[0, 128]⟩
  else (categoryNames.find? (fun row => row.1.contains name)).map (fun row => ofCategories row.2)

def decimalDigits : CharSet := ofCategories ["Nd"]

def numeric : CharSet := ofCategories ["Nd", "Nl", "No"]

def wordContinuations : CharSet := ofCategories ["Mn", "Mc", "Me", "Nd", "Pc"]

def printable : CharSet :=
  .ofRuns (fun label => !(["Cc", "Cf", "Cs", "Co", "Cn", "Zl", "Zp", "Zs"].contains label)) categoryRuns

end PipeQuery.Unicode
