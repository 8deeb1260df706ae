import ComputedColumns.Unicode.CategoryTable
import ComputedColumns.Unicode.Ranges

namespace ComputedColumns.Unicode

def categories : List (String × Ranges) := categoryTable.map fun (code, s) => (code, .ofHex s)

def ofCategories (codes : List String) : Ranges :=
  .canonical ((categories.filter fun (code, _) => codes.contains code).flatMap (·.2))

def categoryNames : List (List String × List String) := [
  (["l", "letter"], ["Lu", "Ll", "Lt", "Lm", "Lo"]),
  (["lc", "casedletter"], ["Lu", "Ll", "Lt"]),
  (["lu", "uppercaseletter"], ["Lu"]),
  (["ll", "lowercaseletter"], ["Ll"]),
  (["lt", "titlecaseletter"], ["Lt"]),
  (["lm", "modifierletter"], ["Lm"]),
  (["lo", "otherletter"], ["Lo"]),
  (["m", "mark", "combiningmark"], ["Mn", "Mc", "Me"]),
  (["mn", "nonspacingmark"], ["Mn"]),
  (["mc", "spacingmark"], ["Mc"]),
  (["me", "enclosingmark"], ["Me"]),
  (["n", "number"], ["Nd", "Nl", "No"]),
  (["nd", "decimalnumber", "digit"], ["Nd"]),
  (["nl", "letternumber"], ["Nl"]),
  (["no", "othernumber"], ["No"]),
  (["p", "punctuation", "punct"], ["Pc", "Pd", "Ps", "Pe", "Pi", "Pf", "Po"]),
  (["pc", "connectorpunctuation"], ["Pc"]),
  (["pd", "dashpunctuation"], ["Pd"]),
  (["ps", "openpunctuation"], ["Ps"]),
  (["pe", "closepunctuation"], ["Pe"]),
  (["pi", "initialpunctuation"], ["Pi"]),
  (["pf", "finalpunctuation"], ["Pf"]),
  (["po", "otherpunctuation"], ["Po"]),
  (["s", "symbol"], ["Sm", "Sc", "Sk", "So"]),
  (["sm", "mathsymbol"], ["Sm"]),
  (["sc", "currencysymbol"], ["Sc"]),
  (["sk", "modifiersymbol"], ["Sk"]),
  (["so", "othersymbol"], ["So"]),
  (["z", "separator"], ["Zs", "Zl", "Zp"]),
  (["zs", "spaceseparator"], ["Zs"]),
  (["zl", "lineseparator"], ["Zl"]),
  (["zp", "paragraphseparator"], ["Zp"]),
  (["cc", "control", "cntrl"], ["Cc"]),
  (["cf", "format"], ["Cf"]),
  (["co", "privateuse"], ["Co"])]

def assigned : Ranges := ofCategories (categories.map (·.1))

/-- The group of control, format, private and unassigned characters is what the others leave. -/
def otherCharacters : Ranges :=
  (assigned.diff (ofCategories ["Cc", "Cf", "Co"])).complement

def category? (name : String) : Option Ranges :=
  if name = "any" then some .everything
  else if name = "ascii" then some [⟨0, 0x7F⟩]
  else if name = "assigned" then some assigned
  else if name = "cn" || name = "unassigned" then some assigned.complement
  else if name = "c" || name = "other" then some otherCharacters
  else (categoryNames.find? fun (names, _) => names.contains name).map fun (_, codes) =>
    ofCategories codes

end ComputedColumns.Unicode
