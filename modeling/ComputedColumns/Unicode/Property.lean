import ComputedColumns.Unicode.CaseChange
import ComputedColumns.Unicode.Category
import ComputedColumns.Unicode.PropertyTable

namespace ComputedColumns.Unicode

def listed? (table : List (List String × String)) (name : String) : Option Ranges :=
  (table.find? fun (names, _) => names.contains name).map fun (_, s) => .ofHex s

def listedProperty (name : String) : Ranges := (listed? propertyTable name).getD []

def whiteSpace : Ranges := (ofCategories ["Zs", "Zl", "Zp"]).union (.ofHex "9-D 85")

def lowercase : Ranges := (ofCategories ["Ll"]).union (listedProperty "otherlowercase")

def uppercase : Ranges := (ofCategories ["Lu"]).union (listedProperty "otheruppercase")

def cased : Ranges := (lowercase.union uppercase).union (ofCategories ["Lt"])

def caseIgnorable : Ranges :=
  (ofCategories ["Mn", "Me", "Cf", "Lm", "Sk"]).union
    (.ofHex "27 2E 3A B7 387 55F 5F4 2018-2019 2024 2027 FE13 FE52 FE55 FF07 FF0E FF1A")

def alphabetic : Ranges :=
  (cased.union (ofCategories ["Lm", "Lo", "Nl"])).union (listedProperty "otheralphabetic")

def decimalDigits : Ranges := ofCategories ["Nd"]

def wordCharacters : Ranges :=
  alphabetic.union ((ofCategories ["Mn", "Mc", "Me", "Nd", "Pc"]).union (listedProperty "joincontrol"))

def idStart : Ranges :=
  ((ofCategories ["Lu", "Ll", "Lt", "Lm", "Lo", "Nl"]).union (listedProperty "otheridstart")).diff
    ((listedProperty "patternsyntax").union (listedProperty "patternwhitespace"))

def idContinue : Ranges :=
  (idStart.union (ofCategories ["Mn", "Mc", "Nd", "Pc"])).union (listedProperty "otheridcontinue")

def unstableInNames : Ranges :=
  .ofHex "37A 309B-309C FC5E-FC63 FDFA-FDFB FE70 FE72 FE74 FE76 FE78 FE7A FE7C FE7E"

def graphemeExtend : Ranges :=
  (ofCategories ["Mn", "Me"]).union (listedProperty "othergraphemeextend")

def graphemeBase : Ranges :=
  ((assigned.diff (ofCategories ["Cc", "Cf", "Co", "Zl", "Zp"]))).diff graphemeExtend

def property? (name : String) : Option Ranges :=
  match name with
  | "whitespace" | "wspace" | "space" => some whiteSpace
  | "lowercase" | "lower" => some lowercase
  | "uppercase" | "upper" => some uppercase
  | "cased" => some cased
  | "caseignorable" | "ci" => some caseIgnorable
  | "alphabetic" | "alpha" => some alphabetic
  | "changeswhenlowercased" | "cwl" => some changesLowercased
  | "changeswhenuppercased" | "cwu" => some changesUppercased
  | "changeswhentitlecased" | "cwt" => some changesTitlecased
  | "changeswhencasefolded" | "cwcf" => some changesCasefolded
  | "changeswhencasemapped" | "cwcm" => some changesCasemapped
  | "idstart" | "ids" => some idStart
  | "idcontinue" | "idc" => some idContinue
  | "xidstart" | "xids" => some ((idStart.diff unstableInNames).diff (.ofHex "E33 EB3 FF9E-FF9F"))
  | "xidcontinue" | "xidc" => some (idContinue.diff unstableInNames)
  | "graphemeextend" | "grext" => some graphemeExtend
  | "graphemebase" | "grbase" => some graphemeBase
  | "math" => some ((ofCategories ["Sm"]).union (listedProperty "othermath"))
  | "dash" => some ((ofCategories ["Pd"]).union (.ofHex "2053 207B 208B 2212"))
  | _ => listed? propertyTable name

end ComputedColumns.Unicode
