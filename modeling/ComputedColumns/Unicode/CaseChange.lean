import ComputedColumns.Unicode.Category
import ComputedColumns.Unicode.Folding

namespace ComputedColumns.Unicode

/-- The mappings pair a few letters that the properties know nothing of yet. -/
def pairedLater : Ranges := .ofHex "A7CE-A7CF A7D2-A7D5 16EA0-16EB8 16EBB-16ED3"

def changedBy (runs : List CaseRun) (expansions : List (Nat × List Nat)) : Ranges :=
  (Ranges.canonical ((runs.flatMap fun run => run.pairs.map fun (c, _) => ⟨c, c⟩) ++
    expansions.map fun (c, _) => ⟨c, c⟩)).diff pairedLater

def changesLowercased : Ranges := changedBy lowerRuns lowerExpansions

def changesUppercased : Ranges := changedBy upperRuns upperExpansions

def changesTitlecased : Ranges :=
  (changesUppercased.diff ((ofCategories ["Lt"]).union (.ofHex "10D0-10FA 10FD-10FF"))).union
    (.ofHex "1C4 1C7 1CA 1F1")

/-- Full folding takes some characters to several, which simple folding leaves as they are. Three that
it folds have a decomposition that it would not change, and do not count. -/
def changesCasefolded : Ranges :=
  ((changedBy foldRuns []).diff (.ofHex "1FBE 1FD3 1FE3")).union
    (.ofHex "DF 130 149 587 1E9A 1F80-1F87 1F90-1F97 1FA0-1FA7 1FB2-1FB4 1FB7 1FC2-1FC4 1FC7 1FF2-1FF4
      1FF7 FB00-FB06 FB13-FB17")

def changesCasemapped : Ranges := changesLowercased.union changesUppercased

end ComputedColumns.Unicode
