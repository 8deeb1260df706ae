import ComputedColumns.Unicode.FoldTable
import ComputedColumns.Unicode.Ranges

namespace ComputedColumns.Unicode

def CaseRun.pairs (run : CaseRun) : List (Nat × Nat) :=
  (List.range ((run.last - run.first) / run.step + 1)).map fun i =>
    let c := run.first + i * run.step
    (c, (c + run.shift).toNat)

def foldPairs : List (Nat × Nat) := foldRuns.flatMap CaseRun.pairs

namespace Ranges

def folds (rs : Ranges) : Ranges :=
  rs.union ((foldPairs.filter fun (c, _) => rs.holds c).map fun (_, d) => ⟨d, d⟩)

def foldClosure (rs : Ranges) : Ranges :=
  let folded := rs.folds
  folded.union ((foldPairs.filter fun (_, d) => folded.holds d).map fun (c, _) => ⟨c, c⟩)

def asciiFoldClosure (rs : Ranges) : Ranges :=
  let lower := rs.inter [⟨0x61, 0x7A⟩]
  let upper := rs.inter [⟨0x41, 0x5A⟩]
  (rs.union (lower.map fun r => ⟨r.first - 32, r.last - 32⟩)).union
    (upper.map fun r => ⟨r.first + 32, r.last + 32⟩)

end Ranges

end ComputedColumns.Unicode
