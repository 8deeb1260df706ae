namespace ComputedColumns.Text

/-- The first difference decides; a beginning comes before the longer text. -/
def compareChars : List Char → List Char → Ordering
  | [], [] => .eq
  | [], _ :: _ => .lt
  | _ :: _, [] => .gt
  | c :: cs, d :: ds => (compare c.toNat d.toNat).then (compareChars cs ds)

end ComputedColumns.Text
