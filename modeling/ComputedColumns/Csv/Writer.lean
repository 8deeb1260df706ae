namespace ComputedColumns.Csv

def needsQuotes (field : List Char) : Bool :=
  field.any fun c => c = ',' || c = '"' || c = '\r' || c = '\n'

def quote (field : List Char) : List Char :=
  '"' :: field.flatMap (fun c => if c = '"' then ['"', '"'] else [c]) ++ ['"']

def fieldText (field : String) : List Char :=
  if needsQuotes field.toList then quote field.toList else field.toList

/-- A line has at least one character, so that a single empty field is not lost. -/
def lineText (fields : List String) : List Char :=
  let line := [','].intercalate (fields.map fieldText)
  (if line.isEmpty then ['"', '"'] else line) ++ ['\n']

def write (rows : List (List String)) : String := String.ofList (rows.flatMap lineText)

end ComputedColumns.Csv
