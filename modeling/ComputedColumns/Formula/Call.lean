import ComputedColumns.Formula.Rounding
import ComputedColumns.Formula.TemporalCast
import ComputedColumns.Text.Case
import ComputedColumns.Text.Occurrence

namespace ComputedColumns

namespace Function

open Text

def arg (args : List Value) (i : Nat) : Value := args.getD i .nil

def textArg (args : List Value) (i : Nat) : List Char := (arg args i).display.toList

def intArg (args : List Value) (i : Nat) : Int64 := (arg args i).toNumber.toInt64

def lastChars (n : Nat) (cs : List Char) : List Char := cs.drop (cs.length - n)

/-- A count of replacements limits them unless it is negative. -/
def replaceText (text old new : List Char) : Option Int64 → List Char
  | none => replaceAll old new text
  | some count =>
    if 0 ≤ count.toInt then replaceFirst count.toInt.toNat old new text
    else replaceAll old new text

def splitText (text delimiter : List Char) : List (List Char) :=
  if delimiter.isEmpty then text.map ([·]) else pieces delimiter text

/-- A negative index counts from the end. -/
def nthPiece (parts : List (List Char)) (index : Int) : Value :=
  let position := if index < 0 then index + parts.length else index
  if position < 0 then .nil
  else
    match parts[position.toNat]? with
    | some part => .ofChars part
    | none => .nil

def extreme (wanted : Ordering) (args : List Value) : Number :=
  (args.drop 1).foldl
    (fun best v => if v.toNumber.compare? best == some wanted then v.toNumber else best)
    (arg args 0).toNumber

def total (args : List Value) : Number := args.foldl (fun n v => n.add v.toNumber) (.int 0)

def castDate (args : List Value) : Except FormulaError Value := do
  let d ←
    if args.length = 3 then
      Temporal.dateOfNumbers (intArg args 0).toInt (intArg args 1).toInt (intArg args 2).toInt
    else Temporal.readDate (textArg args 0)
  .ok (Temporal.date.value d.text)

def castTime (args : List Value) : Except FormulaError Value := do
  let t ←
    if args.length = 2 then Temporal.timeOfNumbers (intArg args 0).toInt (intArg args 1).toInt
    else Temporal.readTime (textArg args 0)
  .ok (Temporal.time.value t.text)

def castDateTime (args : List Value) : Except FormulaError Value := do
  let m ←
    if args.length = 2 then do
      let d ← Temporal.readDate (textArg args 0)
      let t ← Temporal.readTime (textArg args 1)
      pure ⟨d, t⟩
    else Temporal.readDateTime (textArg args 0)
  .ok (Temporal.datetime.value m.text)

def apply (f : Function) (args : List Value) : Except FormulaError Value :=
  match f with
  | .conditional =>
    .ok (if (arg args 0).isTruthy then arg args 1 else args.getD 2 (.text ""))
  | .upper => .ok (.ofChars (Text.upper (textArg args 0)))
  | .lower => .ok (.ofChars (Text.lower (textArg args 0)))
  | .trim => .ok (.ofChars (Text.trim (textArg args 0)))
  | .len => .ok (.number (.int (Int64.ofNat (textArg args 0).length)))
  | .left => .ok (.ofChars ((textArg args 0).take (intArg args 1).toInt.toNat))
  | .right => .ok (.ofChars (lastChars (intArg args 1).toInt.toNat (textArg args 0)))
  | .replace =>
    .ok (.ofChars (replaceText (textArg args 0) (textArg args 1) (textArg args 2)
      (args[3]?.map (·.toNumber.toInt64))))
  | .contains => .ok (.boolean (Text.contains (textArg args 1) (textArg args 0)))
  | .concat => .ok (.text (args.foldl (fun s v => s ++ v.display) ""))
  | .split => .ok (nthPiece (splitText (textArg args 0) (textArg args 1)) (intArg args 2).toInt)
  | .and => .ok (.boolean (args.all (·.isTruthy)))
  | .or => .ok (.boolean (args.any (·.isTruthy)))
  | .not => .ok (.boolean (!(arg args 0).isTruthy))
  | .round =>
    .ok (.number ((arg args 0).toNumber.round ((args[1]?.map (·.toNumber.toInt64)).getD 0)))
  | .abs => .ok (.number (arg args 0).toNumber.abs)
  | .floor => .ok (.number (arg args 0).toNumber.floor)
  | .ceil => .ok (.number (arg args 0).toNumber.ceil)
  | .min => .ok (.number (extreme .lt args))
  | .max => .ok (.number (extreme .gt args))
  | .sum => .ok (.number (total args))
  | .coalesce => .ok ((args.find? (·.isTruthy)).getD (.text ""))
  | .number => .ok (.number (arg args 0).toNumber)
  | .text => .ok (.text (arg args 0).display)
  | .boolean => .ok (.boolean (arg args 0).isTruthy)
  | .currency => .ok (.typed .currency (.number (.float (arg args 0).toNumber.toFloat)))
  | .date => castDate args
  | .time => castTime args
  | .datetime => castDateTime args

def call (f : Function) (args : List Value) : Except FormulaError Value := do
  f.checkArity args.length
  f.apply args

end Function

end ComputedColumns
