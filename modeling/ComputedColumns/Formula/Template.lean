import ComputedColumns.Formula.Environment
import ComputedColumns.Text.Blank
import ComputedColumns.Unicode.Digit

namespace ComputedColumns

open Text

namespace Template

inductive Segment where
  | literal (c : Char)
  | reference (r : Reference)
  deriving DecidableEq

/-- An index too large to be one, and one in other than ASCII digits, is the largest there is. -/
def indexOf (ds : List Char) : Nat := (readIndex ds).getD (indexBound - 1)

def takeIndex (cs : List Char) : Option Nat × List Char :=
  match cs with
  | '[' :: rest =>
    let ds := rest.takeWhile Unicode.isDecimalDigit
    match ds, rest.dropWhile Unicode.isDecimalDigit with
    | _ :: _, ']' :: tail => (some (indexOf ds), tail)
    | _, _ => (none, cs)
  | _ => (none, cs)

theorem takeIndex_length (cs : List Char) : (takeIndex cs).2.length ≤ cs.length := by
  unfold takeIndex
  split
  · rename_i rest
    have bound := (List.dropWhile_suffix (l := rest) Unicode.isDecimalDigit).sublist.length_le
    dsimp only
    split
    · rename_i drop
      rw [drop] at bound
      simp only [List.length_cons] at *
      omega
    · exact Nat.le_refl _
  · exact Nat.le_refl _

def takeReference (cs : List Char) : Option (Reference × List Char) :=
  match cs.dropWhile (· ≠ '}') with
  | [] => none
  | _ :: rest =>
    some (⟨String.ofList (cs.takeWhile (· ≠ '}')), (takeIndex rest).1⟩, (takeIndex rest).2)

theorem takeReference_length {cs rest : List Char} {r : Reference}
    (h : takeReference cs = some (r, rest)) : rest.length ≤ cs.length := by
  unfold takeReference at h
  have bound := (List.dropWhile_suffix (l := cs) (· ≠ '}')).sublist.length_le
  split at h
  · cases h
  · rename_i tail drop
    rw [drop] at bound
    have := takeIndex_length tail
    cases h
    simp only [List.length_cons] at bound
    omega

set_option linter.unusedVariables false in
def segments : List Char → List Segment
  | [] => []
  | c :: cs =>
    if c = '{' then
      match found : takeReference cs with
      | some (r, rest) => .reference r :: segments rest
      | none => .literal c :: segments cs
    else .literal c :: segments cs
termination_by cs => cs.length
decreasing_by
  · have := takeReference_length found
    simp only [List.length_cons]
    omega
  · simp
  · simp

def Segment.text (env : Environment) : Segment → List Char
  | literal c => [c]
  | reference r => (env.lookup r).display.toList

def Segment.reference? : Segment → Option Reference
  | literal _ => none
  | reference r => some r

def substitute (env : Environment) (cs : List Char) : List Char :=
  (segments cs).flatMap (Segment.text env)

end Template

def templateReferences (template : String) : List Reference :=
  (Template.segments template.toList).filterMap Template.Segment.reference?

def evaluateTemplate (template : String) (env : Environment) : String :=
  String.ofList (collapse (Template.substitute env template.toList))

end ComputedColumns
