namespace ComputedColumns

inductive Regex (σ : Type) where
  | empty
  | step (s : σ)
  | seq (first second : Regex σ)
  | alt (first second : Regex σ)
  | times (body : Regex σ) (least : Nat) (most : Option Nat)
  | group (body : Regex σ)
  deriving DecidableEq

namespace Regex

def map {σ τ : Type} (f : σ → τ) : Regex σ → Regex τ
  | empty => empty
  | step s => step (f s)
  | seq r s => seq (r.map f) (s.map f)
  | alt r s => alt (r.map f) (s.map f)
  | times r least most => times (r.map f) least most
  | group r => group (r.map f)

def concat {σ : Type} : List (Regex σ) → Regex σ
  | [] => empty
  | [r] => r
  | r :: rest => seq r (concat rest)

def oneOf {σ : Type} (r : Regex σ) : List (Regex σ) → Regex σ
  | [] => r
  | s :: rest => alt r (oneOf s rest)

def optional {σ : Type} (r : Regex σ) : Regex σ := times r 0 (some 1)

def many {σ : Type} (r : Regex σ) : Regex σ := times r 0 none

def many1 {σ : Type} (r : Regex σ) : Regex σ := times r 1 none

end Regex

end ComputedColumns
