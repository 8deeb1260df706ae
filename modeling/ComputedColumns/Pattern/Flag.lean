namespace ComputedColumns.Pattern

inductive Flag where
  | ignoreCase
  | multiLine
  | dotAll
  | swapGreed
  | unicode
  | crlf
  | verbose
  deriving DecidableEq

def Flag.ofLetter? : Char → Option Flag
  | 'i' => some .ignoreCase
  | 'm' => some .multiLine
  | 's' => some .dotAll
  | 'U' => some .swapGreed
  | 'u' => some .unicode
  | 'R' => some .crlf
  | 'x' => some .verbose
  | _ => none

structure FlagChange where
  on : List Flag
  off : List Flag
  deriving DecidableEq

namespace FlagChange

def none : FlagChange := ⟨[], []⟩

def isNone (change : FlagChange) : Bool := change.on.isEmpty && change.off.isEmpty

def mentions (change : FlagChange) (flag : Flag) : Bool :=
  change.on.contains flag || change.off.contains flag

def apply (change : FlagChange) (flag : Flag) (value : Bool) : Bool :=
  change.on.contains flag || value && !change.off.contains flag

def add (change : FlagChange) (cleared : Bool) (flag : Flag) : FlagChange :=
  if cleared then ⟨change.on, change.off ++ [flag]⟩ else ⟨change.on ++ [flag], change.off⟩

end FlagChange

structure Flags where
  ignoreCase : Bool
  multiLine : Bool
  dotAll : Bool
  unicode : Bool
  crlf : Bool
  deriving DecidableEq

namespace Flags

def default : Flags := ⟨false, false, false, true, false⟩

def change (flags : Flags) (c : FlagChange) : Flags where
  ignoreCase := c.apply .ignoreCase flags.ignoreCase
  multiLine := c.apply .multiLine flags.multiLine
  dotAll := c.apply .dotAll flags.dotAll
  unicode := c.apply .unicode flags.unicode
  crlf := c.apply .crlf flags.crlf

end Flags

end ComputedColumns.Pattern
