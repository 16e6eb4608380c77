import Conformance.Files.Tree
import Conformance.Host.Chars
import Conformance.Text.Lines

/-!
# Changes of a mode

A mode is the sum of what is permitted to the owner of a file, to its group and to all others. It is
changed by digits, or by clauses such as `u+x` or `go=u`, one after the other.
-/
namespace Conformance.Host

/-- All bits of a mode: the permissions of owner, group and all others, and three that change how
a file is run. -/
def everyone : Nat := 0o7777

/-- Where the bits of a step come from. -/
inductive ModeSource
  | given
  /-- From the permissions that one class of users has. -/
  | existing
  /-- Running is permitted too, if someone may run the file. -/
  | runnable
deriving DecidableEq

structure ModeStep where
  sign : Char
  /-- The bits of the classes of users that are named, if some are. -/
  who : Option Nat
  value : Nat
  source : ModeSource := .given
  /-- The bits that the step speaks of, which alone may take something from a folder that changes
  how its files are owned. -/
  mentioned : Nat

namespace ModeStep

/-- Bits without those of a mask. -/
def without (bits mask : Nat) : Nat :=
  bits - (bits &&& mask)

/-- The permissions that some bits give in one class, in all classes. -/
def spread (bits : Nat) : Nat :=
  let all (n : Nat) : Nat := if bits &&& n = 0 then 0 else n
  all 0o444 ||| all 0o222 ||| all 0o111

/-- The mode after a step; a mask takes from what no class of users is named for. -/
def apply (isFolder : Bool) (mask mode : Nat) (s : ModeStep) : Nat :=
  let kept := if isFolder then without 0o6000 s.mentioned else 0
  let source := match s.source with
    | .given => s.value
    | .existing => spread (s.value &&& mode)
    | .runnable => if isFolder || mode &&& 0o111 != 0 then s.value ||| 0o111 else s.value
  let value := without (source &&& s.who.getD (without everyone mask)) kept
  match s.sign with
  | '+' => mode ||| value
  | '-' => without mode value
  | _ => (mode &&& (without everyone (s.who.getD everyone) ||| kept)) ||| value

/-- The bits of the classes of users that letters name. -/
def whoBits (letters : Chars) : Nat :=
  letters.foldl (fun n c => n ||| (match c with
    | 'u' => 0o4700
    | 'g' => 0o2070
    | 'o' => 0o1007
    | _ => everyone)) 0

/-- The bits that a letter stands for, in every class of users. -/
def permissionBits (c : Char) : Nat :=
  match c with
  | 'r' => 0o444
  | 'w' => 0o222
  | 'x' => 0o111
  | 's' => 0o6000
  | 't' => 0o1000
  | _ => 0

def octal (digits : Chars) : Nat :=
  digits.foldl (fun n c => 8 * n + (c.toNat - '0'.toNat)) 0

def isOctalDigit (c : Char) : Bool :=
  '0' ≤ c && c ≤ '7'

/-- A step behind its sign, and what follows it. -/
def read (who : Option Nat) (sign : Char) (s : Chars) : Option (ModeStep × Chars) :=
  let digits := s.takeWhile isOctalDigit
  let named (bits : Nat) (rest : Chars) : Option (ModeStep × Chars) :=
    some ({ sign, who, value := bits, source := .existing,
            mentioned := bits &&& who.getD everyone }, rest)
  if !digits.isEmpty then
    let n := octal digits
    if who.isSome || everyone < n then none
    else
      some ({ sign, who := some everyone, value := n, mentioned := everyone },
        s.drop digits.length)
  else
    match s with
    | 'u' :: rest => named 0o700 rest
    | 'g' :: rest => named 0o070 rest
    | 'o' :: rest => named 0o007 rest
    | _ =>
      let letters := s.takeWhile fun c => "rwxXst".toList.contains c
      let value := letters.foldl (fun n c => n ||| permissionBits c) 0
      some ({ sign, who, value
              source := if letters.contains 'X' then .runnable else .given
              mentioned := value &&& who.getD everyone }, s.drop letters.length)

/-- The steps of a clause behind the classes of users. -/
def readAll (who : Option Nat) : (fuel : Nat) → Chars → Option (List ModeStep)
  | _, [] => some []
  | 0, _ => none
  | fuel + 1, sign :: s =>
    if sign = '+' || sign = '-' || sign = '=' then
      (read who sign s).bind fun (step, rest) => (readAll who fuel rest).map (step :: ·)
    else none

/-- The steps that a clause asks for. -/
def clause? (s : Chars) : Option (List ModeStep) :=
  let who := s.takeWhile fun c => "ugoa".toList.contains c
  let rest := s.drop who.length
  if rest.isEmpty then none
  else readAll (if who.isEmpty then none else some (whoBits who)) (rest.length + 1) rest

end ModeStep

/-- What is done to a mode. -/
abbrev ModeChange := List ModeStep

namespace ModeChange

/-- The change that a text asks for. -/
def read? (s : Chars) : Option ModeChange :=
  if !s.isEmpty && s.all ModeStep.isOctalDigit then
    let n := ModeStep.octal s
    if everyone < n then none
    else
      let mentioned := if 4 < s.length then everyone else (n &&& 0o7000) ||| 0o777
      some [{ sign := '=', who := some everyone, value := n, mentioned }]
  else ((Text.splitOn (· == ',') s).mapM ModeStep.clause?).map List.flatten

/-- The change to a mode. -/
def exactly (mode : Nat) : ModeChange :=
  [{ sign := '=', who := some everyone, value := mode, mentioned := everyone }]

def apply (change : ModeChange) (isFolder : Bool) (mask mode : Nat) : Nat :=
  change.foldl (ModeStep.apply isFolder mask) mode

end ModeChange
end Conformance.Host
