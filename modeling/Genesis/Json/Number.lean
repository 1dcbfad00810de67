import Genesis.Json.Fault
import Genesis.Text.Digits

/-!
# JSON numbers

A number is kept exactly if it is a natural number written with digits alone; any other number is
only checked. A number whose magnitude exceeds the range of binary floating point is malformed.
-/

namespace Genesis
namespace Json
namespace Number

open Text (digitValue valueOf)

/-- The nearest natural number with at most 53 significant bits; a tie goes to the even one. -/
def round53 (n : Nat) : Nat :=
  let shift := n.log2 - 52
  let unit := Nat.pow 2 shift
  let quotient := n / unit
  let twice := 2 * (n % unit)
  let up := unit < twice || (unit == twice && quotient % 2 == 1)
  (if up then quotient + 1 else quotient) * unit

/-- Whether `significand * 10 ^ exponent`, computed with 53 significant bits, stays below the
largest power of two that floating point reaches. -/
def isFinite (significand : Nat) (exponent : Int) : Bool :=
  significand == 0 || exponent < 0 ||
    (exponent ≤ 308 &&
      round53 significand * round53 (Nat.pow 10 exponent.toNat) < Nat.pow 2 1024 - Nat.pow 2 970)

/-- Append digits to a significand of 64 bits as long as they fit, and count those left out. -/
def gather : Nat → List Char → Nat × Nat
  | n, [] => (n, 0)
  | n, c :: digits =>
    let next := 10 * n + digitValue c
    if next < 2 ^ 64 then gather next digits else (n, digits.length + 1)

/-- The parts of a number: its digits before and after the point and its exponent. -/
structure Parts where
  negative : Bool
  integer : List Char
  fraction : Option (List Char)
  exponent : Option Int

namespace Parts

/-- Whether the number is in range. Digits that no longer fit the significand are dropped, each
integer digit for a power of ten. -/
def inRange (p : Parts) : Bool :=
  let fraction := p.fraction.getD []
  let (n, dropped) := gather 0 p.integer
  let (n, unused) := gather n fraction
  isFinite n (dropped - (fraction.length - unused : Nat) + p.exponent.getD 0)

def natural? (p : Parts) : Option Nat :=
  if p.negative || p.fraction.isSome || p.exponent.isSome then none else some (valueOf p.integer)

end Parts

/-- One or more digits. -/
def someDigits : List Char → Except Fault (List Char × List Char)
  | [] => .error .truncated
  | c :: s =>
    if c.isDigit then .ok ((c :: s).takeWhile Char.isDigit, (c :: s).dropWhile Char.isDigit)
    else .error .malformed

def integer : List Char → Except Fault (List Char × List Char)
  | '0' :: c :: s => if c.isDigit then .error .malformed else .ok (['0'], c :: s)
  | s => someDigits s

def fraction : List Char → Except Fault (Option (List Char) × List Char)
  | '.' :: s => do
    let (digits, s) ← someDigits s
    return (some digits, s)
  | s => .ok (none, s)

/-- An exponent mark, an optional sign and digits, if there is a mark. -/
def exponent : List Char → Except Fault (Option Int × List Char)
  | c :: s =>
    if c = 'e' ∨ c = 'E' then do
      let (negative, s) := match s with
        | '+' :: s => (false, s)
        | '-' :: s => (true, s)
        | s => (false, s)
      let (digits, s) ← someDigits s
      let magnitude : Int := valueOf digits
      return (some (if negative then -magnitude else magnitude), s)
    else .ok (none, c :: s)
  | [] => .ok (none, [])

def parts (s : List Char) : Except Fault (Parts × List Char) := do
  let (negative, s) := match s with
    | '-' :: s => (true, s)
    | s => (false, s)
  let (integer, s) ← integer s
  let (fraction, s) ← fraction s
  let (exponent, s) ← exponent s
  return ({ negative, integer, fraction, exponent }, s)

end Number

def number (s : List Char) : Except Fault (Option Nat × List Char) := do
  let (p, s) ← Number.parts s
  if p.inRange then return (p.natural?, s) else .error .malformed

end Json
end Genesis
