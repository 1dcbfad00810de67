import Genesis.Text.Blank

/-!
# Sets of characters

A set of characters is kept as closed ranges of code points, ascending and with gaps between them.
-/

namespace Genesis
namespace Text

def lastCode : Nat := 0x10FFFF

/-- Put a closed range into ascending ranges and join it with those that it touches. -/
def insertRange (a b : Nat) : List (Nat × Nat) → List (Nat × Nat)
  | [] => [(a, b)]
  | (x, y) :: rs =>
    if b + 1 < x then (a, b) :: (x, y) :: rs
    else if y + 1 < a then (x, y) :: insertRange a b rs
    else insertRange (min a x) (max b y) rs

def gapsFrom (start : Nat) : List (Nat × Nat) → List (Nat × Nat)
  | [] => if start ≤ lastCode then [(start, lastCode)] else []
  | (x, y) :: rs =>
    if start < x then (start, x - 1) :: gapsFrom (y + 1) rs else gapsFrom (y + 1) rs

structure CharSet where
  ranges : List (Nat × Nat)
deriving DecidableEq

namespace CharSet

def empty : CharSet := ⟨[]⟩

def between (a b : Nat) : CharSet := ⟨[(a, b)]⟩

def full : CharSet := between 0 lastCode

def single (c : Char) : CharSet := between c.toNat c.toNat

def contains (s : CharSet) (c : Char) : Bool := inRanges s.ranges c.toNat

def union (s t : CharSet) : CharSet :=
  ⟨s.ranges.foldl (fun rs r => insertRange r.1 r.2 rs) t.ranges⟩

def ofRanges (rs : List (Nat × Nat)) : CharSet := union ⟨rs⟩ empty

def complement (s : CharSet) : CharSet := ⟨gapsFrom 0 s.ranges⟩

def inter (s t : CharSet) : CharSet := (s.complement.union t.complement).complement

def diff (s t : CharSet) : CharSet := s.inter t.complement

def symmDiff (s t : CharSet) : CharSet := (s.union t).diff (s.inter t)

/-- Whether all members are ASCII characters. -/
def isAscii (s : CharSet) : Bool := s.ranges.all fun r => r.2 < 0x80

def only? (s : CharSet) : Option Nat :=
  match s.ranges with
  | [(a, b)] => if a = b then some a else none
  | _ => none

def upperLetters : CharSet := between 0x41 0x5A
def lowerLetters : CharSet := between 0x61 0x7A

def bothCases (s : CharSet) : CharSet :=
  let lowered := (s.inter upperLetters).ranges.map fun r => (r.1 + 0x20, r.2 + 0x20)
  let raised := (s.inter lowerLetters).ranges.map fun r => (r.1 - 0x20, r.2 - 0x20)
  s.union (ofRanges (lowered ++ raised))

end CharSet

end Text
end Genesis
