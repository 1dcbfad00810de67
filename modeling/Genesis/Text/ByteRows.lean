import Genesis.Text.CharSet

/-!
# Sets of characters, byte by byte

A row is a list of byte ranges. The rows of a set describe the UTF-8 encodings of its members: one
byte of each range in turn, in one of the rows.
-/

namespace Genesis
namespace Text

/-- Closed ranges of the bytes of an encoding, in their order. -/
abbrev ByteRow := List (Nat × Nat)

def utf8 (n : Nat) : List Nat :=
  if n < 0x80 then [n]
  else if n < 0x800 then [0xC0 + n / 0x40, 0x80 + n % 0x40]
  else if n < 0x10000 then [0xE0 + n / 0x1000, 0x80 + n / 0x40 % 0x40, 0x80 + n % 0x40]
  else [0xF0 + n / 0x40000, 0x80 + n / 0x1000 % 0x40, 0x80 + n / 0x40 % 0x40, 0x80 + n % 0x40]

/-- Where a range has to be split so that only whole blocks of `block` code points vary. -/
def blockSplit? (a b block : Nat) : Option Nat :=
  if a / block = b / block then none
  else if a % block ≠ 0 then some (a / block * block + block - 1)
  else if b % block ≠ block - 1 then some (b / block * block - 1)
  else none

/-- The last code point of the first part of a range that no single row describes. -/
def rowSplit? (a b : Nat) : Option Nat :=
  match [0x7F, 0x7FF, 0xFFFF].find? fun n => a ≤ n && n < b with
  | some n => some n
  | none =>
    if b < 0x80 then none else [0x40, 0x1000, 0x40000].findSome? fun block => blockSplit? a b block

/-- The rows of a range, which is split at most `depth` times in a row. -/
def rowsBetween (a b : Nat) : Nat → List ByteRow
  | 0 => []
  | depth + 1 =>
    match rowSplit? a b with
    | some n => rowsBetween a n depth ++ rowsBetween (n + 1) b depth
    | none => [(utf8 a).zip (utf8 b)]

/-- The rows of a set, ascending. Surrogates have no encoding. -/
def CharSet.rows (s : CharSet) : List ByteRow :=
  let characters := s.diff (.between 0xD800 0xDFFF)
  characters.ranges.flatMap fun r => rowsBetween r.1 r.2 16

end Text
end Genesis
