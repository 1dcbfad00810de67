import Genesis.Text.Blank
import Genesis.Text.Digits

/-!
# The layout of a written pattern

In the extended form of a pattern blanks and comments between its parts are passed over; a comment
lasts from a number sign to the end of the line. Numbers may be surrounded by blanks in any form.
-/

namespace Genesis
namespace Pattern

open Text

/-- Drop blanks and comments; `inComment` says whether a comment has begun. -/
def dropLayout (inComment : Bool) : List Char → List Char
  | [] => []
  | c :: s =>
    if inComment then dropLayout (c ≠ '\n') s
    else if isBlank c then dropLayout false s
    else if c = '#' then dropLayout true s
    else c :: s

def skip (extended : Bool) (s : List Char) : List Char :=
  if extended then dropLayout false s else s

/-- The character in front of which the next part starts, as it is looked for behind a hyphen: at
most one number sign is passed over, and no comment. -/
def peek (extended : Bool) (s : List Char) : Option Char :=
  if extended then
    match s.dropWhile isBlank with
    | '#' :: t => (t.dropWhile isBlank).head?
    | t => t.head?
  else s.head?

def takeSpread (property : Char → Bool) (extended inComment : Bool) :
    List Char → List Char × List Char
  | [] => ([], [])
  | c :: s =>
    if inComment then takeSpread property extended (c ≠ '\n') s
    else if extended && isBlank c then takeSpread property extended false s
    else if extended && c = '#' then takeSpread property extended true s
    else if property c then
      let (taken, rest) := takeSpread property extended false s
      (c :: taken, rest)
    else ([], c :: s)

def count? (extended : Bool) (s : List Char) : Option (Nat × List Char) :=
  let (digits, rest) := takeSpread Char.isDigit extended false (s.dropWhile isBlank)
  if digits.isEmpty ∨ UInt32.size ≤ valueOf digits then none
  else some (valueOf digits, rest.dropWhile isBlank)

end Pattern
end Genesis
