/-!
# What can be wrong with a JSON text

A text is read from left to right, and the first fault met decides its kind.
-/

namespace Genesis
namespace Json

inductive Fault where
  /-- The characters do not form a JSON text. -/
  | malformed
  /-- Well-formed so far, but not what is expected in this place. -/
  | mismatched
  /-- The text ends too early. -/
  | truncated
deriving DecidableEq, Repr

def isSpace (c : Char) : Bool := c == ' ' || c == '\t' || c == '\n' || c == '\r'

def skipSpace (s : List Char) : List Char := s.dropWhile isSpace

/-- Consume exactly the given characters. -/
def expect : List Char → List Char → Except Fault (List Char)
  | [], s => .ok s
  | _ :: _, [] => .error .truncated
  | c :: cs, d :: s => if c = d then expect cs s else .error .malformed

theorem skipSpace_cons_of_not {c : Char} (h : isSpace c = false) (s : List Char) :
    skipSpace (c :: s) = c :: s := by
  simp [skipSpace, h]

end Json
end Genesis
