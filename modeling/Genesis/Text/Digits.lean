/-!
# Decimal digits

Natural numbers as they are read from decimal digits.
-/

namespace Genesis
namespace Text

def digitValue (c : Char) : Nat := c.toNat - '0'.toNat

def valueOf (digits : List Char) : Nat := digits.foldl (fun n c => 10 * n + digitValue c) 0

def natural? (s : List Char) : Option Nat :=
  if s.isEmpty || !s.all Char.isDigit then none else some (valueOf s)

/-- A natural number with an optional sign, where only zero may be negative. -/
def signedNatural? : List Char → Option Nat
  | '+' :: s => natural? s
  | '-' :: s => (natural? s).filter (· == 0)
  | s => natural? s

@[simp] theorem valueOf_nil : valueOf [] = 0 := rfl

end Text
end Genesis
