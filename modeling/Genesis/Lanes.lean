/-!
# Byte lanes

A bus access strobes the upper byte lane, the lower one or both. Without a strobe there is no
access.
-/

namespace Genesis

/-- The halves of a word that a bus access requests. -/
inductive Lanes where
  | high
  | low
  | both
deriving DecidableEq, Repr

namespace Lanes

def ofStrobes : Bool → Bool → Option Lanes
  | true, true => some both
  | true, false => some high
  | false, true => some low
  | false, false => none

def hasHigh : Lanes → Bool
  | low => false
  | _ => true

def hasLow : Lanes → Bool
  | high => false
  | _ => true

def name : Lanes → String
  | high => "high"
  | low => "low"
  | both => "both"

/-- Selects the requested halves of a word. -/
def mask : Lanes → UInt16
  | high => 0xFF00
  | low => 0x00FF
  | both => 0xFFFF

theorem ofStrobes_hasHigh_hasLow (l : Lanes) : ofStrobes l.hasHigh l.hasLow = some l := by
  cases l <;> rfl

theorem ofStrobes_eq_some_iff (upper lower : Bool) (l : Lanes) :
    ofStrobes upper lower = some l ↔ upper = l.hasHigh ∧ lower = l.hasLow := by
  cases upper <;> cases lower <;> cases l <;> decide

end Lanes
end Genesis
