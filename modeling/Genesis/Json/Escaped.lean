import Genesis.Json.Fault

/-!
# JSON strings

Reading a string replaces its escapes. A character outside the basic plane is escaped as a pair of
surrogates, and neither half may stand alone.
-/

namespace Genesis
namespace Json
namespace Escaped

def hexDigit? (c : Char) : Option Nat :=
  if '0' ≤ c ∧ c ≤ '9' then some (c.toNat - '0'.toNat)
  else if 'a' ≤ c ∧ c ≤ 'f' then some (c.toNat - 'a'.toNat + 10)
  else if 'A' ≤ c ∧ c ≤ 'F' then some (c.toNat - 'A'.toNat + 10)
  else none

def unit? (a b c d : Char) : Option Nat := do
  let a ← hexDigit? a
  let b ← hexDigit? b
  let c ← hexDigit? c
  let d ← hexDigit? d
  return ((a * 16 + b) * 16 + c) * 16 + d

/-- Whether fewer than four bytes are left. -/
def isShort (s : List Char) : Bool := (s.take 4).foldl (fun n c => n + c.utf8Size) 0 < 4

def unitFault (s : List Char) : Fault := if isShort s then .truncated else .malformed

def letter? (c : Char) : Option Char :=
  if c = '"' ∨ c = '\\' ∨ c = '/' then some c
  else if c = 'b' then some '\x08'
  else if c = 'f' then some '\x0c'
  else if c = 'n' then some '\n'
  else if c = 'r' then some '\r'
  else if c = 't' then some '\t'
  else none

def isLeading (n : Nat) : Bool := 0xD800 ≤ n && n < 0xDC00

def isTrailing (n : Nat) : Bool := 0xDC00 ≤ n && n < 0xE000

def ofPair (leading trailing : Nat) : Char :=
  Char.ofNat (0x10000 + (leading - 0xD800) * 0x400 + (trailing - 0xDC00))

/-- What is wrong after a leading surrogate that no complete escape follows. -/
def pairFault : List Char → Fault
  | [] | ['\\'] => .truncated
  | '\\' :: 'u' :: s => unitFault s
  | _ => .malformed

def read : List Char → Except Fault (List Char × List Char)
  | [] | ['\\'] => .error .truncated
  | '"' :: s => .ok ([], s)
  | '\\' :: 'u' :: a :: b :: c :: d :: s =>
    match unit? a b c d with
    | none => .error .malformed
    | some n =>
      if isTrailing n then .error .malformed
      else if isLeading n then
        match s with
        | '\\' :: 'u' :: e :: f :: g :: h :: s =>
          match unit? e f g h with
          | none => .error .malformed
          | some m =>
            if isTrailing m then (read s).map fun r => (ofPair n m :: r.1, r.2)
            else .error .malformed
        | s => .error (pairFault s)
      else (read s).map fun r => (Char.ofNat n :: r.1, r.2)
  | '\\' :: c :: s =>
    if c = 'u' then .error (unitFault s)
    else match letter? c with
      | some x => (read s).map fun r => (x :: r.1, r.2)
      | none => .error .malformed
  | c :: s =>
    if c.toNat < 0x20 then .error .malformed
    else (read s).map fun r => (c :: r.1, r.2)

/-- Characters that a string may hold unescaped. -/
def isPlain (c : Char) : Bool := c != '"' && c != '\\' && 0x20 ≤ c.toNat

end Escaped
end Json
end Genesis
