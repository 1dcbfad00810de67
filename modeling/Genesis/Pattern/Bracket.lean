import Genesis.Pattern.Atom

/-!
# Bracketed sets

A bracketed set lists characters, ranges, classes and further bracketed sets, and may combine such
lists as sets. Combining is left-associative and binds weaker than listing.
-/

namespace Genesis
namespace Pattern

open Text

/-- The classes with a name within colons. -/
def namedSets : List (String × List (Nat × Nat)) :=
  [("alnum", [(0x30, 0x39), (0x41, 0x5A), (0x61, 0x7A)]), ("alpha", [(0x41, 0x5A), (0x61, 0x7A)]),
   ("ascii", [(0x00, 0x7F)]), ("blank", [(0x09, 0x09), (0x20, 0x20)]),
   ("cntrl", [(0x00, 0x1F), (0x7F, 0x7F)]), ("digit", [(0x30, 0x39)]), ("graph", [(0x21, 0x7E)]),
   ("lower", [(0x61, 0x7A)]), ("print", [(0x20, 0x7E)]),
   ("punct", [(0x21, 0x2F), (0x3A, 0x40), (0x5B, 0x60), (0x7B, 0x7E)]),
   ("space", [(0x09, 0x0D), (0x20, 0x20)]), ("upper", [(0x41, 0x5A)]),
   ("word", [(0x30, 0x39), (0x41, 0x5A), (0x5F, 0x5F), (0x61, 0x7A)]),
   ("xdigit", [(0x30, 0x39), (0x41, 0x46), (0x61, 0x66)])]

def namedSet? : List Char → Option (Bool × CharSet × List Char)
  | ':' :: s =>
    let (isNegated, s) := match s with
      | '^' :: s => (true, s)
      | s => (false, s)
    match cut ':' s with
    | some (name, ']' :: rest) =>
      (namedSets.lookup (String.ofList name)).map fun rs => (isNegated, .ofRanges rs, rest)
    | _ => none
  | _ => none

inductive Combination where
  | intersection
  | difference
  | symmetricDifference
deriving DecidableEq

structure Operand where
  set : CharSet
  depth : Nat

structure Listing where
  set : CharSet := .empty
  count : Nat := 0
  depth : Nat := 0

namespace Listing

def add (l : Listing) (s : CharSet) (depth : Nat) : Listing :=
  ⟨s.union l.set, l.count + 1, max l.depth depth⟩

def operand (l : Listing) : Operand := ⟨l.set, if l.count ≤ 1 then l.depth else l.depth + 1⟩

end Listing

/-- A bracketed set that has not been closed yet. -/
structure OpenBracket where
  isNegated : Bool
  /-- What the next list is combined with. -/
  left : Option (Operand × Combination) := none
  listing : Listing := {}

/-- The set that a bracketed set lists, before it is negated. Without regard to cases, both cases of
the operands are combined. -/
def OpenBracket.operand (w : Switches) (b : OpenBracket) : Operand :=
  let right := b.listing.operand
  match b.left with
  | none => right
  | some (left, way) =>
    let cases (s : CharSet) : CharSet := if w.ignoreCase then s.bothCases else s
    let l := cases left.set
    let r := cases right.set
    let set := match way with
      | .intersection => l.inter r
      | .difference => l.diff r
      | .symmetricDifference => l.symmDiff r
    ⟨set, max left.depth right.depth + 1⟩

def OpenBracket.combine (w : Switches) (b : OpenBracket) (way : Combination) : OpenBracket :=
  { b with left := some (b.operand w, way), listing := {} }

/-- The set without its brackets, one level deeper. A negated set reaches beyond ASCII. -/
def OpenBracket.close? (w : Switches) (b : OpenBracket) : Option Operand :=
  let ⟨set, depth⟩ := b.operand w
  let set := if w.ignoreCase then set.bothCases else set
  if !b.isNegated then some ⟨set, depth + 1⟩
  else if w.foreign then some ⟨set.complement, depth + 1⟩
  else none

def OpenBracket.add (b : OpenBracket) (s : CharSet) (depth : Nat) : OpenBracket :=
  { b with listing := b.listing.add s depth }

def OpenBracket.addNamed? (w : Switches) (b : OpenBracket) (isNegated : Bool) (s : CharSet) :
    Option OpenBracket :=
  if w.foreign then
    if w.ignoreCase then none else some (b.add (if isNegated then s.complement else s) 0)
  else if isNegated then none
  else some (b.add s 0)

/-! ### Reading -/

/-- Hyphens at the start are members. -/
def leadingHyphens? (w : Switches) (b : OpenBracket) :
    Nat → List Char → Option (OpenBracket × List Char)
  | 0, _ => none
  | bound + 1, s =>
    match s with
    | [] => none
    | '-' :: s => do leadingHyphens? w (b.add (← w.member? '-') 0) bound (skip w.extended s)
    | s => some (b, s)

/-- Read the start of a bracketed set behind its bracket: a caret negates it, and a closing bracket
in front of all other members is a member. -/
def openBracket? (w : Switches) (s : List Char) : Option (OpenBracket × List Char) := do
  let s := skip w.extended s
  let (isNegated, s) := match s with
    | '^' :: s => (true, skip w.extended s)
    | s => (false, s)
  let (b, s) ← leadingHyphens? w { isNegated } (s.length + 1) s
  match b.listing.count, s with
  | 0, ']' :: s =>
    let s := skip w.extended s
    if s = [] then none else some (b.add (← w.member? ']') 0, s)
  | _, s => some (b, s)

def bracketAtom? (w : Switches) : List Char → Option (Atom × List Char)
  | [] => none
  | '\\' :: s => readEscape w.extended s
  | c :: s => some (.literal c false, s)

/-- Read a character, a class or a range. A hyphen in front of a closing bracket or of another
hyphen makes no range. -/
def bracketItem? (w : Switches) (s : List Char) : Option (CharSet × List Char) := do
  let (first, s) ← bracketAtom? w s
  let alone : Option (CharSet × List Char) := match first with
    | .literal c _ => (w.member? c).map fun set => (set, s)
    | .classOf k isNegated => (w.class? k isNegated).map fun set => (set, s)
    | .anchor _ => none
  match skip w.extended s with
  | [] => none
  | '-' :: t =>
    if peek w.extended t = some ']' ∨ peek w.extended t = some '-' then alone
    else do
      let (last, rest) ← bracketAtom? w (skip w.extended t)
      match first, last with
      | .literal a _, .literal b _ =>
        let _ ← w.member? a
        let _ ← w.member? b
        if a ≤ b then some (.between a.toNat b.toNat, rest) else none
      | _, _ => none
  | _ => alone

def bracketFrom? (w : Switches) :
    Nat → List OpenBracket → OpenBracket → List Char → Option (Operand × List Char)
  | 0, _, _, _ => none
  | bound + 1, outer, b, s =>
    match skip w.extended s with
    | [] => none
    | '[' :: s =>
      match namedSet? s with
      | some (isNegated, set, s) => do
        bracketFrom? w bound outer (← b.addNamed? w isNegated set) s
      | none => do
        let (inner, s) ← openBracket? w s
        bracketFrom? w bound (b :: outer) inner s
    | ']' :: s => do
      let closed ← b.close? w
      match outer with
      | [] => some (closed, s)
      | b :: outer => bracketFrom? w bound outer (b.add closed.set closed.depth) s
    | '&' :: '&' :: s => bracketFrom? w bound outer (b.combine w .intersection) s
    | '-' :: '-' :: s => bracketFrom? w bound outer (b.combine w .difference) s
    | '~' :: '~' :: s => bracketFrom? w bound outer (b.combine w .symmetricDifference) s
    | s => do
      let (set, s) ← bracketItem? w s
      bracketFrom? w bound outer (b.add set 0) s

def bracket? (w : Switches) (s : List Char) : Option (Operand × List Char) := do
  let (b, rest) ← openBracket? w s
  bracketFrom? w (s.length + 1) [] b rest

end Pattern
end Genesis
