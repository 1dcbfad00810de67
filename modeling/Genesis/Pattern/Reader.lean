import Genesis.Pattern.Bracket
import Genesis.Pattern.Weight
import Genesis.Text.Letter

/-!
# Reading patterns

A pattern is read from left to right, with the groups that are still open on a stack. Switches hold
up to the end of the group they are set in, also across its alternatives.
-/

namespace Genesis
namespace Pattern

open Text

/-- A part of a pattern, and how deeply it is nested. Switches are no part to repeat. -/
structure Part where
  pattern : Pattern
  depth : Nat := 0
  isSwitches : Bool := false

/-- The alternatives of a group read so far, and the parts of the last one, both latest first. -/
structure Branches where
  complete : List Part := []
  parts : List Part := []

/-- A group that has not been closed yet: what stands around it, and the switches there. -/
structure OpenGroup where
  outer : Branches
  switches : Switches
  isNumbered : Bool

structure Reading where
  branches : Branches := {}
  groups : List OpenGroup := []
  switches : Switches := {}
  names : List (List Char) := []

def deepest (parts : List Part) : Nat := (parts.map Part.depth).foldl max 0

/-- The parts of the last alternative in a row. Several parts are one level of their own. -/
def Branches.last (b : Branches) : Part :=
  match b.parts with
  | [] => { pattern := .empty }
  | [p] => p
  | parts =>
    { pattern := sequence (parts.reverse.map Part.pattern), depth := deepest parts + 1 }

def Branches.whole (b : Branches) : Part :=
  match b.complete with
  | [] => b.last
  | complete =>
    let parts := b.last :: complete
    { pattern := alternatives (parts.reverse.map Part.pattern), depth := deepest parts + 1 }

def Branches.split (b : Branches) : Branches := { complete := b.last :: b.complete }

namespace Reading

def add (r : Reading) (p : Part) : Reading :=
  { r with branches := { r.branches with parts := p :: r.branches.parts } }

def repeatLast? (r : Reading) (least : Nat) (most : Option Nat) : Option Reading :=
  match r.branches.parts with
  | [] => none
  | p :: ps =>
    if p.isSwitches then none
    else
      let q : Part := { pattern := repeated p.pattern least most, depth := p.depth + 1 }
      some { r with branches := { r.branches with parts := q :: ps } }

def openGroup (r : Reading) (isNumbered : Bool) (switches : Switches) : Reading :=
  { r with
    branches := {}
    groups := ⟨r.branches, r.switches, isNumbered⟩ :: r.groups
    switches := switches }

def closeGroup? (r : Reading) : Option Reading :=
  match r.groups with
  | [] => none
  | g :: groups =>
    let inner := r.branches.whole
    let pattern := if g.isNumbered then .group inner.pattern else inner.pattern
    some (({ r with branches := g.outer, groups, switches := g.switches } : Reading).add
      { pattern, depth := inner.depth + 1 })

end Reading

/-! ### Groups -/

def isNameChar (isFirst : Bool) (c : Char) : Bool :=
  c = '_' || isLetter c || !isFirst && (c = '.' || c = '[' || c = ']' || isNumber c)

def groupName? (s : List Char) : Option (List Char × List Char) :=
  match cut '>' s with
  | some (c :: name, rest) =>
    if isNameChar true c && name.all (isNameChar false) then some (c :: name, rest) else none
  | _ => none

def openNamed? (r : Reading) (s : List Char) : Option (Reading × List Char) :=
  match groupName? s with
  | none => none
  | some (name, s) =>
    if name ∈ r.names then none
    else some ({ r.openGroup true r.switches with names := name :: r.names }, s)

/-- Read what follows an opening parenthesis. There are no conditions on the text around a piece. -/
def openParenthesis? (r : Reading) (s : List Char) : Option (Reading × List Char) :=
  match skip r.switches.extended s with
  | '?' :: 'P' :: '<' :: s => openNamed? r s
  | '?' :: '<' :: '=' :: _ => none
  | '?' :: '<' :: '!' :: _ => none
  | '?' :: '<' :: s => openNamed? r s
  | '?' :: s =>
    match readSwitches r.switches [] true false s with
    | none => none
    | some (w, .rest, s) =>
      some ({ r with switches := w }.add { pattern := .empty, isSwitches := true }, s)
    | some (w, .group, s) => some (r.openGroup false w, s)
  | s => some (r.openGroup true r.switches, s)

/-! ### Repetitions -/

def counts? (extended : Bool) (s : List Char) : Option (Nat × Option Nat × List Char) := do
  let (least, s) ← count? extended (skip extended s)
  match s with
  | '\x7d' :: s => some (least, some least, s)
  | ',' :: s =>
    match skip extended s with
    | '\x7d' :: s => some (least, none, s)
    | s =>
      let (most, s) ← count? extended s
      match s with
      | '\x7d' :: s => if least ≤ most then some (least, some most, s) else none
      | _ => none
  | _ => none

/-- Pass over a question mark, which asks for few repetitions rather than many. -/
def dropLazy : List Char → List Char
  | '?' :: s => s
  | s => s

/-! ### Patterns -/

def readPart (r : Reading) (c : Char) (s : List Char) : Option (Reading × List Char) :=
  let w := r.switches
  match c with
  | '(' => openParenthesis? r s
  | ')' => r.closeGroup?.map fun r => (r, s)
  | '|' => some ({ r with branches := r.branches.split }, s)
  | '[' => (bracket? w s).map fun b => (r.add ⟨.oneOf b.1.set, b.1.depth, false⟩, b.2)
  | '?' => (r.repeatLast? 0 (some 1)).map fun r => (r, dropLazy s)
  | '*' => (r.repeatLast? 0 none).map fun r => (r, dropLazy s)
  | '+' => (r.repeatLast? 1 none).map fun r => (r, dropLazy s)
  | '\x7b' => do
    let (least, most, s) ← counts? w.extended s
    some (← r.repeatLast? least most, dropLazy (skip w.extended s))
  | '\\' => do
    let (atom, s) ← readEscape w.extended s
    some (r.add { pattern := ← w.atom? atom }, s)
  | '.' => w.dot?.map fun set => (r.add { pattern := .oneOf set }, s)
  | '^' => some (r.add { pattern := .look (w.look .caret) }, s)
  | '$' => some (r.add { pattern := .look (w.look .dollar) }, s)
  | c => (w.literal? c false).map fun set => (r.add { pattern := .oneOf set }, s)

/-- Read the rest of a pattern; all groups have to be closed at its end. -/
def readParts : Nat → Reading → List Char → Option Part
  | 0, _, _ => none
  | bound + 1, r, s =>
    match skip r.switches.extended s with
    | [] => if r.groups.isEmpty then some r.branches.whole else none
    | c :: s =>
      match readPart r c s with
      | none => none
      | some (r, s) => readParts bound r s

def depthLimit : Nat := 250

/-- The pattern that a text describes, unless it is malformed, too deeply nested or too heavy, or
asks for what only tables of characters could tell. -/
def ofText? (text : List Char) : Option Pattern := do
  let part ← readParts (text.length + 1) {} text
  if part.depth ≤ depthLimit ∧ part.pattern.isForeign = false ∧ part.pattern.isBearable then
    some part.pattern
  else none

end Pattern
end Genesis
