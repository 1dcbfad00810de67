import Genesis.Pattern.Basic
import Genesis.Text.ByteRows

/-!
# The weight of a pattern

A pattern is searched by two automata on bytes, one for each direction. Their states take room, and
repetitions are written out, so that a short text may describe a huge automaton. A pattern is
bearable if neither automaton takes more than ten mebibytes.
-/

namespace Genesis
namespace Pattern

open Text

/-- A state without choices. -/
def stateWeight : Nat := 32

/-- A way from one state to another that depends on the byte. -/
def rangeWeight : Nat := 8

/-- A free way from one state to another. -/
def branchWeight : Nat := 4

/-- A state with two free ways. -/
def forkWeight : Nat := stateWeight + 2 * branchWeight

def weightLimit : Nat := 10 * 1024 * 1024

/-- Whether every fitting piece has a character. -/
def consumes : Pattern → Bool
  | empty => false
  | look _ => false
  | oneOf s => !s.ranges.isEmpty
  | seq p q => p.consumes || q.consumes
  | alt p q => p.consumes && q.consumes
  | times p least _ => least ≠ 0 && p.consumes
  | group p => p.consumes

/-! ### Single characters -/

/-- The rows that are left behind each first range, in groups for one range. -/
def rowBranches (rows : List ByteRow) : List (List ByteRow) :=
  (rows.splitBy fun a b => a.head? == b.head?).map fun group => group.map List.tail

def nextStates (states : List (List ByteRow)) : List (List ByteRow) :=
  (states.flatMap rowBranches).filter fun rows => rows ≠ [[]]

/-- States for rows that share their ends. -/
def rowStates (rows : List ByteRow) : List (List ByteRow) :=
  let second := nextStates [rows]
  let third := nextStates second
  ([rows] ++ second ++ third ++ nextStates third).eraseDups

def sharedStart : ByteRow → ByteRow → Nat
  | r :: row, q :: other => if r = q then sharedStart row other + 1 else 0
  | _, _ => 0

/-- How many states ascending rows need that share their starts; `previous` is the row in front. -/
def startStates (previous : ByteRow) : List ByteRow → Nat
  | [] => 0
  | row :: rows => row.length - sharedStart previous row + startStates row rows

/-- A set of which one member or only ASCII characters have to be told apart. -/
def plainWeight? (s : CharSet) : Option Nat :=
  match s.only? with
  | some n => some (stateWeight * (utf8 n).length)
  | none =>
    if s.isAscii then some (2 * stateWeight + rangeWeight * s.ranges.length) else none

def forwardSetWeight (s : CharSet) : Nat :=
  (plainWeight? s).getD <|
    (rowStates s.rows).foldl
      (fun n rows => n + stateWeight + rangeWeight * (rowBranches rows).length) stateWeight

/-- A set of characters in the backward automaton, which shares the starts of the rows. -/
def backwardSetWeight (s : CharSet) : Nat :=
  (plainWeight? s).getD <|
    2 * stateWeight + branchWeight * s.rows.length + stateWeight * startStates [] s.rows

/-! ### Patterns -/

/-- What differs between the automata: sets of characters, and the notes on the ends of groups. -/
structure Direction where
  set : CharSet → Nat
  group : Nat
  frame : Nat

def forward : Direction := ⟨forwardSetWeight, 2 * stateWeight, 208⟩

def backward : Direction := ⟨backwardSetWeight, 0, 144⟩

/-- `n` repetitions of which none is needed. -/
def optionalWeight (weight n : Nat) : Nat := stateWeight + n * (forkWeight + weight)

def leadWeight (isBranch : Bool) : Nat := if isBranch then branchWeight else 0

def weight (d : Direction) (isBranch : Bool) : Pattern → Nat
  | empty => leadWeight isBranch + stateWeight
  | look _ => leadWeight isBranch + stateWeight
  | oneOf s => leadWeight isBranch + d.set s
  | seq p q => leadWeight isBranch + p.weight d false + q.weight d false
  | alt p q => (if isBranch then 0 else 2 * stateWeight) + p.weight d true + q.weight d true
  | group p => leadWeight isBranch + d.group + p.weight d false
  | times p least most =>
    let one := p.weight d false
    leadWeight isBranch + match most with
      | none =>
        if least ≠ 0 then least * one + forkWeight
        else if p.consumes then one + forkWeight
        else one + 2 * forkWeight + stateWeight
      | some most =>
        if least = most then least * one
        else if least = 0 ∧ most = 1 then forkWeight + one + stateWeight
        else (if least = 0 then stateWeight else least * one) + optionalWeight one (most - least)

def isBearable (p : Pattern) : Bool :=
  [forward, backward].all fun d => d.frame + p.weight d false ≤ weightLimit

end Pattern
end Genesis
