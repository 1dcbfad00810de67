import Genesis.Text.CharSet

/-!
# Patterns

A pattern describes pieces of a text: characters from sets, conditions on places between characters,
sequences, alternatives and repetitions. It occurs in a text if some piece of the text fits it. The
ends of the fitting pieces are found for all starts at once, as marks on the places of the text.
Main statements: there stays one mark for each place, and a choice occurs exactly where one of its
sides occurs.
-/

namespace Genesis

open Text

/-- A condition on a place, given by the characters on its two sides. -/
inductive Pattern.Look where
  | textStart
  | textEnd
  | lineStart
  | lineEnd
  /-- A start of a line where a carriage return ends a line too, alone or before a line feed. -/
  | returnLineStart
  | returnLineEnd
  | wordEdge
  | notWordEdge
  | wordStart
  | wordEnd
  /-- No word in front. -/
  | wordStartHalf
  /-- No word behind. -/
  | wordEndHalf
  /-- An edge of a word beyond ASCII. No place fits it, for there is no table of such words. -/
  | foreignWordEdge
deriving DecidableEq

/-- A description of pieces of a text. -/
inductive Pattern where
  | empty
  | look (l : Pattern.Look)
  | oneOf (s : CharSet)
  | seq (p q : Pattern)
  | alt (p q : Pattern)
  /-- At least `least` pieces in a row, and at most `most` of them. -/
  | times (p : Pattern) (least : Nat) (most : Option Nat)
  /-- A numbered group. -/
  | group (p : Pattern)
deriving DecidableEq

namespace Pattern

def isWordChar (c : Char) : Bool := c.isAlphanum || c = '_'

def hasWord (side : Option Char) : Bool := side.any isWordChar

/-- Whether the condition holds between two characters, `none` standing for an end of the text. -/
def Look.holds (before after : Option Char) : Look → Bool
  | textStart => before.isNone
  | textEnd => after.isNone
  | lineStart => before.isNone || before = some '\n'
  | lineEnd => after.isNone || after = some '\n'
  | returnLineStart =>
    before.isNone || before = some '\n' || (before = some '\r' && after ≠ some '\n')
  | returnLineEnd =>
    after.isNone || after = some '\r' || (after = some '\n' && before ≠ some '\r')
  | wordEdge => hasWord before != hasWord after
  | notWordEdge => hasWord before == hasWord after
  | wordStart => !hasWord before && hasWord after
  | wordEnd => hasWord before && !hasWord after
  | wordStartHalf => !hasWord before
  | wordEndHalf => !hasWord after
  | foreignWordEdge => false

/-! ### Building patterns -/

/-- Whether only empty pieces fit. -/
def still : Pattern → Bool
  | empty => true
  | look _ => true
  | oneOf _ => false
  | seq p q => p.still && q.still
  | alt p q => p.still && q.still
  | times p _ most => p.still || most = some 0
  | group p => p.still

/-- The pieces of the patterns in a row. -/
def sequence : List Pattern → Pattern
  | [] => empty
  | [p] => p
  | p :: ps => if p = empty then sequence ps else
    match sequence ps with
    | empty => p
    | q => seq p q

def set? : Pattern → Option CharSet
  | oneOf s => some s
  | _ => none

/-- The pieces of any of the patterns. Single characters are put into one set. -/
def alternatives (ps : List Pattern) : Pattern :=
  match ps.mapM set? with
  | some sets => oneOf (sets.foldl CharSet.union .empty)
  | none => match ps.reverse with
    | [] => oneOf .empty
    | p :: rest => rest.foldl (fun q p => alt p q) p

/-- Repetitions. No repetition is an empty piece, one is the pattern itself, and a pattern for empty
pieces need not be repeated more than once. -/
def repeated (p : Pattern) (least : Nat) (most : Option Nat) : Pattern :=
  let least := if p.still then min least 1 else least
  let most := if p.still then some (min (most.getD 1) 1) else most
  if most = some 0 then empty
  else if least = 1 ∧ most = some 1 then p
  else times p least most

def isForeign : Pattern → Bool
  | empty => false
  | look l => l = .foreignWordEdge
  | oneOf _ => false
  | seq p q => p.isForeign || q.isForeign
  | alt p q => p.isForeign || q.isForeign
  | times p _ _ => p.isForeign
  | group p => p.isForeign

/-! ### Occurrences -/

def sites (t : List Char) : List (Option Char × Option Char) :=
  (none :: t.map some).zip (t.map some ++ [none])

def either (m n : List Bool) : List Bool := List.zipWith (fun a b => a || b) m n

/-- Apply a function `n` times, or until it changes nothing. -/
def iterate (f : List Bool → List Bool) : Nat → List Bool → List Bool
  | 0, m => m
  | n + 1, m =>
    let next := f m
    if next = m then m else iterate f n next

/-- Collect the marks of up to `n` applications of a function. -/
def spread (f : List Bool → List Bool) (n : Nat) (m : List Bool) : List Bool :=
  iterate (fun m => either m (f m)) n m

/-- Of the places of a text where a piece may start, marked in a list, the places where it may end.
Without an upper limit as many rounds as there are places are enough. -/
def advance (t : List Char) : Pattern → List Bool → List Bool
  | empty, m => m
  | look l, m => List.zipWith (fun site here => here && l.holds site.1 site.2) (sites t) m
  | oneOf s, m => false :: List.zipWith (fun c here => here && s.contains c) t m
  | seq p q, m => advance t q (advance t p m)
  | alt p q, m => either (advance t p m) (advance t q m)
  | times p least most, m =>
    spread (advance t p) ((most.map fun n => n - least).getD (t.length + 1))
      (iterate (advance t p) least m)
  | group p, m => advance t p m

/-- Whether some piece of a text fits. -/
def occursIn (p : Pattern) (t : List Char) : Bool :=
  (advance t p (List.replicate (t.length + 1) true)).any id

@[simp] theorem advance_seq (t : List Char) (p q : Pattern) (m : List Bool) :
    advance t (seq p q) m = advance t q (advance t p m) := rfl

@[simp] theorem advance_alt (t : List Char) (p q : Pattern) (m : List Bool) :
    advance t (alt p q) m = either (advance t p m) (advance t q m) := rfl

theorem length_sites (t : List Char) : (sites t).length = t.length + 1 := by simp [sites]

theorem length_iterate {f : List Bool → List Bool} {k : Nat}
    (hf : ∀ m, m.length = k → (f m).length = k) {m : List Bool} (hm : m.length = k) (n : Nat) :
    (iterate f n m).length = k := by
  induction n generalizing m with
  | zero => exact hm
  | succ n ih =>
    simp only [iterate]
    split
    · exact hm
    · exact ih (hf m hm)

/-- There stays one mark for each place. -/
theorem length_advance (t : List Char) (p : Pattern) {m : List Bool}
    (hm : m.length = t.length + 1) : (advance t p m).length = t.length + 1 := by
  induction p generalizing m with
  | empty => exact hm
  | look l => simp [advance, length_sites, hm]
  | oneOf s => simp [advance, hm]
  | seq p q hp hq => exact hq (hp hm)
  | alt p q hp hq => simp [either, hp hm, hq hm]
  | times p least most hp =>
    refine length_iterate (fun n hn => ?_) (length_iterate (fun n hn => hp hn) hm least) _
    simp [either, hp hn, hn]
  | group p hp => exact hp hm

@[simp] theorem occursIn_empty (t : List Char) : occursIn empty t = true := by
  simp [occursIn, advance, List.replicate_succ]

theorem any_either {m n : List Bool} (h : m.length = n.length) :
    (either m n).any id = (m.any id || n.any id) := by
  induction m generalizing n with
  | nil =>
    cases n with
    | nil => rfl
    | cons b n => simp at h
  | cons a m ih =>
    cases n with
    | nil => simp at h
    | cons b n =>
      have := ih (n := n) (by simpa using h)
      simp only [either] at this
      simp only [either, List.zipWith_cons_cons, List.any_cons, id_eq, this]
      cases a <;> cases b <;> simp

@[simp] theorem occursIn_alt (p q : Pattern) (t : List Char) :
    (alt p q).occursIn t = (p.occursIn t || q.occursIn t) := by
  have h : (List.replicate (t.length + 1) true).length = t.length + 1 := by simp
  simp only [occursIn, advance_alt]
  exact any_either ((length_advance t p h).trans (length_advance t q h).symm)

end Pattern
end Genesis
