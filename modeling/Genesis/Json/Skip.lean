import Genesis.Json.Escaped

/-!
# Passing over a JSON value

A value that nobody wants is only checked for its form, one character at a time, by an automaton
with a stack of open brackets. Strings need well-formed escapes but no paired surrogates, numbers
may be of any size, and values may be nested to any depth.
-/

namespace Genesis
namespace Json
namespace Skip

inductive Bracket where
  | list
  | object
deriving DecidableEq

inductive Phase where
  /-- A value has to start. -/
  | value
  /-- A list or object has just been opened and may be closed. -/
  | opened
  /-- A value inside a list or object is complete. -/
  | after
  /-- A key has to start. -/
  | key
  /-- A key is complete. -/
  | colon
  /-- Inside a string, which may be a key. -/
  | text (isKey : Bool)
  /-- After a backslash. -/
  | escape (isKey : Bool)
  /-- Inside the digits of an escape, of which `left` are missing. -/
  | unit (isKey : Bool) (left : Nat)
  /-- Inside `null`, `true` or `false`. -/
  | word (left : List Char)
  /-- After a minus sign. -/
  | minus
  /-- After a leading zero. -/
  | zero
  | digits
  /-- After the point. -/
  | point
  | fraction
  /-- After the exponent mark. -/
  | mark
  /-- After the sign of the exponent. -/
  | sign
  | exponent
deriving DecidableEq

structure State where
  phase : Phase
  brackets : List Bracket
deriving DecidableEq

inductive Step where
  | next (state : State)
  /-- The character ends the value and belongs to it. -/
  | last
  /-- The value ended before the character. -/
  | past
  | fault (f : Fault)
deriving DecidableEq

def complete : List Bracket → Step
  | [] => .last
  | bs => .next ⟨.after, bs⟩

def close? (c : Char) : List Bracket → Option Step
  | .list :: bs => if c = ']' then some (complete bs) else none
  | .object :: bs => if c = '\x7d' then some (complete bs) else none
  | [] => none

def start (c : Char) (bs : List Bracket) : Step :=
  if c = 'n' then .next ⟨.word ['u', 'l', 'l'], bs⟩
  else if c = 't' then .next ⟨.word ['r', 'u', 'e'], bs⟩
  else if c = 'f' then .next ⟨.word ['a', 'l', 's', 'e'], bs⟩
  else if c = '-' then .next ⟨.minus, bs⟩
  else if c = '0' then .next ⟨.zero, bs⟩
  else if c.isDigit then .next ⟨.digits, bs⟩
  else if c = '"' then .next ⟨.text false, bs⟩
  else if c = '[' then .next ⟨.opened, .list :: bs⟩
  else if c = '\x7b' then .next ⟨.opened, .object :: bs⟩
  else .fault .malformed

def startKey (c : Char) (bs : List Bracket) : Step :=
  if c = '"' then .next ⟨.text true, bs⟩ else .fault .malformed

/-- What follows a complete value inside a bracket. -/
def follow (c : Char) (bs : List Bracket) : Step :=
  if isSpace c then .next ⟨.after, bs⟩
  else match close? c bs with
    | some step => step
    | none =>
      if c = ',' then
        match bs with
        | .object :: _ => .next ⟨.key, bs⟩
        | _ => .next ⟨.value, bs⟩
      else .fault .malformed

/-- A number may end before this character. -/
def endNumber (c : Char) : List Bracket → Step
  | [] => .past
  | bs => follow c bs

/-- One character; `rest` is what follows it, and decides only about the kind of a fault. -/
def step (c : Char) (rest : List Char) (s : State) : Step :=
  let bs := s.brackets
  let goTo (p : Phase) : Step := .next ⟨p, bs⟩
  match s.phase with
  | .value => if isSpace c then .next s else start c bs
  | .opened =>
    if isSpace c then .next s
    else match close? c bs with
      | some step => step
      | none =>
        match bs with
        | .object :: _ => startKey c bs
        | _ => start c bs
  | .after => follow c bs
  | .key => if isSpace c then .next s else startKey c bs
  | .colon =>
    if isSpace c then .next s
    else if c = ':' then goTo .value
    else .fault .malformed
  | .text isKey =>
    if c = '"' then (if isKey then goTo .colon else complete bs)
    else if c = '\\' then goTo (.escape isKey)
    else if c.toNat < 0x20 then .fault .malformed
    else .next s
  | .escape isKey =>
    if c = 'u' then
      if Escaped.isShort rest then .fault .truncated else goTo (.unit isKey 4)
    else if (Escaped.letter? c).isSome then goTo (.text isKey)
    else .fault .malformed
  | .unit isKey left =>
    if (Escaped.hexDigit? c).isNone then .fault .malformed
    else if left ≤ 1 then goTo (.text isKey)
    else goTo (.unit isKey (left - 1))
  | .word [] => complete bs
  | .word (d :: left) =>
    if c = d then
      match left with
      | [] => complete bs
      | _ => goTo (.word left)
    else .fault .malformed
  | .minus =>
    if c = '0' then goTo .zero
    else if c.isDigit then goTo .digits
    else .fault .malformed
  | .zero =>
    if c.isDigit then .fault .malformed
    else if c = '.' then goTo .point
    else if c = 'e' ∨ c = 'E' then goTo .mark
    else endNumber c bs
  | .digits =>
    if c.isDigit then .next s
    else if c = '.' then goTo .point
    else if c = 'e' ∨ c = 'E' then goTo .mark
    else endNumber c bs
  | .point => if c.isDigit then goTo .fraction else .fault .malformed
  | .fraction =>
    if c.isDigit then .next s
    else if c = 'e' ∨ c = 'E' then goTo .mark
    else endNumber c bs
  | .mark =>
    if c = '+' ∨ c = '-' then goTo .sign
    else if c.isDigit then goTo .exponent
    else .fault .malformed
  | .sign => if c.isDigit then goTo .exponent else .fault .malformed
  | .exponent => if c.isDigit then .next s else endNumber c bs

def finish (s : State) : Except Fault (List Char) :=
  match s.phase with
  | .minus | .point | .mark | .sign => .error .malformed
  | .zero | .digits | .fraction | .exponent =>
    if s.brackets.isEmpty then .ok [] else .error .truncated
  | _ => .error .truncated

/-- Run the automaton to the end of the value; the result is the rest of the text. -/
def run : List Char → State → Except Fault (List Char)
  | [], s => finish s
  | c :: rest, s =>
    match step c rest s with
    | .next s => run rest s
    | .last => .ok rest
    | .past => .ok (c :: rest)
    | .fault f => .error f

end Skip

def skip (s : List Char) : Except Fault (List Char) := Skip.run s ⟨.value, []⟩

end Json
end Genesis
