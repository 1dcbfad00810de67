import Genesis.Json.Number
import Genesis.Json.Skip

/-!
# Reading values of a known shape

A record is written as an object with its fields in any order, or as a list of its fields in their
own order. Unknown fields of an object are passed over; a field given twice is a mismatch.
-/

namespace Genesis
namespace Json

/-- What is wrong with a value of an unexpected kind. Words, numbers and strings are read to their
end, which may reveal an earlier fault; lists and objects are not entered. -/
def kindFault (s : List Char) : Fault :=
  match skipSpace s with
  | [] => .truncated
  | c :: s =>
    let orMismatch {α : Type} (r : Except Fault α) : Fault := match r with
      | .error f => f
      | .ok _ => .mismatched
    if c = 'n' then orMismatch (expect ['u', 'l', 'l'] s)
    else if c = 't' then orMismatch (expect ['r', 'u', 'e'] s)
    else if c = 'f' then orMismatch (expect ['a', 'l', 's', 'e'] s)
    else if c = '-' ∨ c.isDigit then orMismatch (number (c :: s))
    else if c = '"' then orMismatch (Escaped.read s)
    else if c = '[' ∨ c = '\x7b' then .mismatched
    else .malformed

def boolean (s : List Char) : Except Fault (Bool × List Char) :=
  match skipSpace s with
  | 't' :: s => (expect ['r', 'u', 'e'] s).map fun s => (true, s)
  | 'f' :: s => (expect ['a', 'l', 's', 'e'] s).map fun s => (false, s)
  | s => .error (kindFault s)

def word32 (s : List Char) : Except Fault (UInt32 × List Char) :=
  match skipSpace s with
  | c :: s =>
    if c = '-' ∨ c.isDigit then
      match number (c :: s) with
      | .error f => .error f
      | .ok (some n, s) => if n < UInt32.size then .ok (UInt32.ofNat n, s) else .error .mismatched
      | .ok (none, _) => .error .mismatched
    else .error (kindFault (c :: s))
  | [] => .error .truncated

def optional {α : Type} (value : List Char → Except Fault (α × List Char)) (s : List Char) :
    Except Fault (Option α × List Char) :=
  match skipSpace s with
  | 'n' :: s => (expect ['u', 'l', 'l'] s).map fun s => (none, s)
  | s => (value s).map fun r => (some r.1, r.2)

inductive NextItem where
  | closed (rest : List Char)
  | item (rest : List Char)

/-- Look for the next item of a list. -/
def nextItem (isFirst : Bool) (s : List Char) : Except Fault NextItem :=
  match skipSpace s with
  | [] => .error .truncated
  | c :: s =>
    if c = ']' then .ok (.closed s)
    else if isFirst then .ok (.item (c :: s))
    else if c = ',' then
      match skipSpace s with
      | [] => .error .truncated
      | d :: s => if d = ']' then .error .malformed else .ok (.item (d :: s))
    else .error .malformed

def endItems (s : List Char) : Except Fault (List Char) :=
  match skipSpace s with
  | [] => .error .truncated
  | c :: s => if c = ']' then .ok s else .error .malformed

inductive NextKey where
  | closed (rest : List Char)
  | key (name : List Char) (rest : List Char)

/-- Read a key that has to start here. -/
def keyAt (s : List Char) : Except Fault NextKey :=
  match s with
  | [] => .error .truncated
  | c :: s =>
    if c = '"' then (Escaped.read s).map fun r => .key r.1 r.2 else .error .malformed

def nextKey (isFirst : Bool) (s : List Char) : Except Fault NextKey :=
  match skipSpace s with
  | [] => .error .truncated
  | c :: s =>
    if c = '\x7d' then .ok (.closed s)
    else if isFirst then keyAt (c :: s)
    else if c = ',' then keyAt (skipSpace s)
    else .error .malformed

def colon (s : List Char) : Except Fault (List Char) :=
  match skipSpace s with
  | [] => .error .truncated
  | c :: s => if c = ':' then .ok s else .error .malformed

/-- A field of a record `ρ`: its name, and how a value for it changes the record. -/
structure Field (ρ : Type) where
  name : String
  read : ρ → List Char → Except Fault (ρ × List Char)

/-- A field that `value` reads and `set` stores. -/
def Field.of {α ρ : Type} (name : String) (value : List Char → Except Fault (α × List Char))
    (set : ρ → α → ρ) : Field ρ where
  name := name
  read r s := (value s).map fun p => (set r p.1, p.2)

variable {ρ : Type}

def readItems (isFirst : Bool) : List (Field ρ) → ρ → List Char → Except Fault (ρ × List Char)
  | [], r, s => (endItems s).map fun s => (r, s)
  | f :: fields, r, s =>
    match nextItem isFirst s with
    | .error e => .error e
    | .ok (.closed s) => .ok (r, s)
    | .ok (.item s) =>
      match f.read r s with
      | .error e => .error e
      | .ok (r, s) => readItems false fields r s

/-- Read members of an object, at most `bound` of them. -/
def readMembers (fields : List (Field ρ)) :
    Nat → Bool → List String → ρ → List Char → Except Fault (ρ × List Char)
  | 0, _, _, _, _ => .error .truncated
  | bound + 1, isFirst, seen, r, s =>
    match nextKey isFirst s with
    | .error e => .error e
    | .ok (.closed s) => .ok (r, s)
    | .ok (.key name s) =>
      match fields.find? fun f => f.name.toList == name with
      | some f =>
        if seen.contains f.name then .error .mismatched
        else match colon s with
          | .error e => .error e
          | .ok s =>
            match f.read r s with
            | .error e => .error e
            | .ok (r, s) => readMembers fields bound false (f.name :: seen) r s
      | none =>
        match colon s with
        | .error e => .error e
        | .ok s =>
          match skip s with
          | .error e => .error e
          | .ok s => readMembers fields bound false seen r s

/-- Read a record, starting from its default. Every member takes at least one character, so the
length of the text bounds their number. -/
def record (fields : List (Field ρ)) (default : ρ) (s : List Char) : Except Fault (ρ × List Char) :=
  match skipSpace s with
  | c :: s =>
    if c = '[' then readItems true fields default s
    else if c = '\x7b' then readMembers fields (s.length + 1) true [] default s
    else .error (kindFault (c :: s))
  | [] => .error .truncated

def readArray {α : Type} (value : List Char → Except Fault (α × List Char)) :
    Nat → Bool → Array α → List Char → Except Fault (Array α × List Char)
  | 0, _, _, _ => .error .truncated
  | bound + 1, isFirst, items, s =>
    match nextItem isFirst s with
    | .error e => .error e
    | .ok (.closed s) => .ok (items, s)
    | .ok (.item s) =>
      match value s with
      | .error e => .error e
      | .ok (x, s) => readArray value bound false (items.push x) s

def array {α : Type} (value : List Char → Except Fault (α × List Char)) (s : List Char) :
    Except Fault (Array α × List Char) :=
  match skipSpace s with
  | c :: s =>
    if c = '[' then readArray value (s.length + 1) true #[] s else .error (kindFault (c :: s))
  | [] => .error .truncated

/-- Read a whole text as one value with nothing but space after it. -/
def document {α : Type} (value : List Char → Except Fault (α × List Char)) (s : List Char) :
    Except Fault α :=
  match value s with
  | .error e => .error e
  | .ok (x, s) => if (skipSpace s).isEmpty then .ok x else .error .malformed

end Json
end Genesis
