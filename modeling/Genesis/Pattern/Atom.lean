import Genesis.Pattern.Basic
import Genesis.Pattern.Layout
import Genesis.Pattern.Switches

/-!
# Escapes and single characters

A backslash gives a punctuation mark its plain meaning and some letters a special one. What an atom
stands for depends on the switches. Properties of characters, classes of characters beyond ASCII and
cases beyond ASCII would need tables and are refused, as is what would match a part of an encoding.
-/

namespace Genesis
namespace Pattern

open Text

inductive Anchor where
  | caret
  | dollar
  | textStart
  | textEnd
  | wordEdge
  | notWordEdge
  | wordStart
  | wordEnd
  | wordStartHalf
  | wordEndHalf
deriving DecidableEq

inductive LetterClass where
  | digit
  | space
  | word
deriving DecidableEq

inductive Atom where
  /-- A character, which may be given as a byte. -/
  | literal (c : Char) (isByte : Bool)
  | classOf (k : LetterClass) (isNegated : Bool)
  | anchor (a : Anchor)
deriving DecidableEq

def digitSet : CharSet := .between 0x30 0x39
def spaceSet : CharSet := .ofRanges [(0x09, 0x0D), (0x20, 0x20)]
def wordSet : CharSet := .ofRanges [(0x30, 0x39), (0x41, 0x5A), (0x5F, 0x5F), (0x61, 0x7A)]

def LetterClass.members : LetterClass → CharSet
  | digit => digitSet
  | space => spaceSet
  | word => wordSet

/-! ### Reading escapes -/

def isHexDigit (c : Char) : Bool :=
  c.isDigit || ('a' ≤ c && c ≤ 'f') || ('A' ≤ c && c ≤ 'F')

def hexDigitValue (c : Char) : Nat :=
  if c.isDigit then c.toNat - '0'.toNat else c.toLower.toNat - 'a'.toNat + 10

def hexValue (digits : List Char) : Nat := digits.foldl (fun n c => 16 * n + hexDigitValue c) 0

def characterOf? (n : Nat) : Option Char := if n.isValidChar then some (Char.ofNat n) else none

/-- Exactly `n` hexadecimal digits, between which layout may stand. -/
def hexDigits? (extended : Bool) : Nat → List Char → Option (List Char × List Char)
  | 0, s => some ([], s)
  | _ + 1, [] => none
  | n + 1, c :: s =>
    if isHexDigit c then (hexDigits? extended n (skip extended s)).map fun r => (c :: r.1, r.2)
    else none

def codePoint? (extended : Bool) (n : Nat) (s : List Char) : Option (Atom × List Char) :=
  match skip extended s with
  | '\x7b' :: s =>
    match takeSpread isHexDigit extended false s with
    | ([], _) => none
    | (digits, '\x7d' :: s) => (characterOf? (hexValue digits)).map fun c => (.literal c false, s)
    | _ => none
  | s =>
    match hexDigits? extended n s with
    | none => none
    | some (digits, s) => (characterOf? (hexValue digits)).map fun c => (.literal c (n = 2), s)

def isEdgeLetter (c : Char) : Bool := c.isAlpha || c = '-'

/-- The edges of words that have names. -/
def edgeNames : List (String × Anchor) :=
  [("start", .wordStart), ("end", .wordEnd), ("start-half", .wordStartHalf),
   ("end-half", .wordEndHalf)]

/-- An edge of a word, with a name within braces if letters follow the brace. -/
def edge? (extended : Bool) (s : List Char) : Option (Atom × List Char) :=
  match s with
  | '\x7b' :: t =>
    match skip extended t with
    | [] => none
    | c :: u =>
      if isEdgeLetter c then
        match takeSpread isEdgeLetter extended false (c :: u) with
        | (name, '\x7d' :: s) =>
          (edgeNames.lookup (String.ofList name)).map fun a => (.anchor a, s)
        | _ => none
      else some (.anchor .wordEdge, s)
  | s => some (.anchor .wordEdge, s)

/-- Whether a backslash takes away the special meaning that a character may have. -/
def isEscapable (c : Char) : Bool :=
  c.toNat < 0x80 && !c.isAlphanum && c ≠ '<' && c ≠ '>'

def readEscape (extended : Bool) : List Char → Option (Atom × List Char)
  | [] => none
  | c :: s =>
    if isEscapable c then some (.literal c false, s)
    else match c with
      | 'x' => codePoint? extended 2 s
      | 'u' => codePoint? extended 4 s
      | 'U' => codePoint? extended 8 s
      | 'd' => some (.classOf .digit false, s)
      | 'D' => some (.classOf .digit true, s)
      | 's' => some (.classOf .space false, s)
      | 'S' => some (.classOf .space true, s)
      | 'w' => some (.classOf .word false, s)
      | 'W' => some (.classOf .word true, s)
      | 'a' => some (.literal '\x07' false, s)
      | 'f' => some (.literal '\x0c' false, s)
      | 't' => some (.literal '\t' false, s)
      | 'n' => some (.literal '\n' false, s)
      | 'r' => some (.literal '\r' false, s)
      | 'v' => some (.literal '\x0b' false, s)
      | 'A' => some (.anchor .textStart, s)
      | 'z' => some (.anchor .textEnd, s)
      | 'b' => edge? extended s
      | 'B' => some (.anchor .notWordEdge, s)
      | '<' => some (.anchor .wordStart, s)
      | '>' => some (.anchor .wordEnd, s)
      | _ => none

/-! ### Meanings -/

def Switches.member? (w : Switches) (c : Char) : Option CharSet :=
  if w.foreign then if w.ignoreCase then none else some (.single c)
  else if c.toNat < 0x80 then some (.single c) else none

def Switches.literal? (w : Switches) (c : Char) (isByte : Bool) : Option CharSet :=
  if w.foreign then if w.ignoreCase then none else some (.single c)
  else if c.toNat < 0x80 then
    some (if w.ignoreCase then (CharSet.single c).bothCases else .single c)
  else if isByte then none else some (.single c)

def Switches.class? (w : Switches) (k : LetterClass) (isNegated : Bool) : Option CharSet :=
  if w.foreign ∨ isNegated then none else some k.members

def Switches.dot? (w : Switches) : Option CharSet :=
  if !w.foreign then none
  else if w.dotAll then some .full
  else if w.returns then some (CharSet.ofRanges [(0x0A, 0x0A), (0x0D, 0x0D)]).complement
  else some (CharSet.single '\n').complement

def Switches.look (w : Switches) : Anchor → Look
  | .caret =>
    if w.multiLine then if w.returns then .returnLineStart else .lineStart else .textStart
  | .dollar => if w.multiLine then if w.returns then .returnLineEnd else .lineEnd else .textEnd
  | .textStart => .textStart
  | .textEnd => .textEnd
  | .wordEdge => if w.foreign then .foreignWordEdge else .wordEdge
  | .notWordEdge => if w.foreign then .foreignWordEdge else .notWordEdge
  | .wordStart => if w.foreign then .foreignWordEdge else .wordStart
  | .wordEnd => if w.foreign then .foreignWordEdge else .wordEnd
  | .wordStartHalf => if w.foreign then .foreignWordEdge else .wordStartHalf
  | .wordEndHalf => if w.foreign then .foreignWordEdge else .wordEndHalf

def Switches.atom? (w : Switches) : Atom → Option Pattern
  | .literal c isByte => (w.literal? c isByte).map oneOf
  | .classOf k isNegated => (w.class? k isNegated).map oneOf
  | .anchor a => some (.look (w.look a))

end Pattern
end Genesis
