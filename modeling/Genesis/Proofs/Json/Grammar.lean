import Genesis.Json.Skip
import Genesis.Text.Digits

/-!
# The grammar of JSON

Which texts stand for which values, with no regard to how they are read. A form relates a text, the
value that its start stands for and the rest of the text; the grammar of a record is built from the
forms of its fields.
-/

namespace Genesis
namespace Json

/-- What the start of a text stands for, and what follows it. -/
abbrev Form (α : Type) := List Char → α → List Char → Prop

inductive Blanks : List Char → List Char → Prop
  | none {s} : Blanks s s
  | more {c s t} : isSpace c → Blanks s t → Blanks (c :: s) t

/-- A string after its opening quote. A character outside the basic plane is written as it is or as
a pair of surrogates. -/
inductive Quoted : Form (List Char)
  | close {t} : Quoted ('"' :: t) [] t
  | plain {c s x t} : Escaped.isPlain c → Quoted s x t → Quoted (c :: s) (c :: x) t
  | letter {c d s x t} : Escaped.letter? c = some d → Quoted s x t →
      Quoted ('\\' :: c :: s) (d :: x) t
  | unit {a b c d n s x t} : Escaped.unit? a b c d = some n → ¬ Escaped.isLeading n →
      ¬ Escaped.isTrailing n → Quoted s x t →
      Quoted ('\\' :: 'u' :: a :: b :: c :: d :: s) (Char.ofNat n :: x) t
  | pair {a b c d n e f g h m s x t} : Escaped.unit? a b c d = some n → Escaped.isLeading n →
      Escaped.unit? e f g h = some m → Escaped.isTrailing m → Quoted s x t →
      Quoted ('\\' :: 'u' :: a :: b :: c :: d :: '\\' :: 'u' :: e :: f :: g :: h :: s)
        (Escaped.ofPair n m :: x) t

inductive HexDigits : Nat → List Char → List Char → Prop
  | none {s} : HexDigits 0 s s
  | more {c n s t} : (Escaped.hexDigit? c).isSome → HexDigits n s t → HexDigits (n + 1) (c :: s) t

/-- A string that nobody wants, after its opening quote: surrogates need not be paired. -/
inductive LooselyQuoted : List Char → List Char → Prop
  | close {t} : LooselyQuoted ('"' :: t) t
  | plain {c s t} : Escaped.isPlain c → LooselyQuoted s t → LooselyQuoted (c :: s) t
  | letter {c s t} : (Escaped.letter? c).isSome → LooselyQuoted s t →
      LooselyQuoted ('\\' :: c :: s) t
  | unit {s u t} : HexDigits 4 s u → LooselyQuoted u t → LooselyQuoted ('\\' :: 'u' :: s) t

inductive Digits : List Char → List Char → Prop
  | none {s} : Digits s s
  | more {c s t} : c.isDigit → Digits s t → Digits (c :: s) t

inductive SomeDigits : List Char → List Char → Prop
  | mk {c s t} : c.isDigit → Digits s t → SomeDigits (c :: s) t

inductive SignedDigits : List Char → List Char → Prop
  | unsigned {s t} : SomeDigits s t → SignedDigits s t
  | signed {c s t} : c = '+' ∨ c = '-' → SomeDigits s t → SignedDigits (c :: s) t

inductive Exponent : List Char → List Char → Prop
  | none {s} : Exponent s s
  | some {c s t} : c = 'e' ∨ c = 'E' → SignedDigits s t → Exponent (c :: s) t

/-- What may follow the integer digits of a number. -/
inductive Tail : List Char → List Char → Prop
  | integer {s t} : Exponent s t → Tail s t
  | fraction {s u t} : SomeDigits s u → Exponent u t → Tail ('.' :: s) t

/-- A number without its sign; a leading zero stands alone. -/
inductive Magnitude : List Char → List Char → Prop
  | zero {s t} : Tail s t → Magnitude ('0' :: s) t
  | digits {c s u t} : c.isDigit → c ≠ '0' → Digits s u → Tail u t → Magnitude (c :: s) t

/-- The parts of a text that is only checked for its form. -/
inductive Part where
  | value
  /-- What follows an item of a list. -/
  | items
  /-- A key with its value. -/
  | member
  /-- What follows a member of an object. -/
  | members

/-- A value that nobody wants. -/
inductive Unwanted : Part → List Char → List Char → Prop
  | blank {c s t} : isSpace c → Unwanted .value s t → Unwanted .value (c :: s) t
  | null {t} : Unwanted .value ('n' :: 'u' :: 'l' :: 'l' :: t) t
  | true {t} : Unwanted .value ('t' :: 'r' :: 'u' :: 'e' :: t) t
  | false {t} : Unwanted .value ('f' :: 'a' :: 'l' :: 's' :: 'e' :: t) t
  | positive {s t} : Magnitude s t → Unwanted .value s t
  | negative {s t} : Magnitude s t → Unwanted .value ('-' :: s) t
  | text {s t} : LooselyQuoted s t → Unwanted .value ('"' :: s) t
  | emptyList {s t} : Blanks s (']' :: t) → Unwanted .value ('[' :: s) t
  | list {s u t} : Unwanted .value s u → Unwanted .items u t → Unwanted .value ('[' :: s) t
  | emptyObject {s t} : Blanks s ('\x7d' :: t) → Unwanted .value ('\x7b' :: s) t
  | object {s u t} : Unwanted .member s u → Unwanted .members u t →
      Unwanted .value ('\x7b' :: s) t
  | endItems {s t} : Blanks s (']' :: t) → Unwanted .items s t
  | item {s u v t} : Blanks s (',' :: u) → Unwanted .value u v → Unwanted .items v t →
      Unwanted .items s t
  | member {s k l v t} : Blanks s ('"' :: k) → LooselyQuoted k l → Blanks l (':' :: v) →
      Unwanted .value v t → Unwanted .member s t
  | endMembers {s t} : Blanks s ('\x7d' :: t) → Unwanted .members s t
  | another {s u v t} : Blanks s (',' :: u) → Unwanted .member u v → Unwanted .members v t →
      Unwanted .members s t

/-- Blanks may stand in front. -/
def Spaced {α : Type} (form : Form α) : Form α := fun s x t => ∃ u, Blanks s u ∧ form u x t

inductive Boolean : Form Bool
  | true {t} : Boolean ('t' :: 'r' :: 'u' :: 'e' :: t) true t
  | false {t} : Boolean ('f' :: 'a' :: 'l' :: 's' :: 'e' :: t) false t

/-- A natural number that is written with digits alone; a leading zero stands alone. -/
def Natural : Form Nat := fun s n t =>
  ∃ digits, s = digits ++ t ∧ digits ≠ [] ∧ (∀ d ∈ digits, d.isDigit) ∧
    (digits.head? = some '0' → digits = ['0']) ∧ Text.valueOf digits = n

def Word32 : Form UInt32 := fun s x t => Natural s x.toNat t

inductive Nullable {α : Type} (form : Form α) : Form (Option α)
  | null {t} : Nullable form ('n' :: 'u' :: 'l' :: 'l' :: t) none t
  | value {s x t} : form s x t → Nullable form s (some x) t

section Record

variable {ρ : Type}

/-- A field of a record: its name, and the changes to the record that its values stand for. -/
structure FieldForm (ρ : Type) where
  name : String
  form : Form (ρ → ρ)

/-- A field whose values are stored by `set`. -/
def FieldForm.of {α : Type} (name : String) (form : Form α) (set : ρ → α → ρ) : FieldForm ρ where
  name := name
  form s change t := ∃ x, form s x t ∧ change = fun r => set r x

/-- What stands in front of an item or a member: nothing if it is the first, else a comma. -/
inductive Separator : Bool → List Char → List Char → Prop
  | first {s} : Separator true s s
  | comma {s t} : Blanks s (',' :: t) → Separator false s t

def Key : Form (List Char) := fun s key t =>
  ∃ k l, Blanks s ('"' :: k) ∧ Quoted k key l ∧ Blanks l (':' :: t)

/-- The fields of a record in their own order, from `first` to the end of the list, which may come
early. -/
inductive Items : Bool → List (FieldForm ρ) → Form (List (ρ → ρ))
  | close {first fields s t} : Blanks s (']' :: t) → Items first fields s [] t
  | item {first f fields s u change v changes t} : Separator first s u →
      Spaced f.form u change v → Items false fields v changes t →
      Items first (f :: fields) s (change :: changes) t

/-- The members of an object, from `first` to the end of the object: the fields that they name with
the changes. Keys that name no field may have any value. -/
inductive Members (fields : List (FieldForm ρ)) : Bool → Form (List (String × (ρ → ρ)))
  | close {first s t} : Blanks s ('\x7d' :: t) → Members fields first s [] t
  | known {first f s u v change w members t} : Separator first s u → f ∈ fields →
      Key u f.name.toList v → Spaced f.form v change w → Members fields false w members t →
      Members fields first s ((f.name, change) :: members) t
  | unknown {first s u key v w members t} : Separator first s u → Key u key v →
      (∀ f ∈ fields, f.name.toList ≠ key) → Unwanted .value v w → Members fields false w members t →
      Members fields first s members t

/-- A record that changes in order lead to. -/
def changed (r : ρ) (changes : List (ρ → ρ)) : ρ := changes.foldl (fun r change => change r) r

/-- A record: an object in which no field is named twice, or a list. Fields that are left out keep
the value that they have in `default`. -/
inductive Record (fields : List (FieldForm ρ)) (default : ρ) : Form ρ
  | list {s changes t} : Items true fields s changes t →
      Record fields default ('[' :: s) (changed default changes) t
  | object {s members t} : Members fields true s members t → (members.map Prod.fst).Nodup →
      Record fields default ('\x7b' :: s) (changed default (members.map Prod.snd)) t

end Record

/-- A whole text: blanks, a value, blanks. -/
def Document {α : Type} (form : Form α) (s : List Char) (x : α) : Prop :=
  ∃ t, Spaced form s x t ∧ Blanks t []

/-- No number can go on here. -/
def Stops (s : List Char) : Prop :=
  ∀ c t, s = c :: t → ¬ c.isDigit ∧ c ≠ '.' ∧ c ≠ 'e' ∧ c ≠ 'E'

theorem blanks_skipSpace (s : List Char) : Blanks s (skipSpace s) := by
  induction s with
  | nil => exact .none
  | cons c s ih =>
    by_cases space : isSpace c
    · simpa [skipSpace, space] using Blanks.more space ih
    · rw [skipSpace_cons_of_not (by simpa using space)]
      exact .none

theorem Blanks.skipSpace_eq {s t : List Char} (h : Blanks s t) : skipSpace s = skipSpace t := by
  induction h with
  | none => rfl
  | more space _ ih => simpa [skipSpace, space] using ih

theorem skipSpace_eq_cons_iff {c : Char} {s t : List Char} (visible : isSpace c = false) :
    skipSpace s = c :: t ↔ Blanks s (c :: t) := by
  constructor
  · intro h
    rw [← h]
    exact blanks_skipSpace s
  · intro h
    rw [h.skipSpace_eq, skipSpace_cons_of_not visible]

theorem blanks_cons_iff {c d : Char} {s t : List Char} :
    Blanks (c :: s) (d :: t) ↔ (c = d ∧ s = t) ∨ (isSpace c ∧ Blanks s (d :: t)) := by
  constructor
  · intro h
    cases h with
    | none => exact .inl ⟨rfl, rfl⟩
    | more space h => exact .inr ⟨space, h⟩
  · rintro (⟨rfl, rfl⟩ | ⟨space, h⟩)
    · exact .none
    · exact .more space h

theorem not_blanks_nil {d : Char} {t : List Char} : ¬ Blanks [] (d :: t) := by
  intro h
  cases h

end Json
end Genesis
