import Genesis.Proofs.Json.Grammar

/-!
# How a text of each form begins

One equivalence for each form of the grammar and each kind of first character, as an automaton needs
them that takes one character after the other; and what is left to say when a text has ended.
-/

namespace Genesis
namespace Json

variable {c : Char} {s t : List Char}

theorem digits_cons_iff : Digits (c :: s) t ↔ c :: s = t ∨ (c.isDigit ∧ Digits s t) := by
  constructor
  · intro h
    cases h with
    | none => exact .inl rfl
    | more digit h => exact .inr ⟨digit, h⟩
  · rintro (rfl | ⟨digit, h⟩)
    · exact .none
    · exact .more digit h

theorem someDigits_cons_iff : SomeDigits (c :: s) t ↔ c.isDigit ∧ Digits s t := by
  constructor
  · rintro ⟨digit, h⟩
    exact ⟨digit, h⟩
  · rintro ⟨digit, h⟩
    exact .mk digit h

theorem signedDigits_cons_iff : SignedDigits (c :: s) t ↔
    (c.isDigit ∧ Digits s t) ∨ ((c = '+' ∨ c = '-') ∧ SomeDigits s t) := by
  constructor
  · intro h
    cases h with
    | unsigned h => exact .inl (someDigits_cons_iff.1 h)
    | signed sign h => exact .inr ⟨sign, h⟩
  · rintro (h | ⟨sign, h⟩)
    · exact .unsigned (someDigits_cons_iff.2 h)
    · exact .signed sign h

theorem exponent_cons_iff : Exponent (c :: s) t ↔
    c :: s = t ∨ ((c = 'e' ∨ c = 'E') ∧ SignedDigits s t) := by
  constructor
  · intro h
    cases h with
    | none => exact .inl rfl
    | some mark h => exact .inr ⟨mark, h⟩
  · rintro (rfl | ⟨mark, h⟩)
    · exact .none
    · exact .some mark h

theorem tail_cons_iff : Tail (c :: s) t ↔
    Exponent (c :: s) t ∨ (c = '.' ∧ ∃ u, SomeDigits s u ∧ Exponent u t) := by
  constructor
  · intro h
    cases h with
    | integer h => exact .inl h
    | fraction digits h => exact .inr ⟨rfl, _, digits, h⟩
  · rintro (h | ⟨rfl, u, digits, h⟩)
    · exact .integer h
    · exact .fraction digits h

theorem magnitude_cons_iff : Magnitude (c :: s) t ↔
    (c = '0' ∧ Tail s t) ∨ (c.isDigit ∧ c ≠ '0' ∧ ∃ u, Digits s u ∧ Tail u t) := by
  constructor
  · intro h
    cases h with
    | zero tail => exact .inl ⟨rfl, tail⟩
    | digits digit notZero more tail => exact .inr ⟨digit, notZero, _, more, tail⟩
  · rintro (⟨rfl, tail⟩ | ⟨digit, notZero, u, more, tail⟩)
    · exact .zero tail
    · exact .digits digit notZero more tail

theorem Magnitude.isDigit (h : Magnitude (c :: s) t) : c.isDigit := by
  cases h with
  | zero => decide
  | digits digit => exact digit

theorem not_magnitude (notDigit : ¬ c.isDigit) : ¬ Magnitude (c :: s) t :=
  fun h => notDigit h.isDigit

theorem not_mark_of_isDigit (digit : c.isDigit) : ¬ (c = 'e' ∨ c = 'E') ∧ c ≠ '.' := by
  refine ⟨?_, ?_⟩
  · rintro (rfl | rfl) <;> exact absurd digit (by decide)
  · rintro rfl
    exact absurd digit (by decide)

theorem not_isDigit_of_isSpace (space : isSpace c) : ¬ c.isDigit := by
  simp only [isSpace, Bool.or_eq_true, beq_iff_eq] at space
  rcases space with ((rfl | rfl) | rfl) | rfl <;> decide

theorem isSpace_of_isDigit (digit : c.isDigit) : isSpace c = false := by
  by_cases space : isSpace c
  · exact absurd digit (not_isDigit_of_isSpace space)
  · simpa using space

theorem ne_of_isSpace {d : Char} (space : isSpace c) (visible : isSpace d = false) : c ≠ d := by
  rintro rfl
  exact absurd space (by simp [visible])

theorem stops_nil : Stops [] := nofun

theorem stops_cons (notNumber : ¬ c.isDigit ∧ c ≠ '.' ∧ c ≠ 'e' ∧ c ≠ 'E') : Stops (c :: t) := by
  rintro d u ⟨⟩
  exact notNumber

theorem stops_of_isSpace (space : isSpace c) : Stops (c :: t) :=
  stops_cons ⟨not_isDigit_of_isSpace space, ne_of_isSpace space rfl, ne_of_isSpace space rfl,
    ne_of_isSpace space rfl⟩

theorem Blanks.stops (h : Blanks s t) (stops : Stops t) : Stops s := by
  cases h with
  | none => exact stops
  | more space _ => exact stops_of_isSpace space

theorem looselyQuoted_cons_iff (notEscape : c ≠ '\\') : LooselyQuoted (c :: s) t ↔
    (c = '"' ∧ s = t) ∨ (Escaped.isPlain c ∧ LooselyQuoted s t) := by
  constructor
  · intro h
    cases h with
    | close => exact .inl ⟨rfl, rfl⟩
    | plain plain h => exact .inr ⟨plain, h⟩
    | letter => exact absurd rfl notEscape
    | unit => exact absurd rfl notEscape
  · rintro (⟨rfl, rfl⟩ | ⟨plain, h⟩)
    · exact .close
    · exact .plain plain h

theorem hexDigits_zero_iff : HexDigits 0 s t ↔ s = t := by
  constructor
  · rintro ⟨⟩
    rfl
  · rintro rfl
    exact .none

theorem hexDigits_cons_iff {n : Nat} : HexDigits (n + 1) (c :: s) t ↔
    (Escaped.hexDigit? c).isSome ∧ HexDigits n s t := by
  constructor
  · intro h
    cases h with
    | more digit h => exact ⟨digit, h⟩
  · rintro ⟨digit, h⟩
    exact .more digit h

theorem looselyQuoted_escape_iff : LooselyQuoted ('\\' :: c :: s) t ↔
    ((Escaped.letter? c).isSome ∧ LooselyQuoted s t) ∨
      (c = 'u' ∧ ∃ u, HexDigits 4 s u ∧ LooselyQuoted u t) := by
  constructor
  · intro h
    cases h with
    | plain plain => exact absurd plain (by decide)
    | letter found h => exact .inl ⟨found, h⟩
    | unit digits h => exact .inr ⟨rfl, _, digits, h⟩
  · rintro (⟨found, h⟩ | ⟨rfl, u, digits, h⟩)
    · exact .letter found h
    · exact .unit digits h

theorem HexDigits.isShort_eq (h : HexDigits 4 s t) : Escaped.isShort s = false := by
  cases h with | @more a _ _ _ _ h =>
  cases h with | @more b _ _ _ _ h =>
  cases h with | @more c _ _ _ _ h =>
  cases h with | @more d _ _ _ _ h =>
  have ha := a.utf8Size_pos
  have hb := b.utf8Size_pos
  have hc := c.utf8Size_pos
  have hd := d.utf8Size_pos
  simp [Escaped.isShort]
  omega

/-- The first character of a value tells its kind. -/
theorem value_cons_iff : Unwanted .value (c :: s) t ↔
    (isSpace c ∧ Unwanted .value s t) ∨ (c = 'n' ∧ s = ['u', 'l', 'l'] ++ t) ∨
    (c = 't' ∧ s = ['r', 'u', 'e'] ++ t) ∨ (c = 'f' ∧ s = ['a', 'l', 's', 'e'] ++ t) ∨
    Magnitude (c :: s) t ∨ (c = '-' ∧ Magnitude s t) ∨ (c = '"' ∧ LooselyQuoted s t) ∨
    (c = '[' ∧ (Blanks s (']' :: t) ∨ ∃ u, Unwanted .value s u ∧ Unwanted .items u t)) ∨
    (c = '\x7b' ∧
      (Blanks s ('\x7d' :: t) ∨ ∃ u, Unwanted .member s u ∧ Unwanted .members u t)) := by
  constructor
  · intro h
    cases h <;> grind
  · rintro (⟨space, h⟩ | ⟨rfl, rfl⟩ | ⟨rfl, rfl⟩ | ⟨rfl, rfl⟩ | h | ⟨rfl, h⟩ | ⟨rfl, h⟩ |
      ⟨rfl, h | ⟨u, h, more⟩⟩ | ⟨rfl, h | ⟨u, h, more⟩⟩)
    · exact .blank space h
    · exact .null
    · exact .true
    · exact .false
    · exact .positive h
    · exact .negative h
    · exact .text h
    · exact .emptyList h
    · exact .list h more
    · exact .emptyObject h
    · exact .object h more

theorem value_blank_iff (space : isSpace c) :
    Unwanted .value (c :: s) t ↔ Unwanted .value s t := by
  constructor
  · intro h
    cases h with
    | blank _ h => exact h
    | positive h => exact absurd h.isDigit (not_isDigit_of_isSpace space)
    | _ => exact absurd space (by decide)
  · exact .blank space

theorem items_cons_iff : Unwanted .items (c :: s) t ↔
    (isSpace c ∧ Unwanted .items s t) ∨ (c = ']' ∧ s = t) ∨
    (c = ',' ∧ ∃ u, Unwanted .value s u ∧ Unwanted .items u t) := by
  constructor
  · intro h
    cases h with
    | endItems close =>
      rcases blanks_cons_iff.1 close with ⟨rfl, rfl⟩ | ⟨space, close⟩
      · exact .inr (.inl ⟨rfl, rfl⟩)
      · exact .inl ⟨space, .endItems close⟩
    | item comma value more =>
      rcases blanks_cons_iff.1 comma with ⟨rfl, rfl⟩ | ⟨space, comma⟩
      · exact .inr (.inr ⟨rfl, _, value, more⟩)
      · exact .inl ⟨space, .item comma value more⟩
  · rintro (⟨space, h⟩ | ⟨rfl, rfl⟩ | ⟨rfl, u, value, more⟩)
    · cases h with
      | endItems close => exact .endItems (.more space close)
      | item comma value more => exact .item (.more space comma) value more
    · exact .endItems .none
    · exact .item .none value more

theorem members_cons_iff : Unwanted .members (c :: s) t ↔
    (isSpace c ∧ Unwanted .members s t) ∨ (c = '\x7d' ∧ s = t) ∨
    (c = ',' ∧ ∃ u, Unwanted .member s u ∧ Unwanted .members u t) := by
  constructor
  · intro h
    cases h with
    | endMembers close =>
      rcases blanks_cons_iff.1 close with ⟨rfl, rfl⟩ | ⟨space, close⟩
      · exact .inr (.inl ⟨rfl, rfl⟩)
      · exact .inl ⟨space, .endMembers close⟩
    | another comma value more =>
      rcases blanks_cons_iff.1 comma with ⟨rfl, rfl⟩ | ⟨space, comma⟩
      · exact .inr (.inr ⟨rfl, _, value, more⟩)
      · exact .inl ⟨space, .another comma value more⟩
  · rintro (⟨space, h⟩ | ⟨rfl, rfl⟩ | ⟨rfl, u, value, more⟩)
    · cases h with
      | endMembers close => exact .endMembers (.more space close)
      | another comma value more => exact .another (.more space comma) value more
    · exact .endMembers .none
    · exact .another .none value more

def AfterKey (s t : List Char) : Prop := ∃ v, Blanks s (':' :: v) ∧ Unwanted .value v t

theorem member_cons_iff : Unwanted .member (c :: s) t ↔
    (isSpace c ∧ Unwanted .member s t) ∨ (c = '"' ∧ ∃ u, LooselyQuoted s u ∧ AfterKey u t) := by
  constructor
  · intro h
    cases h with
    | member start key colon value =>
      rcases blanks_cons_iff.1 start with ⟨rfl, rfl⟩ | ⟨space, start⟩
      · exact .inr ⟨rfl, _, key, _, colon, value⟩
      · exact .inl ⟨space, .member start key colon value⟩
  · rintro (⟨space, h⟩ | ⟨rfl, u, key, v, colon, value⟩)
    · cases h with
      | member start key colon value => exact .member (.more space start) key colon value
    · exact .member .none key colon value

theorem opened_list_cons_iff : Unwanted .value ('[' :: c :: s) t ↔
    (isSpace c ∧ Unwanted .value ('[' :: s) t) ∨ (c = ']' ∧ s = t) ∨
      (¬ isSpace c ∧ ∃ u, Unwanted .value (c :: s) u ∧ Unwanted .items u t) := by
  have opened (s : List Char) : Unwanted .value ('[' :: s) t ↔
      Blanks s (']' :: t) ∨ ∃ u, Unwanted .value s u ∧ Unwanted .items u t := by
    simp [value_cons_iff, isSpace, not_magnitude]
  rw [opened, opened, blanks_cons_iff]
  by_cases space : isSpace c
  · simp only [space, value_blank_iff space]
    grind
  · simp [space]

theorem opened_object_cons_iff : Unwanted .value ('\x7b' :: c :: s) t ↔
    (isSpace c ∧ Unwanted .value ('\x7b' :: s) t) ∨ (c = '\x7d' ∧ s = t) ∨
      (¬ isSpace c ∧ ∃ u, Unwanted .member (c :: s) u ∧ Unwanted .members u t) := by
  have opened (s : List Char) : Unwanted .value ('\x7b' :: s) t ↔
      Blanks s ('\x7d' :: t) ∨ ∃ u, Unwanted .member s u ∧ Unwanted .members u t := by
    simp [value_cons_iff, isSpace, not_magnitude]
  rw [opened, opened, blanks_cons_iff]
  by_cases space : isSpace c
  · have notQuote : c ≠ '"' := ne_of_isSpace space rfl
    simp only [space, member_cons_iff, notQuote]
    grind
  · simp [space]

theorem afterKey_cons_iff : AfterKey (c :: s) t ↔
    (isSpace c ∧ AfterKey s t) ∨ (c = ':' ∧ Unwanted .value s t) := by
  simp only [AfterKey, blanks_cons_iff]
  grind

theorem digits_nil_iff : Digits [] t ↔ t = [] := by
  constructor
  · rintro ⟨⟩
    rfl
  · rintro rfl
    exact .none

theorem not_someDigits_nil : ¬ SomeDigits [] t := nofun

theorem not_signedDigits_nil : ¬ SignedDigits [] t := by
  intro h
  cases h with | unsigned h => exact not_someDigits_nil h

theorem exponent_nil_iff : Exponent [] t ↔ t = [] := by
  constructor
  · rintro ⟨⟩
    rfl
  · rintro rfl
    exact .none

theorem tail_nil_iff : Tail [] t ↔ t = [] := by
  constructor
  · intro h
    cases h with | integer h => exact exponent_nil_iff.1 h
  · rintro rfl
    exact .integer .none

theorem not_magnitude_nil : ¬ Magnitude [] t := nofun

theorem not_looselyQuoted_nil : ¬ LooselyQuoted [] t := nofun

theorem not_looselyQuoted_escape : ¬ LooselyQuoted ['\\'] t := by
  intro h
  cases h with | plain plain => exact absurd plain (by decide)

theorem not_unwanted_nil {p : Part} : ¬ Unwanted p [] t := by
  intro h
  cases h with
  | positive h => exact not_magnitude_nil h
  | endItems close => exact not_blanks_nil close
  | item comma => exact not_blanks_nil comma
  | member start => exact not_blanks_nil start
  | endMembers close => exact not_blanks_nil close
  | another comma => exact not_blanks_nil comma

theorem not_hexDigits_nil {n : Nat} : ¬ HexDigits (n + 1) [] t := nofun

theorem not_afterKey_nil : ¬ AfterKey [] t := fun ⟨_, colon, _⟩ => not_blanks_nil colon

end Json
end Genesis
