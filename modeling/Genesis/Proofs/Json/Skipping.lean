import Genesis.Proofs.Json.Inversion

/-!
# Values are passed over by their grammar

The automaton that passes over a value holds its open brackets on a stack. What a state still needs
is a text that completes the value it is in and then closes the brackets one by one (`Completes`).
One step of the automaton takes one character off that text, so a run accepts just the texts that
complete its first state (`run_eq_ok_iff`).
-/

namespace Genesis
namespace Json

namespace Skip

def Bracket.opening : Bracket → Char
  | list => '['
  | object => '\x7b'

def AfterText (isKey : Bool) (s t : List Char) : Prop := if isKey then AfterKey s t else s = t

def Missing : Phase → List Char → List Char → Prop
  | .value, s, t => Unwanted .value s t
  | .opened, _, _ => False
  | .after, s, t => s = t
  | .key, s, t => Unwanted .member s t
  | .colon, s, t => AfterKey s t
  | .text isKey, s, t => ∃ u, LooselyQuoted s u ∧ AfterText isKey u t
  | .escape isKey, s, t => ∃ u, LooselyQuoted ('\\' :: s) u ∧ AfterText isKey u t
  | .unit isKey left, s, t =>
    ∃ v u, HexDigits left s v ∧ LooselyQuoted v u ∧ AfterText isKey u t
  | .word left, s, t => s = left ++ t
  | .minus, s, t => Magnitude s t
  | .zero, s, t => Tail s t
  | .digits, s, t => ∃ u, Digits s u ∧ Tail u t
  | .point, s, t => ∃ u, SomeDigits s u ∧ Exponent u t
  | .fraction, s, t => ∃ u, Digits s u ∧ Exponent u t
  | .mark, s, t => SignedDigits s t
  | .sign, s, t => SomeDigits s t
  | .exponent, s, t => Digits s t

/-- What follows a value closes the brackets that are open around it; `rest` is left. -/
def Closes (rest : List Char) : List Bracket → List Char → Prop
  | [], s => s = rest
  | .list :: bs, s => ∃ t, Unwanted .items s t ∧ Closes rest bs t
  | .object :: bs, s => ∃ t, Unwanted .members s t ∧ Closes rest bs t

/-- A text completes the value that a state is in and closes the open brackets; `rest` is left. -/
def Completes (rest : List Char) (st : State) (s : List Char) : Prop :=
  match st.phase, st.brackets with
  | .opened, b :: bs => ∃ t, Unwanted .value (b.opening :: s) t ∧ Closes rest bs t
  | phase, bs => ∃ t, Missing phase s t ∧ Closes rest bs t

/-- The states that the automaton can be in. -/
def State.Proper (st : State) : Prop :=
  match st.phase with
  | .opened | .after => st.brackets ≠ []
  | .word left => left ≠ []
  | .unit _ left => 0 < left
  | _ => True

def Step.result (c : Char) (s : List Char) : Step → Except Fault (List Char)
  | .next st => run s st
  | .last => .ok s
  | .past => .ok (c :: s)
  | .fault f => .error f

theorem run_cons (c : Char) (s : List Char) (st : State) :
    run (c :: s) st = (step c s st).result c s := by
  rw [run]
  cases step c s st <;> rfl

section Step

variable {c : Char} {s rest : List Char} {bs : List Bracket}

theorem closes_cons_iff {b : Bracket} : Closes rest (b :: bs) (c :: s) ↔
    (isSpace c ∧ Closes rest (b :: bs) s) ∨
      (match b with
        | .list => (c = ']' ∧ Closes rest bs s) ∨
          (c = ',' ∧ ∃ t, Unwanted .value s t ∧ Closes rest (.list :: bs) t)
        | .object => (c = '\x7d' ∧ Closes rest bs s) ∨
          (c = ',' ∧ ∃ t, Unwanted .member s t ∧ Closes rest (.object :: bs) t)) := by
  cases b with
  | list =>
    simp only [Closes, items_cons_iff]
    grind
  | object =>
    simp only [Closes, members_cons_iff]
    grind

/-- After a value no number can go on. -/
theorem Closes.stops (stops : Stops rest) {s : List Char} (h : Closes rest bs s) : Stops s := by
  cases bs with
  | nil =>
    cases h
    exact stops
  | cons b bs =>
    cases b with
    | list =>
      obtain ⟨t, items, -⟩ := h
      cases items with
      | endItems close => exact close.stops (stops_cons (by decide))
      | item comma => exact comma.stops (stops_cons (by decide))
    | object =>
      obtain ⟨t, members, -⟩ := h
      cases members with
      | endMembers close => exact close.stops (stops_cons (by decide))
      | another comma => exact comma.stops (stops_cons (by decide))

variable (ih : ∀ st : State, st.Proper → (run s st = .ok rest ↔ Completes rest st s))

include ih

theorem result_next (c : Char) {p : Phase} (bs : List Bracket) (inner : p ≠ .opened)
    (proper : State.Proper ⟨p, bs⟩) :
    (Step.next ⟨p, bs⟩).result c s = .ok rest ↔ ∃ t, Missing p s t ∧ Closes rest bs t := by
  refine (ih ⟨p, bs⟩ proper).trans ?_
  cases p with
  | opened => exact absurd rfl inner
  | _ => rfl

theorem result_complete : (complete bs).result c s = .ok rest ↔ Closes rest bs s := by
  cases bs with
  | nil => simp [complete, Step.result, Closes]
  | cons b bs =>
    refine (result_next ih c (b :: bs) (by simp) (by simp [State.Proper])).trans ?_
    simp [Missing]

theorem result_follow {b : Bracket} :
    (follow c (b :: bs)).result c s = .ok rest ↔ Closes rest (b :: bs) (c :: s) := by
  rw [closes_cons_iff]
  have after := result_next ih c (b :: bs) (p := .after) (by simp) (by simp [State.Proper])
  have value := result_next ih c (b :: bs) (p := .value) (by simp) trivial
  have key := result_next ih c (b :: bs) (p := .key) (by simp) trivial
  by_cases space : isSpace c
  · have notClose : c ≠ ']' ∧ c ≠ '\x7d' ∧ c ≠ ',' :=
      ⟨ne_of_isSpace space rfl, ne_of_isSpace space rfl, ne_of_isSpace space rfl⟩
    cases b <;> simpa [follow, space, notClose, Missing] using after
  · cases b with
    | list =>
      by_cases close : c = ']'
      · subst close
        simpa [follow, close?, isSpace] using result_complete ih
      · by_cases comma : c = ','
        · subst comma
          simpa [follow, close?, isSpace, Missing] using value
        · simp [follow, space, close?, close, comma, Step.result]
    | object =>
      by_cases close : c = '\x7d'
      · subst close
        simpa [follow, close?, isSpace] using result_complete ih
      · by_cases comma : c = ','
        · subst comma
          simpa [follow, close?, isSpace, Missing] using key
        · simp [follow, space, close?, close, comma, Step.result]

theorem result_endNumber :
    (endNumber c bs).result c s = .ok rest ↔ Closes rest bs (c :: s) := by
  cases bs with
  | nil => simp [endNumber, Step.result, Closes]
  | cons b bs => exact result_follow ih

theorem result_start (visible : ¬ isSpace c) :
    (start c bs).result c s = .ok rest ↔ ∃ t, Unwanted .value (c :: s) t ∧ Closes rest bs t := by
  unfold start
  split
  case isTrue null =>
    subst null
    rw [result_next ih _ bs (by simp) (by simp [State.Proper])]
    simp [value_cons_iff, isSpace, not_magnitude, Missing]
  split
  case isTrue true =>
    subst true
    rw [result_next ih _ bs (by simp) (by simp [State.Proper])]
    simp [value_cons_iff, isSpace, not_magnitude, Missing]
  split
  case isTrue false =>
    subst false
    rw [result_next ih _ bs (by simp) (by simp [State.Proper])]
    simp [value_cons_iff, isSpace, not_magnitude, Missing]
  split
  case isTrue minus =>
    subst minus
    rw [result_next ih _ bs (by simp) (by simp [State.Proper])]
    simp [value_cons_iff, isSpace, not_magnitude, Missing]
  split
  case isTrue zero =>
    subst zero
    rw [result_next ih _ bs (by simp) (by simp [State.Proper])]
    simp [value_cons_iff, isSpace, magnitude_cons_iff, Missing]
  split
  case isTrue notZero digit =>
    rw [result_next ih _ bs (by simp) (by simp [State.Proper])]
    have notBracket : c ≠ '"' ∧ c ≠ '[' ∧ c ≠ '\x7b' := by
      refine ⟨?_, ?_, ?_⟩ <;>
      · rintro rfl
        exact absurd digit (by decide)
    simp [value_cons_iff, magnitude_cons_iff, Missing, *]
  split
  case isTrue quote =>
    subst quote
    rw [result_next ih _ bs (by simp) (by simp [State.Proper])]
    simp [value_cons_iff, isSpace, not_magnitude, Missing, AfterText]
  split
  case isTrue list =>
    subst list
    exact ih ⟨.opened, .list :: bs⟩ (by simp [State.Proper])
  split
  case isTrue object =>
    subst object
    exact ih ⟨.opened, .object :: bs⟩ (by simp [State.Proper])
  simp [value_cons_iff, not_magnitude, Step.result, *]

theorem result_startKey :
    (startKey c bs).result c s = .ok rest ↔
      c = '"' ∧ ∃ t, (∃ u, LooselyQuoted s u ∧ AfterKey u t) ∧ Closes rest bs t := by
  unfold startKey
  split
  case isTrue quote =>
    rw [result_next ih _ bs (by simp) (by simp [State.Proper])]
    simp [Missing, quote, AfterText]
  simp [Step.result, *]

theorem step_value :
    (step c s ⟨.value, bs⟩).result c s = .ok rest ↔ Completes rest ⟨.value, bs⟩ (c :: s) := by
  simp only [step, Completes, Missing]
  split
  case isTrue space =>
    rw [result_next ih _ bs (by simp) (by simp [State.Proper])]
    simp only [Missing, value_blank_iff space]
  case isFalse visible => exact result_start ih visible

theorem step_opened_list :
    (step c s ⟨.opened, .list :: bs⟩).result c s = .ok rest ↔
      Completes rest ⟨.opened, .list :: bs⟩ (c :: s) := by
  simp only [step, Completes, Bracket.opening, opened_list_cons_iff]
  split
  case isTrue space =>
    have notClose : c ≠ ']' := ne_of_isSpace space rfl
    refine (ih ⟨.opened, .list :: bs⟩ (by simp [State.Proper])).trans ?_
    simp [Completes, Bracket.opening, space, notClose]
  case isFalse visible =>
    by_cases close : c = ']'
    · subst close
      refine (result_complete ih).trans ?_
      simp [isSpace, value_cons_iff, not_magnitude]
    · simp only [close?, close, if_false]
      refine (result_start ih visible).trans ?_
      simp only [visible, Closes]
      grind

theorem step_opened_object :
    (step c s ⟨.opened, .object :: bs⟩).result c s = .ok rest ↔
      Completes rest ⟨.opened, .object :: bs⟩ (c :: s) := by
  simp only [step, Completes, Bracket.opening, opened_object_cons_iff]
  split
  case isTrue space =>
    have notClose : c ≠ '\x7d' := ne_of_isSpace space rfl
    refine (ih ⟨.opened, .object :: bs⟩ (by simp [State.Proper])).trans ?_
    simp [Completes, Bracket.opening, space, notClose]
  case isFalse visible =>
    by_cases close : c = '\x7d'
    · subst close
      refine (result_complete ih).trans ?_
      simp [isSpace, member_cons_iff]
    · simp only [close?, close, if_false]
      refine (result_startKey ih).trans ?_
      simp only [visible, Closes, member_cons_iff]
      grind

theorem step_key :
    (step c s ⟨.key, bs⟩).result c s = .ok rest ↔ Completes rest ⟨.key, bs⟩ (c :: s) := by
  simp only [step, Completes, Missing, member_cons_iff]
  split
  case isTrue space =>
    have notQuote : c ≠ '"' := ne_of_isSpace space rfl
    rw [result_next ih _ bs (by simp) (by simp [State.Proper])]
    simp [Missing, space, notQuote]
  case isFalse visible =>
    refine (result_startKey ih).trans ?_
    simp only [visible]
    grind

theorem step_colon :
    (step c s ⟨.colon, bs⟩).result c s = .ok rest ↔ Completes rest ⟨.colon, bs⟩ (c :: s) := by
  simp only [step, Completes, Missing, afterKey_cons_iff]
  split
  case isTrue space =>
    have notColon : c ≠ ':' := ne_of_isSpace space rfl
    rw [result_next ih _ bs (by simp) (by simp [State.Proper])]
    simp [Missing, space, notColon]
  case isFalse visible =>
    split
    case isTrue colon =>
      rw [result_next ih _ bs (by simp) (by simp [State.Proper])]
      simp only [Missing, colon]
      grind
    simp [Step.result, *]

theorem step_text (isKey : Bool) :
    (step c s ⟨.text isKey, bs⟩).result c s = .ok rest ↔
      Completes rest ⟨.text isKey, bs⟩ (c :: s) := by
  simp only [step, Completes, Missing]
  by_cases escape : c = '\\'
  · subst escape
    exact result_next ih _ bs (p := .escape isKey) (by simp) (by simp [State.Proper])
  simp only [looselyQuoted_cons_iff escape, escape, if_false]
  split
  case isTrue quote =>
    subst quote
    cases isKey with
    | true =>
      refine (result_next ih _ bs (by simp) (by simp [State.Proper])).trans ?_
      simp [Missing, Escaped.isPlain, AfterText]
    | false =>
      refine (result_complete ih).trans ?_
      simp [Escaped.isPlain, AfterText]
  case isFalse notQuote =>
    split
    case isTrue control =>
      simp [Escaped.isPlain, Step.result, notQuote, Nat.not_le.2 control]
    case isFalse visible =>
      rw [result_next ih _ bs (by simp) (by simp [State.Proper])]
      simp [Missing, Escaped.isPlain, notQuote, escape, Nat.not_lt.1 visible]

theorem step_escape (isKey : Bool) :
    (step c s ⟨.escape isKey, bs⟩).result c s = .ok rest ↔
      Completes rest ⟨.escape isKey, bs⟩ (c :: s) := by
  simp only [step, Completes, Missing, looselyQuoted_escape_iff]
  split
  case isTrue unit =>
    have noLetter : Escaped.letter? c = none := by
      subst unit
      rfl
    split
    case isTrue short =>
      have few (u : List Char) : ¬ HexDigits 4 s u := fun digits =>
        absurd (digits.isShort_eq.symm.trans short) (by decide)
      simp [Step.result, noLetter, few]
    case isFalse =>
      rw [result_next ih _ bs (by simp) (by simp [State.Proper])]
      simp only [Missing, unit]
      grind
  case isFalse notUnit =>
    split
    case isTrue found =>
      rw [result_next ih _ bs (by simp) (by simp [State.Proper])]
      simp [Missing, notUnit, found]
    case isFalse unknown => simp [Step.result, notUnit, unknown]

theorem step_unit (isKey : Bool) {left : Nat} (some : 0 < left) :
    (step c s ⟨.unit isKey left, bs⟩).result c s = .ok rest ↔
      Completes rest ⟨.unit isKey left, bs⟩ (c :: s) := by
  obtain ⟨left, rfl⟩ := Nat.exists_eq_succ_of_ne_zero (Nat.ne_of_gt some)
  simp only [step, Completes, Missing, hexDigits_cons_iff]
  split
  case isTrue unknown => simp [Step.result, Option.isNone_iff_eq_none.1 unknown]
  case isFalse known =>
    have digit : (Escaped.hexDigit? c).isSome := by simpa [Option.isSome_iff_ne_none] using known
    cases left with
    | zero =>
      refine (result_next ih _ bs (by simp) (by simp [State.Proper])).trans ?_
      simp [Missing, digit, hexDigits_zero_iff]
    | succ left =>
      refine (result_next ih _ bs (by simp) (by simp [State.Proper])).trans ?_
      simp [Missing, digit]

theorem step_word (d : Char) (left : List Char) :
    (step c s ⟨.word (d :: left), bs⟩).result c s = .ok rest ↔
      Completes rest ⟨.word (d :: left), bs⟩ (c :: s) := by
  simp only [step, Completes, Missing, List.cons_append, List.cons.injEq]
  split
  case isTrue same =>
    cases left with
    | nil =>
      refine (result_complete ih).trans ?_
      simp [same]
    | cons e left =>
      refine (result_next ih _ bs (by simp) (by simp [State.Proper])).trans ?_
      simp [Missing, same]
  case isFalse other => simp [Step.result, other]

theorem step_minus :
    (step c s ⟨.minus, bs⟩).result c s = .ok rest ↔ Completes rest ⟨.minus, bs⟩ (c :: s) := by
  simp only [step, Completes, Missing, magnitude_cons_iff]
  split
  case isTrue zero =>
    rw [result_next ih _ bs (by simp) (by simp [State.Proper])]
    simp [Missing, zero]
  case isFalse notZero =>
    split
    case isTrue digit =>
      rw [result_next ih _ bs (by simp) (by simp [State.Proper])]
      simp [Missing, notZero, digit]
    case isFalse notDigit => simp [Step.result, notZero, notDigit]

theorem step_point :
    (step c s ⟨.point, bs⟩).result c s = .ok rest ↔ Completes rest ⟨.point, bs⟩ (c :: s) := by
  simp only [step, Completes, Missing, someDigits_cons_iff]
  split
  case isTrue digit =>
    rw [result_next ih _ bs (by simp) (by simp [State.Proper])]
    simp [Missing, digit]
  case isFalse notDigit => simp [Step.result, notDigit]

theorem step_mark :
    (step c s ⟨.mark, bs⟩).result c s = .ok rest ↔ Completes rest ⟨.mark, bs⟩ (c :: s) := by
  simp only [step, Completes, Missing, signedDigits_cons_iff]
  split
  case isTrue sign =>
    have notDigit : ¬ c.isDigit := by rcases sign with rfl | rfl <;> decide
    rw [result_next ih _ bs (by simp) (by simp [State.Proper])]
    simp [Missing, sign, notDigit]
  case isFalse unsigned =>
    split
    case isTrue digit =>
      rw [result_next ih _ bs (by simp) (by simp [State.Proper])]
      simp [Missing, unsigned, digit]
    case isFalse notDigit => simp [Step.result, unsigned, notDigit]

theorem step_sign :
    (step c s ⟨.sign, bs⟩).result c s = .ok rest ↔ Completes rest ⟨.sign, bs⟩ (c :: s) := by
  simp only [step, Completes, Missing, someDigits_cons_iff]
  split
  case isTrue digit =>
    rw [result_next ih _ bs (by simp) (by simp [State.Proper])]
    simp [Missing, digit]
  case isFalse notDigit => simp [Step.result, notDigit]

section Number

variable (stops : Stops rest)

include stops

theorem step_zero :
    (step c s ⟨.zero, bs⟩).result c s = .ok rest ↔ Completes rest ⟨.zero, bs⟩ (c :: s) := by
  simp only [step, Completes, Missing, tail_cons_iff, exponent_cons_iff]
  have ends (closed : Closes rest bs (c :: s)) := closed.stops stops c s rfl
  split
  case isTrue digit =>
    have notMark : ¬ (c = 'e' ∨ c = 'E') ∧ c ≠ '.' := not_mark_of_isDigit digit
    simp only [Step.result, notMark]
    grind
  case isFalse notDigit =>
    split
    case isTrue point =>
      rw [result_next ih _ bs (by simp) (by simp [State.Proper])]
      simp only [Missing]
      grind
    case isFalse notPoint =>
      split
      case isTrue mark =>
        rw [result_next ih _ bs (by simp) (by simp [State.Proper])]
        simp only [Missing]
        grind
      case isFalse notMark =>
        rw [result_endNumber ih]
        grind

theorem step_digits :
    (step c s ⟨.digits, bs⟩).result c s = .ok rest ↔ Completes rest ⟨.digits, bs⟩ (c :: s) := by
  simp only [step, Completes, Missing, digits_cons_iff]
  have ends (closed : Closes rest bs (c :: s)) := closed.stops stops c s rfl
  split
  case isTrue digit =>
    have notMark := not_mark_of_isDigit digit
    rw [result_next ih _ bs (by simp) (by simp [State.Proper])]
    simp only [Missing]
    grind [tail_cons_iff, exponent_cons_iff]
  case isFalse notDigit =>
    split
    case isTrue point =>
      rw [result_next ih _ bs (by simp) (by simp [State.Proper])]
      simp only [Missing]
      grind [tail_cons_iff, exponent_cons_iff]
    case isFalse notPoint =>
      split
      case isTrue mark =>
        rw [result_next ih _ bs (by simp) (by simp [State.Proper])]
        simp only [Missing]
        grind [tail_cons_iff, exponent_cons_iff]
      case isFalse notMark =>
        rw [result_endNumber ih]
        grind [tail_cons_iff, exponent_cons_iff]

theorem step_fraction :
    (step c s ⟨.fraction, bs⟩).result c s = .ok rest ↔ Completes rest ⟨.fraction, bs⟩ (c :: s) := by
  simp only [step, Completes, Missing, digits_cons_iff]
  have ends (closed : Closes rest bs (c :: s)) := closed.stops stops c s rfl
  split
  case isTrue digit =>
    have notMark := not_mark_of_isDigit digit
    rw [result_next ih _ bs (by simp) (by simp [State.Proper])]
    simp only [Missing]
    grind [exponent_cons_iff]
  case isFalse notDigit =>
    split
    case isTrue mark =>
      rw [result_next ih _ bs (by simp) (by simp [State.Proper])]
      simp only [Missing]
      grind [exponent_cons_iff]
    case isFalse notMark =>
      rw [result_endNumber ih]
      grind [exponent_cons_iff]

theorem step_exponent :
    (step c s ⟨.exponent, bs⟩).result c s = .ok rest ↔ Completes rest ⟨.exponent, bs⟩ (c :: s) := by
  simp only [step, Completes, Missing, digits_cons_iff]
  have ends (closed : Closes rest bs (c :: s)) := closed.stops stops c s rfl
  split
  case isTrue digit =>
    rw [result_next ih _ bs (by simp) (by simp [State.Proper])]
    simp only [Missing]
    grind
  case isFalse notDigit =>
    rw [result_endNumber ih]
    grind

end Number

theorem step_iff (stops : Stops rest) {st : State} (proper : st.Proper) :
    (step c s st).result c s = .ok rest ↔ Completes rest st (c :: s) := by
  obtain ⟨phase, bs⟩ := st
  cases phase with
  | value => exact step_value ih
  | opened =>
    match bs with
    | [] => exact absurd rfl proper
    | .list :: bs => exact step_opened_list ih
    | .object :: bs => exact step_opened_object ih
  | after =>
    match bs with
    | [] => exact absurd rfl proper
    | b :: bs =>
      refine (result_follow ih).trans ?_
      simp [Completes, Missing]
  | key => exact step_key ih
  | colon => exact step_colon ih
  | text isKey => exact step_text ih isKey
  | escape isKey => exact step_escape ih isKey
  | unit isKey left => exact step_unit ih isKey proper
  | word left =>
    match left with
    | [] => exact absurd rfl proper
    | d :: left => exact step_word ih d left
  | minus => exact step_minus ih
  | zero => exact step_zero ih stops
  | digits => exact step_digits ih stops
  | point => exact step_point ih
  | fraction => exact step_fraction ih stops
  | mark => exact step_mark ih
  | sign => exact step_sign ih
  | exponent => exact step_exponent ih stops

end Step

theorem closes_nil_iff {rest : List Char} {bs : List Bracket} :
    Closes rest bs [] ↔ bs = [] ∧ rest = [] := by
  match bs with
  | [] => simp [Closes, eq_comm]
  | .list :: bs => simp [Closes, not_unwanted_nil]
  | .object :: bs => simp [Closes, not_unwanted_nil]

theorem finish_iff {rest : List Char} {st : State} (proper : st.Proper) :
    finish st = .ok rest ↔ Completes rest st [] := by
  obtain ⟨phase, bs⟩ := st
  have number (R : List Char → Prop) (ends : ∀ t, R t ↔ t = []) :
      ((if bs.isEmpty then .ok [] else .error .truncated) = (.ok rest : Except Fault (List Char))) ↔
        ∃ t, R t ∧ Closes rest bs t := by
    simp only [ends, exists_eq_left, closes_nil_iff]
    cases bs <;> simp [eq_comm]
  cases phase with
  | value => simp [finish, Completes, Missing, not_unwanted_nil]
  | opened =>
    cases bs with
    | nil => exact absurd rfl proper
    | cons b bs =>
      cases b <;> simp [finish, Completes, Bracket.opening, value_cons_iff, isSpace, not_magnitude,
        not_unwanted_nil, not_blanks_nil]
  | after =>
    cases bs with
    | nil => exact absurd rfl proper
    | cons b bs => simp [finish, Completes, Missing, closes_nil_iff]
  | key => simp [finish, Completes, Missing, not_unwanted_nil]
  | colon => simp [finish, Completes, Missing, not_afterKey_nil]
  | text isKey => simp [finish, Completes, Missing, not_looselyQuoted_nil]
  | escape isKey => simp [finish, Completes, Missing, not_looselyQuoted_escape]
  | unit isKey left =>
    cases left with
    | zero => exact absurd rfl (Nat.ne_of_gt proper)
    | succ left => simp [finish, Completes, Missing, not_hexDigits_nil]
  | word left =>
    cases left with
    | nil => exact absurd rfl proper
    | cons d left => simp [finish, Completes, Missing]
  | minus => simp [finish, Completes, Missing, not_magnitude_nil]
  | point => simp [finish, Completes, Missing, not_someDigits_nil]
  | mark => simp [finish, Completes, Missing, not_signedDigits_nil]
  | sign => simp [finish, Completes, Missing, not_someDigits_nil]
  | zero =>
    refine Iff.trans ?_ (number _ fun t => tail_nil_iff)
    simp [finish]
  | digits =>
    refine Iff.trans ?_ (number _ fun t => by simp [Missing, digits_nil_iff, tail_nil_iff])
    simp [finish]
  | fraction =>
    refine Iff.trans ?_ (number _ fun t => by simp [Missing, digits_nil_iff, exponent_nil_iff])
    simp [finish]
  | exponent =>
    refine Iff.trans ?_ (number _ fun t => digits_nil_iff)
    simp [finish]

theorem run_eq_ok_iff {rest : List Char} (stops : Stops rest) (s : List Char) {st : State}
    (proper : st.Proper) : run s st = .ok rest ↔ Completes rest st s := by
  induction s generalizing st with
  | nil => exact finish_iff proper
  | cons c s ih =>
    rw [run_cons]
    exact step_iff (fun st proper => ih proper) stops proper

end Skip

theorem skip_eq_ok_iff {s t : List Char} (stops : Stops t) :
    skip s = .ok t ↔ Unwanted .value s t := by
  have start : Skip.State.Proper ⟨.value, []⟩ := trivial
  refine (Skip.run_eq_ok_iff stops s start).trans ?_
  simp [Skip.Completes, Skip.Missing, Skip.Closes]

end Json
end Genesis
