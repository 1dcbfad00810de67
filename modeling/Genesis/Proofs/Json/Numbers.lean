import Genesis.Json.Reader
import Genesis.Proofs.Json.Inversion

/-!
# Natural numbers are read by their grammar

A number that goes on until none can stands for a natural number just if it is written with digits
alone; one of 32 bits is far from the range in which floating point matters.
-/

namespace Genesis
namespace Json

open Text (valueOf digitValue)

theorem bind_eq_ok_iff {ε α β : Type} {e : Except ε α} {f : α → Except ε β} {y : β} :
    e >>= f = .ok y ↔ ∃ x, e = .ok x ∧ f x = .ok y := by
  cases e <;> simp [bind, Except.bind]

namespace Number

section Range

theorem le_foldl_digits (digits : List Char) (n : Nat) :
    n ≤ digits.foldl (fun n c => 10 * n + digitValue c) n := by
  induction digits generalizing n with
  | nil => exact Nat.le_refl n
  | cons d digits ih =>
    have := ih (10 * n + digitValue d)
    rw [List.foldl_cons]
    omega

theorem gather_nil (n : Nat) : gather n [] = (n, 0) := rfl

theorem gather_cons_of_lt {d : Char} {n : Nat} (fits : 10 * n + digitValue d < Nat.pow 2 64)
    (digits : List Char) : gather n (d :: digits) = gather (10 * n + digitValue d) digits :=
  if_pos fits

/-- Nothing is dropped from a number that fits into 64 bits. -/
theorem gather_eq (digits : List Char) (n : Nat)
    (fits : digits.foldl (fun n c => 10 * n + digitValue c) n < Nat.pow 2 64) :
    gather n digits = (digits.foldl (fun n c => 10 * n + digitValue c) n, 0) := by
  induction digits generalizing n with
  | nil => rfl
  | cons d digits ih =>
    rw [List.foldl_cons] at fits
    have next : 10 * n + digitValue d < Nat.pow 2 64 :=
      Nat.lt_of_le_of_lt (le_foldl_digits digits _) fits
    rw [gather_cons_of_lt next, ih _ fits, List.foldl_cons]

theorem round53_of_lt {n : Nat} (small : n < Nat.pow 2 53) : round53 n = n := by
  have shift : n.log2 - 52 = 0 := by
    have : n.log2 < 53 := by
      by_cases zero : n = 0
      · subst zero
        decide
      · exact (Nat.log2_lt zero).2 small
    omega
  simp [round53, shift, Nat.mod_one]

theorem isFinite_of_lt {n : Nat} (small : n < Nat.pow 2 53) : isFinite n 0 = true := by
  have one : round53 (Nat.pow 10 (0 : Int).toNat) = 1 := round53_of_lt (by decide)
  have bound : Nat.pow 2 53 ≤ Nat.pow 2 1024 - Nat.pow 2 970 := by decide +kernel
  simp only [isFinite, round53_of_lt small, one, Nat.mul_one,
    decide_eq_true (Nat.lt_of_lt_of_le small bound)]
  simp

theorem natural?_eq_some_iff {p : Parts} {n : Nat} : p.natural? = some n ↔
    p.negative = false ∧ p.fraction = none ∧ p.exponent = none ∧ valueOf p.integer = n := by
  simp [Parts.natural?, and_assoc]

theorem inRange_of_natural {p : Parts} {n : Nat} (natural : p.natural? = some n)
    (small : n < UInt32.size) : p.inRange = true := by
  obtain ⟨negative, integer, fraction, exponent⟩ := p
  obtain ⟨-, rfl, rfl, rfl⟩ := natural?_eq_some_iff.1 natural
  have whole : gather 0 integer = (valueOf integer, 0) :=
    gather_eq integer 0 (Nat.lt_trans small (by decide))
  have finite := isFinite_of_lt (Nat.lt_trans small (by decide))
  simp only [Parts.inRange, whole, Option.getD_none, gather_nil]
  exact finite

end Range

section Parts

def NoDigit (s : List Char) : Prop := ∀ c t, s = c :: t → ¬ c.isDigit

theorem noDigit_dropWhile (s : List Char) : NoDigit (s.dropWhile Char.isDigit) := by
  induction s with
  | nil =>
    intro c t h
    cases h
  | cons d s ih =>
    by_cases digit : d.isDigit
    · simpa [digit] using ih
    · rintro c t h
      simp only [List.dropWhile_cons, digit] at h
      cases h
      exact digit

theorem span_digits {digits t : List Char} (all : ∀ d ∈ digits, d.isDigit) (ends : NoDigit t) :
    (digits ++ t).takeWhile Char.isDigit = digits ∧ (digits ++ t).dropWhile Char.isDigit = t := by
  induction digits with
  | nil =>
    cases t with
    | nil => exact ⟨rfl, rfl⟩
    | cons c t =>
      have notDigit := ends c t rfl
      simp [notDigit]
  | cons d digits ih =>
    have digit := all d (by simp)
    have rest := ih fun c mem => all c (by simp [mem])
    simp [digit, rest]

theorem someDigits_eq_ok_iff {s digits t : List Char} : someDigits s = .ok (digits, t) ↔
    s = digits ++ t ∧ digits ≠ [] ∧ (∀ d ∈ digits, d.isDigit) ∧ NoDigit t := by
  constructor
  · intro h
    cases s with
    | nil => cases h
    | cons c s =>
      by_cases digit : c.isDigit
      · rw [someDigits, if_pos digit] at h
        cases h
        refine ⟨List.takeWhile_append_dropWhile.symm, by simp [digit], ?_, noDigit_dropWhile _⟩
        exact fun d mem => List.all_eq_true.1 List.all_takeWhile d mem
      · rw [someDigits, if_neg digit] at h
        cases h
  · rintro ⟨rfl, some, all, ends⟩
    obtain ⟨d, digits, rfl⟩ := List.exists_cons_of_ne_nil some
    have span := span_digits all ends
    rw [List.cons_append] at span ⊢
    rw [someDigits, if_pos (all d (by simp)), span.1, span.2]

theorem integer_eq_ok_iff {s digits t : List Char} : integer s = .ok (digits, t) ↔
    s = digits ++ t ∧ digits ≠ [] ∧ (∀ d ∈ digits, d.isDigit) ∧ NoDigit t ∧
      (digits.head? = some '0' → digits = ['0']) := by
  fun_cases integer s with
  | case1 c s digit =>
    refine iff_of_false (by simp) ?_
    rintro ⟨split, nonempty, -, ends, zero⟩
    obtain ⟨d, digits, rfl⟩ := List.exists_cons_of_ne_nil nonempty
    obtain ⟨rfl, rest⟩ := List.cons.inj split
    obtain rfl : digits = [] := (List.cons.inj (zero rfl)).2
    exact ends c s rest.symm digit
  | case2 c s notDigit =>
    constructor
    · rintro ⟨⟩
      refine ⟨rfl, by simp, by simp, ?_, fun _ => rfl⟩
      rintro d u ⟨⟩
      exact notDigit
    · rintro ⟨split, nonempty, -, ends, zero⟩
      obtain ⟨d, digits, rfl⟩ := List.exists_cons_of_ne_nil nonempty
      obtain ⟨rfl, rest⟩ := List.cons.inj split
      obtain rfl : digits = [] := (List.cons.inj (zero rfl)).2
      rw [rest]
      rfl
  | case3 s single =>
    rw [someDigits_eq_ok_iff]
    refine ⟨fun ⟨split, nonempty, all, ends⟩ => ⟨split, nonempty, all, ends, fun zero => ?_⟩,
      fun ⟨split, nonempty, all, ends, _⟩ => ⟨split, nonempty, all, ends⟩⟩
    obtain ⟨d, digits, rfl⟩ := List.exists_cons_of_ne_nil nonempty
    obtain rfl : d = '0' := Option.some.inj zero
    cases digits with
    | nil => rfl
    | cons e digits => exact absurd split (single e (digits ++ t))

theorem fraction_eq_none_iff {s t : List Char} :
    fraction s = .ok (none, t) ↔ s = t ∧ ∀ u, s ≠ '.' :: u := by
  fun_cases fraction s with
  | case1 s =>
    refine iff_of_false ?_ fun h => h.2 s rfl
    cases someDigits s <;> simp [bind, Except.bind, pure, Except.pure]
  | case2 s other => simpa using fun _ => other

theorem exponent_eq_none_iff {s t : List Char} :
    exponent s = .ok (none, t) ↔ s = t ∧ ∀ c u, s = c :: u → ¬ (c = 'e' ∨ c = 'E') := by
  cases s with
  | nil => simp [exponent]
  | cons c s =>
    by_cases mark : c = 'e' ∨ c = 'E'
    · refine iff_of_false ?_ fun h => h.2 c s rfl mark
      simp only [exponent, mark, if_true, bind, Except.bind, pure, Except.pure]
      grind
    · simp only [exponent, mark, if_false]
      constructor
      · rintro ⟨⟩
        refine ⟨rfl, ?_⟩
        rintro d u ⟨⟩
        exact mark
      · rintro ⟨rfl, -⟩
        rfl

theorem parts_of_unsigned {s : List Char} (unsigned : ∀ u, s ≠ '-' :: u) :
    parts s = (do
      let (integer, s) ← integer s
      let (fraction, s) ← fraction s
      let (exponent, s) ← exponent s
      return ({ negative := false, integer, fraction, exponent }, s)) := by
  unfold parts
  split
  next negative u sign =>
    split at sign
    · exact absurd rfl (unsigned _)
    · cases sign
      rfl

theorem natural_of_parts {s t : List Char} {p : Parts} {n : Nat} (read : parts s = .ok (p, t))
    (natural : p.natural? = some n) : Natural s n t := by
  obtain ⟨unsigned, whole, unscaled, value⟩ := natural?_eq_some_iff.1 natural
  by_cases sign : ∃ u, s = '-' :: u
  · obtain ⟨u, rfl⟩ := sign
    obtain ⟨⟨i, v⟩, -, read⟩ := bind_eq_ok_iff.1 read
    obtain ⟨⟨f, w⟩, -, read⟩ := bind_eq_ok_iff.1 read
    obtain ⟨⟨e, x⟩, -, read⟩ := bind_eq_ok_iff.1 read
    cases read
    cases unsigned
  · rw [parts_of_unsigned fun u eq => sign ⟨u, eq⟩] at read
    obtain ⟨⟨i, v⟩, integer, read⟩ := bind_eq_ok_iff.1 read
    obtain ⟨⟨f, w⟩, fraction, read⟩ := bind_eq_ok_iff.1 read
    obtain ⟨⟨e, x⟩, exponent, read⟩ := bind_eq_ok_iff.1 read
    cases read
    cases whole
    cases unscaled
    obtain ⟨split, nonempty, all, -, zero⟩ := integer_eq_ok_iff.1 integer
    obtain ⟨rfl, -⟩ := fraction_eq_none_iff.1 fraction
    obtain ⟨rfl, -⟩ := exponent_eq_none_iff.1 exponent
    exact ⟨i, split, nonempty, all, zero, value⟩

theorem parts_of_natural {s t : List Char} {n : Nat} (h : Natural s n t) (stops : Stops t) :
    ∃ p, parts s = .ok (p, t) ∧ p.natural? = some n := by
  obtain ⟨digits, rfl, nonempty, all, zero, value⟩ := h
  have unsigned (u : List Char) : digits ++ t ≠ '-' :: u := by
    obtain ⟨d, digits, rfl⟩ := List.exists_cons_of_ne_nil nonempty
    intro eq
    obtain ⟨rfl, -⟩ := List.cons.inj eq
    exact absurd (all '-' (by simp)) (by decide)
  have ends : NoDigit t := fun c u eq => (stops c u eq).1
  have integer := integer_eq_ok_iff.2 ⟨rfl, nonempty, all, ends, zero⟩
  have fraction : fraction t = .ok (none, t) :=
    fraction_eq_none_iff.2 ⟨rfl, fun u eq => (stops '.' u eq).2.1 rfl⟩
  have exponent : exponent t = .ok (none, t) :=
    exponent_eq_none_iff.2
      ⟨rfl, fun c u eq mark => mark.elim (stops c u eq).2.2.1 (stops c u eq).2.2.2⟩
  refine ⟨{ negative := false, integer := digits, fraction := none, exponent := none }, ?_, ?_⟩
  · rw [parts_of_unsigned unsigned]
    simp [integer, fraction, exponent, bind, Except.bind, pure, Except.pure]
  · exact natural?_eq_some_iff.2 ⟨rfl, rfl, rfl, value⟩

end Parts

end Number

theorem natural_of_number {s t : List Char} {n : Nat} (h : number s = .ok (some n, t)) :
    Natural s n t := by
  obtain ⟨⟨p, u⟩, read, h⟩ := bind_eq_ok_iff.1 h
  by_cases range : p.inRange
  · simp only [range, if_true, pure, Except.pure, Except.ok.injEq, Prod.mk.injEq] at h
    obtain ⟨natural, rfl⟩ := h
    exact Number.natural_of_parts read natural
  · simp [range] at h

theorem number_of_natural {s t : List Char} {n : Nat} (h : Natural s n t)
    (small : n < UInt32.size) (stops : Stops t) : number s = .ok (some n, t) := by
  obtain ⟨p, read, natural⟩ := Number.parts_of_natural h stops
  have range := Number.inRange_of_natural natural small
  simp [number, read, range, natural, bind, Except.bind, pure, Except.pure]

theorem Natural.exists_cons {s t : List Char} {n : Nat} (h : Natural s n t) :
    ∃ d u, s = d :: u ∧ d.isDigit := by
  obtain ⟨digits, rfl, nonempty, all, -, -⟩ := h
  obtain ⟨d, digits, rfl⟩ := List.exists_cons_of_ne_nil nonempty
  exact ⟨d, digits ++ t, rfl, all d (by simp)⟩

theorem word32_eq_ok_iff {s t : List Char} {x : UInt32} (stops : Stops t) :
    word32 s = .ok (x, t) ↔ Spaced Word32 s x t := by
  constructor
  · intro h
    refine ⟨skipSpace s, blanks_skipSpace s, ?_⟩
    unfold word32 at h
    split at h
    next c u first =>
      by_cases start : c = '-' ∨ c.isDigit
      · rw [if_pos start] at h
        split at h
        · cases h
        next n v read =>
          by_cases small : n < UInt32.size
          · rw [if_pos small] at h
            cases h
            rw [first, Word32, UInt32.toNat_ofNat_of_lt' small]
            exact natural_of_number read
          · rw [if_neg small] at h
            cases h
        · cases h
      · rw [if_neg start] at h
        cases h
    · cases h
  · rintro ⟨u, blanks, natural⟩
    obtain ⟨d, v, rfl, digit⟩ := natural.exists_cons
    have first : skipSpace s = d :: v := (skipSpace_eq_cons_iff (isSpace_of_isDigit digit)).2 blanks
    have read := number_of_natural natural x.toNat_lt stops
    simpa [word32, first, digit, read] using x.toNat_lt

end Json
end Genesis
