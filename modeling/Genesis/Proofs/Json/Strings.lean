import Genesis.Json.Reader
import Genesis.Proofs.Json.Grammar

/-!
# Strings are read by their grammar
-/

namespace Genesis
namespace Json

theorem map_eq_ok_iff {ε α β : Type} {f : α → β} {e : Except ε α} {y : β} :
    e.map f = .ok y ↔ ∃ x, e = .ok x ∧ f x = y := by
  cases e <;> simp [Except.map]

theorem Escaped.isPlain_iff (c : Char) :
    isPlain c ↔ c ≠ '"' ∧ c ≠ '\\' ∧ 0x20 ≤ c.toNat := by
  simp [isPlain, and_assoc]

theorem Escaped.read_plain {c : Char} (plain : isPlain c) (s : List Char) :
    read (c :: s) = (read s).map fun r => (c :: r.1, r.2) := by
  obtain ⟨notQuote, notEscape, visible⟩ := (isPlain_iff c).1 plain
  rw [read, if_neg (Nat.not_lt.2 visible)]
  all_goals simp [notQuote, notEscape]

theorem Escaped.read_letter {c d : Char} (found : letter? c = some d) (s : List Char) :
    read ('\\' :: c :: s) = (read s).map fun r => (d :: r.1, r.2) := by
  have notUnit : c ≠ 'u' := by
    rintro rfl
    cases found
  rw [read, if_neg notUnit, found]
  simp [notUnit]

theorem read_of_quoted {s x t : List Char} (h : Quoted s x t) : Escaped.read s = .ok (x, t) := by
  induction h with
  | close => rfl
  | plain ok _ ih => rw [Escaped.read_plain ok, ih, Except.map]
  | letter found _ ih => rw [Escaped.read_letter found, ih, Except.map]
  | unit found notLeading notTrailing _ ih =>
    simp [Escaped.read, found, notLeading, notTrailing, ih, Except.map]
  | @pair a b c d n e f g h m s x t first leading second trailing _ ih =>
    have notTrailing : Escaped.isTrailing n = false := by
      simp only [Escaped.isLeading, Escaped.isTrailing, Bool.and_eq_true, Bool.and_eq_false_iff,
        decide_eq_true_eq, decide_eq_false_iff_not] at leading ⊢
      omega
    simp [Escaped.read, first, leading, notTrailing, second, trailing, ih, Except.map]

theorem quoted_of_read {s x t : List Char} (h : Escaped.read s = .ok (x, t)) : Quoted s x t := by
  fun_induction Escaped.read s generalizing x t with
  | case3 s =>
    cases h
    exact .close
  | case7 a b c d n first notTrailing leading e f g h' s m second trailing ih =>
    obtain ⟨⟨y, u⟩, read, eq⟩ := map_eq_ok_iff.1 h
    cases eq
    exact .pair first leading second trailing (ih read)
  | case10 a b c d s n found notTrailing notLeading ih =>
    obtain ⟨⟨y, u⟩, read, eq⟩ := map_eq_ok_iff.1 h
    cases eq
    exact .unit found notLeading notTrailing (ih read)
  | case12 c s _ _ d found ih =>
    obtain ⟨⟨y, u⟩, read, eq⟩ := map_eq_ok_iff.1 h
    cases eq
    exact .letter found (ih read)
  | case15 c s notLast notQuote _ notEscape visible ih =>
    obtain ⟨⟨y, u⟩, read, eq⟩ := map_eq_ok_iff.1 h
    cases eq
    refine .plain ((Escaped.isPlain_iff c).2 ⟨notQuote, ?_, by omega⟩) (ih read)
    intro escape
    cases s with
    | nil => exact notLast escape rfl
    | cons d s => exact notEscape d s escape rfl
  | _ => cases h

theorem read_eq_ok_iff {s x t : List Char} : Escaped.read s = .ok (x, t) ↔ Quoted s x t :=
  ⟨quoted_of_read, read_of_quoted⟩

end Json
end Genesis
