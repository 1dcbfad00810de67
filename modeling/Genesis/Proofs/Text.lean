import Mathlib
import Genesis.Text.Blank

/-!
# Texts taken apart

What cutting a text at separators, trimming it and reading it without regard to case lead to, said
without the functions that do it.
-/

namespace Genesis
namespace Text

inductive Pieces (separator : Char) : List Char → List (List Char) → Prop
  | last {s} : separator ∉ s → Pieces separator s [s]
  | more {p s ps} : separator ∉ p → Pieces separator s ps →
      Pieces separator (p ++ separator :: s) (p :: ps)

/-- A text and what is left of it without the blanks at its ends. -/
structure Trimmed (s t : List Char) : Prop where
  inside : ∃ before after, s = before ++ t ++ after ∧
    (∀ c ∈ before, isBlank c) ∧ ∀ c ∈ after, isBlank c
  first : ∀ c ∈ t.head?, ¬ isBlank c
  last : ∀ c ∈ t.getLast?, ¬ isBlank c

/-- A word in any mixture of cases. -/
def Spells (text word : List Char) : Prop :=
  List.Forall₂ (fun c d => c = d ∨ c = d.toUpper) text word

section Pieces

variable {separator : Char} {s p : List Char} {ps : List (List Char)}

theorem pieces_of_not_mem (free : separator ∉ s) : pieces separator s = [s] := by
  induction s with
  | nil => rfl
  | cons c s ih =>
    obtain ⟨other, free⟩ := List.ne_and_not_mem_of_not_mem_cons free
    rw [pieces, if_neg (Ne.symm other), ih free]

theorem pieces_append (free : separator ∉ p) :
    pieces separator (p ++ separator :: s) = p :: pieces separator s := by
  induction p with
  | nil => simp [pieces]
  | cons c p ih =>
    obtain ⟨other, free⟩ := List.ne_and_not_mem_of_not_mem_cons free
    rw [List.cons_append, pieces, if_neg (Ne.symm other), ih free]

theorem Pieces.cons {c : Char} (other : c ≠ separator) (h : Pieces separator s (p :: ps)) :
    Pieces separator (c :: s) ((c :: p) :: ps) := by
  cases h with
  | last free => exact .last (by simp [Ne.symm other, free])
  | more free rest => exact .more (p := c :: p) (by simp [Ne.symm other, free]) rest

theorem pieces_spec (separator : Char) (s : List Char) :
    Pieces separator s (pieces separator s) := by
  induction s with
  | nil => exact .last (by simp)
  | cons c s ih =>
    rw [pieces]
    split
    next same =>
      subst same
      exact .more (p := []) (by simp) ih
    next other =>
      split
      next none => exact absurd none (pieces_ne_nil separator s)
      next p ps found =>
        rw [found] at ih
        exact ih.cons other

theorem pieces_eq_iff : pieces separator s = ps ↔ Pieces separator s ps := by
  constructor
  · rintro rfl
    exact pieces_spec separator s
  · intro h
    induction h with
    | last free => exact pieces_of_not_mem free
    | more free _ ih => rw [pieces_append free, ih]

theorem cut_eq_some_iff {before after : List Char} : cut separator s = some (before, after) ↔
    s = before ++ separator :: after ∧ separator ∉ before := by
  refine ⟨cut_eq_some, ?_⟩
  rintro ⟨rfl, free⟩
  induction before with
  | nil => simp [cut]
  | cons c before ih =>
    obtain ⟨other, free⟩ := List.ne_and_not_mem_of_not_mem_cons free
    rw [List.cons_append, cut, if_neg (Ne.symm other), ih free]
    rfl

theorem cut_eq_none_iff : cut separator s = none ↔ separator ∉ s := by
  constructor
  · intro uncut mem
    obtain ⟨before, after, rfl, free⟩ := List.eq_append_cons_of_mem mem
    rw [cut_eq_some_iff.2 ⟨rfl, free⟩] at uncut
    cases uncut
  · intro free
    refine Option.eq_none_iff_forall_ne_some.2 fun p found => free ?_
    rw [(cut_eq_some_iff.1 found).1]
    simp

end Pieces

section Trimmed

variable {s t : List Char}

theorem not_isBlank_of_mem_head? (s : List Char) {c : Char}
    (mem : c ∈ (s.dropWhile isBlank).head?) : ¬ isBlank c := by
  have first := List.head?_dropWhile_not isBlank s
  rw [Option.mem_def.1 mem] at first
  simpa using first

theorem dropWhile_eq_of_head? (first : ∀ c ∈ t.head?, ¬ isBlank c) : t.dropWhile isBlank = t := by
  cases t with
  | nil => rfl
  | cons c t => exact List.dropWhile_cons_of_neg (first c rfl)

theorem trim_append (s : List Char) :
    trim s ++ ((s.dropWhile isBlank).reverse.takeWhile isBlank).reverse = s.dropWhile isBlank := by
  rw [trim, ← List.reverse_append, List.takeWhile_append_dropWhile, List.reverse_reverse]

theorem isBlank_of_mem_takeWhile {c : Char} (mem : c ∈ s.takeWhile isBlank) : isBlank c :=
  List.all_eq_true.1 List.all_takeWhile c mem

theorem trimmed_trim (s : List Char) : Trimmed s (trim s) where
  inside := by
    refine ⟨s.takeWhile isBlank, ((s.dropWhile isBlank).reverse.takeWhile isBlank).reverse, ?_,
      fun c mem => isBlank_of_mem_takeWhile mem,
      fun c mem => isBlank_of_mem_takeWhile (List.mem_reverse.1 mem)⟩
    rw [List.append_assoc, trim_append, List.takeWhile_append_dropWhile]
  first c mem := by
    refine not_isBlank_of_mem_head? s ?_
    rw [← trim_append s, List.head?_append, Option.mem_def.1 mem]
    rfl
  last c mem := by
    rw [trim, List.getLast?_reverse] at mem
    exact not_isBlank_of_mem_head? _ mem

theorem trim_eq_iff : trim s = t ↔ Trimmed s t := by
  constructor
  · rintro rfl
    exact trimmed_trim s
  · rintro ⟨⟨before, after, rfl, blankBefore, blankAfter⟩, first, last⟩
    have back : t.reverse.dropWhile isBlank = t.reverse :=
      dropWhile_eq_of_head? (by rwa [List.head?_reverse])
    have front : (t ++ after).dropWhile isBlank = t ++ after ∨ t = [] := by
      cases t with
      | nil => exact .inr rfl
      | cons c t => exact .inl (dropWhile_eq_of_head? first)
    rw [trim, List.append_assoc, List.dropWhile_append_of_pos blankBefore]
    -- if nothing is left, the blanks behind are dropped from the front
    rcases front with front | rfl
    · rw [front, List.reverse_append,
        List.dropWhile_append_of_pos fun c mem => blankAfter c (List.mem_reverse.1 mem), back,
        List.reverse_reverse]
    · rw [List.nil_append, List.dropWhile_eq_nil_iff.2 blankAfter]
      rfl

end Trimmed

section Spells

theorem toLower_eq_iff {c d : Char} (small : d.toLower = d) :
    c.toLower = d ↔ c = d ∨ c = d.toUpper := by
  constructor
  · rintro rfl
    by_cases capital : c.isUpper
    · right
      rw [Char.toUpper_toLower_eq_toUpper,
        Char.toUpper_eq_of_not_isLower (Char.not_isLower_of_isUpper capital)]
    · exact .inl (Char.toLower_eq_of_not_isUpper capital).symm
  · rintro (rfl | rfl)
    · exact small
    · rw [Char.toLower_toUpper_eq_toLower, small]

theorem lower_eq_iff {text word : List Char} (small : lower word = word) :
    lower text = word ↔ Spells text word := by
  induction text generalizing word with
  | nil => cases word <;> simp [lower, Spells]
  | cons c text ih =>
    cases word with
    | nil => simp [lower, Spells]
    | cons d word =>
      simp only [lower, List.map_cons, List.cons.injEq] at small
      have rest := ih small.2
      simp only [lower, Spells, List.map_cons, List.cons.injEq, List.forall₂_cons,
        toLower_eq_iff small.1] at rest ⊢
      rw [rest]

end Spells

end Text
end Genesis
