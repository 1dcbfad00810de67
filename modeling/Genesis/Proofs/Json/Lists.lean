import Genesis.Proofs.Json.Objects
import Genesis.Proofs.Json.Printing

/-!
# Lists are read by their grammar

A list of values of one form, of any length, is read by its grammar if the values are
(`reads_array`), and what the printer writes for one follows the grammar (`listOf_compactList`).
-/

namespace Genesis
namespace Json

variable {α : Type}

/-- The values of a list from `first` to its end. -/
inductive Values (form : Form α) : Bool → Form (List α)
  | close {first s t} : Blanks s (']' :: t) → Values form first s [] t
  | item {first s u x v xs t} : Separator first s u → Spaced form u x v → Values form false v xs t →
      Values form first s (x :: xs) t

inductive ListOf (form : Form α) : Form (Array α)
  | mk {s xs t} : Values form true s xs t → ListOf form ('[' :: s) xs.toArray t

section Reading

variable {form : Form α} {read : List Char → Except Fault (α × List Char)} {first : Bool}
  {s t : List Char} {xs : List α}

theorem stops_of_values (h : Values form false s xs t) : Stops s := by
  cases h with
  | close close => exact close.stops (stops_cons (by decide))
  | item comma => exact comma.stops

theorem Values.length_lt (visible : Visible form) (h : Values form first s xs t) :
    t.length < s.length := by
  induction h with
  | close close => exact close.length_le
  | item separator item _ ih =>
    have := separator.length_le
    have := visible.spaced_length_lt item
    omega

theorem push_append (items : Array α) (x : α) (xs : List α) :
    items.push x ++ xs.toArray = items ++ (x :: xs).toArray := by
  apply Array.ext'
  simp

theorem values_of_readArray (reads : Reads read form) {bound : Nat} {items all : Array α}
    (ok : readArray read bound first items s = .ok (all, t)) :
    ∃ xs, Values form first s xs t ∧ all = items ++ xs.toArray := by
  induction bound generalizing first items s with
  | zero => cases ok
  | succ bound ih =>
    rw [readArray] at ok
    split at ok
    · cases ok
    next u next =>
      cases ok
      exact ⟨[], .close (nextItem_eq_closed_iff.1 next), by simp⟩
    next u next =>
      obtain ⟨v, separator, rfl, -⟩ := nextItem_eq_item_iff.1 next
      split at ok
      · cases ok
      next x w value =>
        obtain ⟨xs, more, rfl⟩ := ih ok
        have item := (reads.iff (stops_of_values more)).1 value
        rw [reads.toVisible.spaced_skipSpace_iff] at item
        exact ⟨x :: xs, .item separator item more, push_append items x xs⟩

theorem readArray_of_values (reads : Reads read form) {bound : Nat} (enough : s.length < bound)
    (h : Values form first s xs t) (items : Array α) :
    readArray read bound first items s = .ok (items ++ xs.toArray, t) := by
  obtain ⟨more, rfl⟩ : ∃ n, bound = n + 1 := ⟨bound - 1, by omega⟩
  induction h generalizing more items with
  | close close => simp [readArray, nextItem_eq_closed_iff.2 close]
  | @item first s u x v xs t separator item rest ih =>
    have shorter : v.length < more := by
      have := separator.length_le
      have := reads.toVisible.spaced_length_lt item
      omega
    have next := nextItem_of_item reads.toVisible separator item
    have value := (reads.iff (stops_of_values rest)).2
      (reads.toVisible.spaced_skipSpace_iff.2 item)
    obtain ⟨more, rfl⟩ : ∃ n, more = n + 1 := ⟨more - 1, by omega⟩
    rw [readArray, next]
    simp only [value]
    rw [ih (items.push x) more shorter, push_append]

theorem Visible.listOf (visible : Visible form) : Visible (ListOf form) where
  starts := by
    rintro s x t ⟨-⟩
    exact ⟨'[', _, rfl, rfl, by decide⟩
  shrinks := by
    rintro s x t ⟨values⟩
    exact Nat.lt_succ_of_lt (values.length_lt visible)

theorem reads_array (reads : Reads read form) : Reads (array read) (ListOf form) where
  toVisible := reads.toVisible.listOf
  iff {s x t} _ := by
    rw [reads.toVisible.listOf.spaced_iff, array]
    generalize skipSpace s = u
    constructor
    · intro ok
      split at ok
      next c u =>
        split at ok
        next list =>
          subst list
          obtain ⟨xs, values, rfl⟩ := values_of_readArray reads ok
          simpa using ListOf.mk values
        next => cases ok
      next => cases ok
    · rintro ⟨values⟩
      simpa using readArray_of_values reads (Nat.lt_succ_self _) values #[]

end Reading

section Printing

variable {form : Form α} {print : α → List Char} (written : ∀ x t, form (print x ++ t) x t)

include written

theorem values_of_written_rest (xs : List α) (t : List Char) :
    Values form false ((xs.map print).flatMap ([','] ++ ·) ++ ']' :: t) xs t := by
  induction xs with
  | nil => exact .close .none
  | cons x xs ih =>
    refine .item (.comma ?_) ⟨_, .none, written x _⟩ ih
    simpa using Blanks.none

/-- What is printed for a list is a list of what is printed for its values. -/
theorem listOf_compactList (xs : Array α) (t : List Char) :
    ListOf form (compactList (xs.toList.map print) ++ t) xs t := by
  have values :
      Values form true (separated [','] (xs.toList.map print) ++ ']' :: t) xs.toList t := by
    cases xs.toList with
    | nil => exact .close .none
    | cons x xs =>
      rw [List.map_cons, separated_cons, List.append_assoc]
      exact .item .first ⟨_, .none, written x _⟩ (values_of_written_rest written xs t)
  simpa [compactList] using ListOf.mk values

end Printing

end Json
end Genesis
