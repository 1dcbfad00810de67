import Genesis.Proofs.Json.Numbers
import Genesis.Proofs.Json.Skipping
import Genesis.Proofs.Json.Strings

/-!
# Records are read by their grammar

A reader and a form go together if the reader accepts just the texts of the form, wherever no number
can go on (`Reads`). The readers of `true` and `false`, of natural numbers and of `null` do, and the
reader of a record does if those of its fields do (`reads_record`).
-/

namespace Genesis
namespace Json

/-- The texts of a form start with a visible character, which does not close a list. -/
structure Visible {α : Type} (form : Form α) : Prop where
  starts : ∀ {s x t}, form s x t → ∃ c u, s = c :: u ∧ isSpace c = false ∧ c ≠ ']'
  shrinks : ∀ {s x t}, form s x t → t.length < s.length

/-- A reader accepts the texts of a form, with blanks in front. -/
structure Reads {α : Type} (read : List Char → Except Fault (α × List Char)) (form : Form α) :
    Prop extends Visible form where
  iff : ∀ {s x t}, Stops t → (read s = .ok (x, t) ↔ Spaced form s x t)

theorem Blanks.length_le {s t : List Char} (h : Blanks s t) : t.length ≤ s.length := by
  induction h with
  | none => exact Nat.le_refl _
  | more _ _ ih => exact Nat.le_succ_of_le ih

section Value

variable {α : Type} {form : Form α} {s t : List Char} {x : α}

theorem Visible.spaced_iff (visible : Visible form) :
    Spaced form s x t ↔ form (skipSpace s) x t := by
  constructor
  · rintro ⟨u, blanks, h⟩
    obtain ⟨c, v, rfl, notSpace, -⟩ := visible.starts h
    rwa [(skipSpace_eq_cons_iff notSpace).2 blanks]
  · exact fun h => ⟨_, blanks_skipSpace s, h⟩

theorem Visible.spaced_length_lt (visible : Visible form) (h : Spaced form s x t) :
    t.length < s.length := by
  obtain ⟨u, blanks, h⟩ := h
  exact Nat.lt_of_lt_of_le (visible.shrinks h) blanks.length_le

theorem Visible.spaced_skipSpace_iff (visible : Visible form) :
    Spaced form (skipSpace s) x t ↔ Spaced form s x t := by
  rw [visible.spaced_iff, visible.spaced_iff, ← (blanks_skipSpace s).skipSpace_eq]

theorem expect_eq_ok_iff {w s t : List Char} : expect w s = .ok t ↔ s = w ++ t := by
  induction w generalizing s with
  | nil => simp [expect]
  | cons c w ih =>
    cases s with
    | nil => simp [expect]
    | cons d s =>
      by_cases same : c = d
      · simp [expect, same, ih]
      · simp [expect, same, Ne.symm same]

theorem boolean_eq_ok_iff {b : Bool} : boolean s = .ok (b, t) ↔ Boolean (skipSpace s) b t := by
  unfold boolean
  generalize skipSpace s = u
  split
  next u =>
    constructor
    · intro h
      obtain ⟨v, word, eq⟩ := map_eq_ok_iff.1 h
      obtain rfl := expect_eq_ok_iff.1 word
      cases eq
      exact .true
    · rintro ⟨⟩
      rfl
  next u =>
    constructor
    · intro h
      obtain ⟨v, word, eq⟩ := map_eq_ok_iff.1 h
      obtain rfl := expect_eq_ok_iff.1 word
      cases eq
      exact .false
    · rintro ⟨⟩
      rfl
  next notTrue notFalse =>
    refine iff_of_false (by simp) ?_
    rintro (_ | _)
    · exact notTrue _ rfl
    · exact notFalse _ rfl

theorem visible_boolean : Visible Boolean where
  starts := by
    rintro s x t (_ | _)
    · exact ⟨'t', _, rfl, rfl, by decide⟩
    · exact ⟨'f', _, rfl, rfl, by decide⟩
  shrinks := by
    rintro s x t (_ | _) <;> simp <;> omega

theorem reads_boolean : Reads boolean Boolean where
  toVisible := visible_boolean
  iff _ := by rw [visible_boolean.spaced_iff, boolean_eq_ok_iff]

theorem reads_word32 : Reads word32 Word32 where
  starts h := by
    obtain ⟨d, u, rfl, digit⟩ := Natural.exists_cons h
    refine ⟨d, u, rfl, isSpace_of_isDigit digit, ?_⟩
    rintro rfl
    exact absurd digit (by decide)
  shrinks := by
    rintro s x t ⟨digits, rfl, nonempty, -⟩
    have := List.length_pos_iff.2 nonempty
    simp
    omega
  iff := word32_eq_ok_iff

theorem Visible.nullable (visible : Visible form) : Visible (Nullable form) where
  starts := by
    rintro s x t (_ | h)
    · exact ⟨'n', _, rfl, rfl, by decide⟩
    · exact visible.starts h
  shrinks := by
    rintro s x t (_ | h)
    · simp
      omega
    · exact visible.shrinks h

theorem Reads.nullable {read : List Char → Except Fault (α × List Char)} (h : Reads read form)
    (notNull : ∀ {s x t}, ¬ form ('n' :: s) x t) : Reads (optional read) (Nullable form) where
  toVisible := h.toVisible.nullable
  iff {s x t} stops := by
    have value (y : α) : read (skipSpace s) = .ok (y, t) ↔ form (skipSpace s) y t := by
      rw [h.iff stops, h.toVisible.spaced_skipSpace_iff, h.toVisible.spaced_iff]
    rw [h.toVisible.nullable.spaced_iff, optional]
    generalize skipSpace s = u at value ⊢
    split
    next u =>
      constructor
      · intro h
        obtain ⟨v, word, eq⟩ := map_eq_ok_iff.1 h
        obtain rfl := expect_eq_ok_iff.1 word
        cases eq
        exact .null
      · rintro (_ | h)
        · rfl
        · exact absurd h notNull
    next other =>
      constructor
      · intro h
        obtain ⟨⟨y, v⟩, read, eq⟩ := map_eq_ok_iff.1 h
        cases eq
        exact .value ((value y).1 read)
      · rintro (_ | h)
        · exact absurd rfl (other _)
        · exact map_eq_ok_iff.2 ⟨_, (value _).2 h, rfl⟩

end Value

section Punctuation

variable {s t : List Char}

theorem colon_eq_ok_iff : colon s = .ok t ↔ Blanks s (':' :: t) := by
  rw [← skipSpace_eq_cons_iff rfl, colon]
  cases skipSpace s with
  | nil => simp
  | cons c u => by_cases colon : c = ':' <;> simp [colon]

theorem endItems_eq_ok_iff : endItems s = .ok t ↔ Blanks s (']' :: t) := by
  rw [← skipSpace_eq_cons_iff rfl, endItems]
  cases skipSpace s with
  | nil => simp
  | cons c u => by_cases close : c = ']' <;> simp [close]

theorem nextItem_eq_closed_iff {first : Bool} :
    nextItem first s = .ok (.closed t) ↔ Blanks s (']' :: t) := by
  rw [← skipSpace_eq_cons_iff rfl, nextItem]
  cases skipSpace s with
  | nil => simp
  | cons c u =>
    by_cases close : c = ']'
    · simp [close]
    · simp only [close, if_false]
      grind

theorem separator_true_iff : Separator true s t ↔ s = t := by
  constructor
  · rintro ⟨⟩
    rfl
  · rintro rfl
    exact .first

theorem separator_false_iff : Separator false s t ↔ skipSpace s = ',' :: t := by
  rw [skipSpace_eq_cons_iff rfl]
  constructor
  · rintro ⟨blanks⟩
    assumption
  · exact .comma

theorem nextItem_eq_item_iff {first : Bool} : nextItem first s = .ok (.item t) ↔
    ∃ u, Separator first s u ∧ skipSpace u = t ∧ ∃ c v, t = c :: v ∧ c ≠ ']' := by
  unfold nextItem
  cases first with
  | true =>
    simp only [separator_true_iff, exists_eq_left']
    cases skipSpace s with
    | nil => grind
    | cons c u => by_cases close : c = ']' <;> simp [close] <;> grind
  | false =>
    simp only [separator_false_iff]
    cases skipSpace s with
    | nil => grind
    | cons c u =>
      by_cases comma : c = ','
      · subst comma
        cases inner : skipSpace u with
        | nil => simp [inner]; grind
        | cons d v => by_cases close : d = ']' <;> simp [inner, close] <;> grind
      · grind

theorem keyAt_eq_key_iff {key : List Char} :
    keyAt s = .ok (.key key t) ↔ ∃ k, s = '"' :: k ∧ Quoted k key t := by
  unfold keyAt
  split
  · simp
  next c u =>
    by_cases quote : c = '"'
    · simp [quote, map_eq_ok_iff, ← read_eq_ok_iff]
    · simp [quote]

theorem keyAt_ne_closed : keyAt s ≠ .ok (.closed t) := by
  unfold keyAt
  split
  · simp
  · split <;> simp [map_eq_ok_iff]

theorem nextKey_eq_closed_iff {first : Bool} :
    nextKey first s = .ok (.closed t) ↔ Blanks s ('\x7d' :: t) := by
  rw [← skipSpace_eq_cons_iff rfl, nextKey]
  cases skipSpace s with
  | nil => simp
  | cons c u =>
    by_cases close : c = '\x7d'
    · simp [close]
    · simp only [close, if_false]
      grind [keyAt_ne_closed]

theorem nextKey_eq_key_iff {first : Bool} {key : List Char} :
    nextKey first s = .ok (.key key t) ↔
      ∃ u k, Separator first s u ∧ Blanks u ('"' :: k) ∧ Quoted k key t := by
  have quote {u k : List Char} : Blanks u ('"' :: k) ↔ skipSpace u = '"' :: k :=
    (skipSpace_eq_cons_iff rfl).symm
  unfold nextKey
  cases first with
  | true =>
    simp only [separator_true_iff, exists_and_left, exists_eq_left', quote]
    cases skipSpace s with
    | nil => simp
    | cons c u =>
      by_cases close : c = '\x7d'
      · simp [close]
      · simp [close, keyAt_eq_key_iff]
  | false =>
    simp only [separator_false_iff, quote]
    cases skipSpace s with
    | nil => simp
    | cons c u =>
      by_cases comma : c = ','
      · simp [comma, keyAt_eq_key_iff]
      · by_cases close : c = '\x7d' <;> simp [comma, close]

end Punctuation

section Fields

variable {ρ : Type}

/-- A field is read by a form of its changes. -/
structure Field.Reads (f : Field ρ) (g : FieldForm ρ) : Prop extends Visible g.form where
  name : f.name = g.name
  iff : ∀ {r s r' t}, Stops t →
    (f.read r s = .ok (r', t) ↔ ∃ change, Spaced g.form s change t ∧ r' = change r)

theorem Reads.field {α : Type} {read : List Char → Except Fault (α × List Char)} {form : Form α}
    (h : Reads read form) (name : String) (set : ρ → α → ρ) :
    (Field.of name read set).Reads (FieldForm.of name form set) where
  name := rfl
  starts := by
    rintro s change t ⟨x, value, -⟩
    exact h.starts value
  shrinks := by
    rintro s change t ⟨x, value, -⟩
    exact h.shrinks value
  iff {r s r' t} stops := by
    constructor
    · intro read
      obtain ⟨⟨x, u⟩, value, eq⟩ := map_eq_ok_iff.1 read
      cases eq
      obtain ⟨v, blanks, value⟩ := (h.iff stops).1 value
      exact ⟨_, ⟨v, blanks, x, value, rfl⟩, rfl⟩
    · rintro ⟨_, ⟨v, blanks, x, value, rfl⟩, rfl⟩
      exact map_eq_ok_iff.2 ⟨(x, t), (h.iff stops).2 ⟨v, blanks, value⟩, rfl⟩

theorem Separator.stops {s t : List Char} (h : Separator false s t) : Stops s := by
  cases h with | comma comma => exact comma.stops (stops_cons (by decide))

theorem stops_of_items {fields : List (FieldForm ρ)} {s t : List Char} {changes : List (ρ → ρ)}
    (h : Items false fields s changes t) : Stops s := by
  cases h with
  | close close => exact close.stops (stops_cons (by decide))
  | item comma => exact comma.stops

theorem stops_of_members {fields : List (FieldForm ρ)} {s t : List Char}
    {members : List (String × (ρ → ρ))} (h : Members fields false s members t) : Stops s := by
  cases h with
  | close close => exact close.stops (stops_cons (by decide))
  | known comma => exact comma.stops
  | unknown comma => exact comma.stops

theorem nextItem_of_item {α : Type} {form : Form α} (visible : Visible form) {first : Bool}
    {s u v : List Char} {x : α} (separator : Separator first s u) (item : Spaced form u x v) :
    nextItem first s = .ok (.item (skipSpace u)) := by
  obtain ⟨c, w, starts, -, notClose⟩ := visible.starts (visible.spaced_iff.1 item)
  exact nextItem_eq_item_iff.2 ⟨u, separator, rfl, c, w, starts, notClose⟩

abbrev Fields (ρ : Type) := List (Field ρ × FieldForm ρ)

theorem items_of_readItems {fields : Fields ρ} (fine : ∀ p ∈ fields, p.1.Reads p.2) {first : Bool}
    {r r' : ρ} {s t : List Char}
    (read : readItems first (fields.map Prod.fst) r s = .ok (r', t)) :
    ∃ changes, Items first (fields.map Prod.snd) s changes t ∧ r' = changed r changes := by
  induction fields generalizing first r s with
  | nil =>
    obtain ⟨u, close, eq⟩ := map_eq_ok_iff.1 read
    cases eq
    exact ⟨[], .close (endItems_eq_ok_iff.1 close), rfl⟩
  | cons p fields ih =>
    have field := fine p (by simp)
    simp only [List.map_cons, readItems] at read ⊢
    split at read
    · cases read
    next u next =>
      cases read
      exact ⟨[], .close (nextItem_eq_closed_iff.1 next), rfl⟩
    next u next =>
      obtain ⟨v, separator, rfl, -⟩ := nextItem_eq_item_iff.1 next
      split at read
      · cases read
      next r₁ w value =>
        obtain ⟨changes, more, rfl⟩ := ih (fun p mem => fine p (by simp [mem])) read
        obtain ⟨change, item, rfl⟩ := (field.iff (stops_of_items more)).1 value
        rw [field.toVisible.spaced_skipSpace_iff] at item
        exact ⟨change :: changes, .item separator item more, rfl⟩

theorem readItems_of_items {fields : Fields ρ} (fine : ∀ p ∈ fields, p.1.Reads p.2) {first : Bool}
    {s t : List Char} {changes : List (ρ → ρ)}
    (items : Items first (fields.map Prod.snd) s changes t) (r : ρ) :
    readItems first (fields.map Prod.fst) r s = .ok (changed r changes, t) := by
  induction fields generalizing first r s changes with
  | nil =>
    cases items with | close close =>
    simp [readItems, endItems_eq_ok_iff.2 close, Except.map, changed]
  | cons p fields ih =>
    have field := fine p (by simp)
    cases items with
    | close close => simp [readItems, nextItem_eq_closed_iff.2 close, changed]
    | @item _ _ _ _ u change v changes _ separator value more =>
      have next := nextItem_of_item field.toVisible separator value
      have read := (field.iff (r := r) (stops_of_items more)).2
        ⟨change, field.toVisible.spaced_skipSpace_iff.2 value, rfl⟩
      simp only [List.map_cons, readItems, next, read]
      exact ih (fun p mem => fine p (by simp [mem])) more (change r)

end Fields

end Json
end Genesis
