import Genesis.Proofs.Json.Records

/-!
# Objects are read by their grammar

The members of an object come in any order, and their number is bounded by the length of the text.
With them a record is read by its grammar (`reads_record`), and so is a document that holds one
(`document_eq_ok_iff`).
-/

namespace Genesis
namespace Json

section Length

variable {s t key : List Char}

theorem Quoted.length_lt (h : Quoted s key t) : t.length < s.length := by
  induction h <;> simp only [List.length_cons] at * <;> omega

theorem Separator.length_le {first : Bool} (h : Separator first s t) : t.length ≤ s.length := by
  cases h with
  | first => exact Nat.le_refl _
  | comma comma => exact Nat.le_of_succ_le comma.length_le

theorem Key.length_lt (h : Key s key t) : t.length < s.length := by
  obtain ⟨k, l, quote, quoted, colon⟩ := h
  have := quote.length_le
  have := quoted.length_lt
  have := colon.length_le
  simp only [List.length_cons] at *
  omega

theorem Skip.run_length_le {st : Skip.State} (h : Skip.run s st = .ok t) :
    t.length ≤ s.length := by
  induction s generalizing st with
  | nil =>
    unfold Skip.run Skip.finish at h
    split at h
    any_goals cases h
    all_goals
      split at h
      · cases h
        exact Nat.le_refl _
      · cases h
  | cons c s ih =>
    rw [Skip.run_cons] at h
    cases result : Skip.step c s st with
    | next st' => exact Nat.le_succ_of_le (ih (by rwa [result] at h))
    | last =>
      rw [result] at h
      cases h
      exact Nat.le_succ _
    | past =>
      rw [result] at h
      cases h
      exact Nat.le_refl _
    | fault f =>
      rw [result] at h
      cases h

theorem Unwanted.length_le (stops : Stops t) (h : Unwanted .value s t) : t.length ≤ s.length :=
  Skip.run_length_le ((skip_eq_ok_iff stops).2 h)

end Length

variable {ρ : Type} {pairs : Fields ρ}

/-- No name is among those seen before, and none comes twice. -/
def Fresh (seen : List String) (members : List (String × (ρ → ρ))) : Prop :=
  (members.map Prod.fst).Nodup ∧ ∀ m ∈ members, m.1 ∉ seen

theorem fresh_nil (seen : List String) : Fresh (ρ := ρ) seen [] := ⟨List.nodup_nil, by simp⟩

theorem fresh_iff_nodup {members : List (String × (ρ → ρ))} :
    Fresh [] members ↔ (members.map Prod.fst).Nodup := by
  simp [Fresh]

theorem fresh_cons_iff {seen : List String} {name : String} {change : ρ → ρ}
    {members : List (String × (ρ → ρ))} :
    Fresh seen ((name, change) :: members) ↔ name ∉ seen ∧ Fresh (name :: seen) members := by
  have others : name ∉ members.map Prod.fst ↔ ∀ m ∈ members, m.1 ≠ name := by
    rw [List.mem_map]
    exact ⟨fun h m mem same => h ⟨m, mem, same⟩, fun h ⟨m, mem, same⟩ => h m mem same⟩
  rw [Fresh, Fresh, List.map_cons, List.nodup_cons, List.forall_mem_cons, others]
  simp only [List.mem_cons, not_or]
  constructor
  · rintro ⟨⟨other, once⟩, unseen, rest⟩
    exact ⟨unseen, once, fun m mem => ⟨other m mem, rest m mem⟩⟩
  · rintro ⟨unseen, once, rest⟩
    exact ⟨⟨fun m mem => (rest m mem).1, once⟩, unseen, fun m mem => (rest m mem).2⟩

/-- The field that a key names. -/
def fieldOf (fields : List (Field ρ)) (key : List Char) : Option (Field ρ) :=
  fields.find? fun f => f.name.toList == key

theorem fieldOf_name {fields : List (Field ρ)} (distinct : (fields.map Field.name).Nodup)
    {f : Field ρ} (mem : f ∈ fields) : fieldOf fields f.name.toList = some f := by
  unfold fieldOf
  induction fields with
  | nil => cases mem
  | cons g fields ih =>
    rw [List.map_cons, List.nodup_cons] at distinct
    rcases List.mem_cons.1 mem with rfl | mem
    · simp
    · have other : g.name.toList ≠ f.name.toList := fun same =>
        distinct.1 (String.toList_inj.1 same ▸ List.mem_map_of_mem mem)
      rw [List.find?_cons_of_neg (by simpa using other), ih distinct.2 mem]

theorem fieldOf_eq_some {fields : List (Field ρ)} {key : List Char} {f : Field ρ}
    (found : fieldOf fields key = some f) : f ∈ fields ∧ f.name.toList = key :=
  ⟨List.mem_of_find?_eq_some found, by simpa using List.find?_some found⟩

theorem fieldOf_eq_none_iff {fields : List (Field ρ)} {key : List Char} :
    fieldOf fields key = none ↔ ∀ f ∈ fields, f.name.toList ≠ key := by
  simp [fieldOf]

/-- The first thing that is read in an object is its end, a field that has not been given, or a
value for a key that names no field. -/
theorem readMembers_succ_eq_ok_iff {fields : List (Field ρ)} {bound : Nat} {first : Bool}
    {seen : List String} {r r' : ρ} {s t : List Char} :
    readMembers fields (bound + 1) first seen r s = .ok (r', t) ↔
      (Blanks s ('\x7d' :: t) ∧ r = r') ∨
      ∃ u key v, Separator first s u ∧ Key u key v ∧
        ((∃ f x w, fieldOf fields key = some f ∧ f.name ∉ seen ∧ f.read r v = .ok (x, w) ∧
            readMembers fields bound false (f.name :: seen) x w = .ok (r', t)) ∨
          (∃ w, fieldOf fields key = none ∧ skip v = .ok w ∧
            readMembers fields bound false seen r w = .ok (r', t))) := by
  rw [readMembers]
  constructor
  · intro read
    split at read
    · cases read
    next u next =>
      cases read
      exact .inl ⟨nextKey_eq_closed_iff.1 next, rfl⟩
    next key l next =>
      obtain ⟨u, k, separator, quote, quoted⟩ := nextKey_eq_key_iff.1 next
      split at read
      next f found =>
        split at read
        · cases read
        next unseen =>
          split at read
          · cases read
          next v colon =>
            split at read
            · cases read
            next x w value =>
              exact .inr ⟨u, key, v, separator, ⟨k, l, quote, quoted, colon_eq_ok_iff.1 colon⟩,
                .inl ⟨f, x, w, found, by simpa using unseen, value, read⟩⟩
      next unfound =>
        split at read
        · cases read
        next v colon =>
          split at read
          · cases read
          next w value =>
            exact .inr ⟨u, key, v, separator, ⟨k, l, quote, quoted, colon_eq_ok_iff.1 colon⟩,
              .inr ⟨w, unfound, value, read⟩⟩
  · rintro (⟨close, rfl⟩ | ⟨u, key, v, separator, ⟨k, l, quote, quoted, colon⟩, member⟩)
    · rw [nextKey_eq_closed_iff.2 close]
    · rw [nextKey_eq_key_iff.2 ⟨u, k, separator, quote, quoted⟩]
      rcases member with ⟨f, x, w, found, unseen, value, read⟩ | ⟨w, unfound, value, read⟩
      · rw [fieldOf] at found
        simp [found, unseen, colon_eq_ok_iff.2 colon, value, read]
      · rw [fieldOf] at unfound
        simp only [unfound, colon_eq_ok_iff.2 colon, value, read]

theorem fieldOf_pairs_eq_none_iff (fine : ∀ p ∈ pairs, p.1.Reads p.2) {key : List Char} :
    fieldOf (pairs.map Prod.fst) key = none ↔
      ∀ g ∈ pairs.map Prod.snd, g.name.toList ≠ key := by
  rw [fieldOf_eq_none_iff, List.forall_mem_map, List.forall_mem_map]
  exact forall₂_congr fun p mem => by rw [(fine p mem).name]

theorem members_of_readMembers (fine : ∀ p ∈ pairs, p.1.Reads p.2) {bound : Nat} {first : Bool}
    {seen : List String} {r r' : ρ} {s t : List Char}
    (read : readMembers (pairs.map Prod.fst) bound first seen r s = .ok (r', t)) :
    ∃ members, Members (pairs.map Prod.snd) first s members t ∧ Fresh seen members ∧
      r' = changed r (members.map Prod.snd) := by
  induction bound generalizing first seen r s with
  | zero => cases read
  | succ bound ih =>
    rcases readMembers_succ_eq_ok_iff.1 read with ⟨close, rfl⟩ |
      ⟨u, key, v, separator, named, ⟨f, x, w, found, unseen, value, read⟩ |
        ⟨w, unfound, value, read⟩⟩
    · exact ⟨[], .close close, fresh_nil seen, rfl⟩
    · obtain ⟨members, more, fresh, rfl⟩ := ih read
      obtain ⟨listed, rfl⟩ := fieldOf_eq_some found
      obtain ⟨p, mem, rfl⟩ := List.mem_map.1 listed
      have field := fine p mem
      obtain ⟨change, item, rfl⟩ := (field.iff (stops_of_members more)).1 value
      rw [field.name] at named unseen fresh
      exact ⟨(p.2.name, change) :: members,
        .known separator (List.mem_map_of_mem mem) named item more,
        fresh_cons_iff.2 ⟨unseen, fresh⟩, rfl⟩
    · obtain ⟨members, more, fresh, rfl⟩ := ih read
      have unwanted := (skip_eq_ok_iff (stops_of_members more)).1 value
      have unknown := (fieldOf_pairs_eq_none_iff fine).1 unfound
      exact ⟨members, .unknown separator named unknown unwanted more, fresh, rfl⟩

theorem readMembers_of_members (fine : ∀ p ∈ pairs, p.1.Reads p.2)
    (distinct : ((pairs.map Prod.fst).map Field.name).Nodup) {bound : Nat} {first : Bool}
    {seen : List String} {s t : List Char} {members : List (String × (ρ → ρ))}
    (h : Members (pairs.map Prod.snd) first s members t) (fresh : Fresh seen members)
    (enough : s.length < bound) (r : ρ) :
    readMembers (pairs.map Prod.fst) bound first seen r s =
      .ok (changed r (members.map Prod.snd), t) := by
  obtain ⟨more, rfl⟩ : ∃ n, bound = n + 1 := ⟨bound - 1, by omega⟩
  induction h generalizing more seen r with
  | close close => exact readMembers_succ_eq_ok_iff.2 (.inl ⟨close, rfl⟩)
  | @known _ _ _ u v change w members t separator listed key item rest ih =>
    obtain ⟨p, mem, rfl⟩ := List.mem_map.1 listed
    have field := fine p mem
    have shorter : w.length < more := by
      have := separator.length_le
      have := key.length_lt
      have := field.toVisible.spaced_length_lt item
      omega
    have found := fieldOf_name distinct (List.mem_map_of_mem mem)
    rw [field.name] at found
    obtain ⟨unseen, fresh⟩ := fresh_cons_iff.1 fresh
    have value := (field.iff (r := r) (stops_of_members rest)).2 ⟨change, item, rfl⟩
    obtain ⟨more, rfl⟩ : ∃ n, more = n + 1 := ⟨more - 1, by omega⟩
    have read := ih fresh (change r) more shorter
    rw [← field.name] at unseen read
    exact readMembers_succ_eq_ok_iff.2
      (.inr ⟨u, _, v, separator, key, .inl ⟨p.1, change r, w, found, unseen, value, read⟩⟩)
  | @unknown _ _ u key v w members t separator named unknown unwanted rest ih =>
    have stops := stops_of_members rest
    have shorter : w.length < more := by
      have := separator.length_le
      have := named.length_lt
      have := unwanted.length_le stops
      omega
    have unfound := (fieldOf_pairs_eq_none_iff fine).2 unknown
    obtain ⟨more, rfl⟩ : ∃ n, more = n + 1 := ⟨more - 1, by omega⟩
    exact readMembers_succ_eq_ok_iff.2 (.inr ⟨u, key, v, separator, named,
      .inr ⟨w, unfound, (skip_eq_ok_iff stops).2 unwanted, ih fresh r more shorter⟩⟩)

theorem Items.length_lt {fields : List (FieldForm ρ)} (visible : ∀ f ∈ fields, Visible f.form)
    {first : Bool} {s t : List Char} {changes : List (ρ → ρ)}
    (h : Items first fields s changes t) : t.length < s.length := by
  induction h with
  | close close => exact close.length_le
  | item separator item _ ih =>
    have := separator.length_le
    have := (visible _ List.mem_cons_self).spaced_length_lt item
    have := ih fun f mem => visible f (List.mem_cons_of_mem _ mem)
    omega

theorem Members.length_lt {fields : List (FieldForm ρ)} (visible : ∀ f ∈ fields, Visible f.form)
    {first : Bool} {s t : List Char} {members : List (String × (ρ → ρ))}
    (h : Members fields first s members t) : t.length < s.length := by
  induction h with
  | close close => exact close.length_le
  | known separator listed key item _ ih =>
    have := separator.length_le
    have := key.length_lt
    have := (visible _ listed).spaced_length_lt item
    omega
  | unknown separator key _ unwanted rest ih =>
    have := separator.length_le
    have := key.length_lt
    have := unwanted.length_le (stops_of_members rest)
    omega

theorem visible_record {fields : List (FieldForm ρ)} (visible : ∀ f ∈ fields, Visible f.form)
    (default : ρ) : Visible (Record fields default) where
  starts := by
    rintro s r t (_ | _)
    · exact ⟨'[', _, rfl, rfl, by decide⟩
    · exact ⟨'\x7b', _, rfl, rfl, by decide⟩
  shrinks := by
    rintro s r t (items | ⟨members, -⟩)
    · exact Nat.lt_succ_of_lt (items.length_lt visible)
    · exact Nat.lt_succ_of_lt (members.length_lt visible)

theorem record_eq_ok_iff (fine : ∀ p ∈ pairs, p.1.Reads p.2)
    (distinct : ((pairs.map Prod.fst).map Field.name).Nodup) {default r : ρ} {s t : List Char} :
    record (pairs.map Prod.fst) default s = .ok (r, t) ↔
      Record (pairs.map Prod.snd) default (skipSpace s) r t := by
  unfold record
  generalize skipSpace s = u
  constructor
  · intro read
    split at read
    next c u =>
      split at read
      next list =>
        subst list
        obtain ⟨changes, items, rfl⟩ := items_of_readItems fine read
        exact .list items
      next =>
        split at read
        next object =>
          subst object
          obtain ⟨members, all, fresh, rfl⟩ := members_of_readMembers fine read
          exact .object all (fresh_iff_nodup.1 fresh)
        next => cases read
    next => cases read
  · rintro (items | ⟨members, once⟩)
    · exact readItems_of_items fine items default
    · exact readMembers_of_members fine distinct members (fresh_iff_nodup.2 once)
        (Nat.lt_succ_self _) default

theorem reads_record (fine : ∀ p ∈ pairs, p.1.Reads p.2)
    (distinct : ((pairs.map Prod.fst).map Field.name).Nodup) (default : ρ) :
    Reads (record (pairs.map Prod.fst) default) (Record (pairs.map Prod.snd) default) where
  toVisible := visible_record
    (List.forall_mem_map.2 fun p mem => (fine p mem).toVisible) default
  iff _ := by
    rw [record_eq_ok_iff fine distinct, Visible.spaced_iff]
    exact visible_record (List.forall_mem_map.2 fun p mem => (fine p mem).toVisible) default

theorem isEmpty_skipSpace_iff {s : List Char} : (skipSpace s).isEmpty ↔ Blanks s [] := by
  rw [List.isEmpty_iff]
  constructor
  · intro h
    rw [← h]
    exact blanks_skipSpace s
  · exact fun h => h.skipSpace_eq

/-- A document is accepted if it is one value of the grammar with nothing but blanks around it. -/
theorem document_eq_ok_iff {α : Type} {read : List Char → Except Fault (α × List Char)}
    {form : Form α} (reads : Reads read form) {s : List Char} {x : α} :
    document read s = .ok x ↔ Document form s x := by
  constructor
  · intro ok
    unfold document at ok
    split at ok
    · cases ok
    next y t value =>
      split at ok
      next blank =>
        cases ok
        have blanks := isEmpty_skipSpace_iff.1 blank
        exact ⟨t, (reads.iff (blanks.stops stops_nil)).1 value, blanks⟩
      next => cases ok
  · rintro ⟨t, value, blanks⟩
    simp only [document, (reads.iff (blanks.stops stops_nil)).2 value,
      isEmpty_skipSpace_iff.2 blanks, if_true]

end Json
end Genesis
