import Mathlib.Data.List.Forall2
import Genesis.Proofs.Json.Grammar

/-!
# Forms that mirror one another

Two forms mirror one another if the texts of either are texts of the other, for values that are the
same up to a relation. Two records do if their fields do, name by name (`Mirrored.record`).
-/

namespace Genesis
namespace Json

variable {α β ρ τ : Type}

/-- The texts of either form are texts of the other, and what they stand for is the same. -/
structure Mirrored (same : α → β → Prop) (form : Form α) (form' : Form β) : Prop where
  there : ∀ {s x t}, form s x t → ∃ y, form' s y t ∧ same x y
  back : ∀ {s y t}, form' s y t → ∃ x, form s x t ∧ same x y

/-- Fields of one name, with changes that keep two records the same. -/
structure FieldForm.Mirrored (same : ρ → τ → Prop) (f : FieldForm ρ) (g : FieldForm τ) : Prop where
  name : f.name = g.name
  changes : Json.Mirrored (fun change change' => ∀ r r', same r r' → same (change r) (change' r'))
    f.form g.form

theorem Mirrored.refl (form : Form α) : Mirrored (fun x y => x = y) form form where
  there text := ⟨_, text, rfl⟩
  back text := ⟨_, text, rfl⟩

section Forms

variable {values : α → β → Prop} {form : Form α} {form' : Form β}

theorem Mirrored.nullable (mirrored : Mirrored values form form') :
    Mirrored (Option.Rel values) (Nullable form) (Nullable form') where
  there text := by
    cases text with
    | null => exact ⟨none, .null, .none⟩
    | value text =>
      obtain ⟨y, text, alike⟩ := mirrored.there text
      exact ⟨some y, .value text, .some alike⟩
  back text := by
    cases text with
    | null => exact ⟨none, .null, .none⟩
    | value text =>
      obtain ⟨x, text, alike⟩ := mirrored.back text
      exact ⟨some x, .value text, .some alike⟩

theorem Mirrored.field {same : ρ → τ → Prop} {set : ρ → α → ρ} {set' : τ → β → τ}
    (mirrored : Mirrored values form form')
    (keeps : ∀ {x y r r'}, values x y → same r r' → same (set r x) (set' r' y)) (name : String) :
    (FieldForm.of name form set).Mirrored same (FieldForm.of name form' set') where
  name := rfl
  changes.there := by
    rintro s _ t ⟨x, text, rfl⟩
    obtain ⟨y, text', alike⟩ := mirrored.there text
    exact ⟨_, ⟨y, text', rfl⟩, fun r r' => keeps alike⟩
  changes.back := by
    rintro s _ t ⟨y, text, rfl⟩
    obtain ⟨x, text', alike⟩ := mirrored.back text
    exact ⟨_, ⟨x, text', rfl⟩, fun r r' => keeps alike⟩

end Forms

section Records

variable {same : ρ → τ → Prop} {fs : List (FieldForm ρ)} {gs : List (FieldForm τ)} {first : Bool}
  {s t : List Char}

theorem FieldForm.Mirrored.symm {f : FieldForm ρ} {g : FieldForm τ} (mirrored : f.Mirrored same g) :
    g.Mirrored (fun r' r => same r r') f where
  name := mirrored.name.symm
  changes.there text := by
    obtain ⟨change, text, keeps⟩ := mirrored.changes.back text
    exact ⟨change, text, fun r r' => keeps r' r⟩
  changes.back text := by
    obtain ⟨change, text, keeps⟩ := mirrored.changes.there text
    exact ⟨change, text, fun r r' => keeps r' r⟩

theorem mirrored_symm (fields : List.Forall₂ (FieldForm.Mirrored same) fs gs) :
    List.Forall₂ (FieldForm.Mirrored fun r' r => same r r') gs fs :=
  (fields.imp fun _ _ mirrored => mirrored.symm).flip

theorem exists_mirrored (fields : List.Forall₂ (FieldForm.Mirrored same) fs gs) {f : FieldForm ρ}
    (listed : f ∈ fs) : ∃ g ∈ gs, f.Mirrored same g := by
  induction fields with
  | nil => cases listed
  | cons head _ ih =>
    rcases List.mem_cons.1 listed with rfl | listed
    · exact ⟨_, List.mem_cons_self, head⟩
    · obtain ⟨g, listed, mirrored⟩ := ih listed
      exact ⟨g, List.mem_cons_of_mem _ listed, mirrored⟩

theorem Items.mirrored (fields : List.Forall₂ (FieldForm.Mirrored same) fs gs)
    {changes : List (ρ → ρ)} (items : Items first fs s changes t) :
    ∃ changes', Items first gs s changes' t ∧
      ∀ r r', same r r' → same (changed r changes) (changed r' changes') := by
  induction fields generalizing first s changes with
  | nil =>
    cases items with | close close =>
    exact ⟨[], .close close, fun _ _ alike => alike⟩
  | cons head _ ih =>
    cases items with
    | close close => exact ⟨[], .close close, fun _ _ alike => alike⟩
    | item separator item rest =>
      obtain ⟨v, blanks, text⟩ := item
      obtain ⟨change', text', keeps⟩ := head.changes.there text
      obtain ⟨changes', rest', all⟩ := ih rest
      exact ⟨change' :: changes', .item separator ⟨v, blanks, text'⟩ rest',
        fun r r' alike => all _ _ (keeps r r' alike)⟩

theorem Members.mirrored (fields : List.Forall₂ (FieldForm.Mirrored same) fs gs)
    {members : List (String × (ρ → ρ))} (h : Members fs first s members t) :
    ∃ members', Members gs first s members' t ∧
      members'.map Prod.fst = members.map Prod.fst ∧
      ∀ r r', same r r' →
        same (changed r (members.map Prod.snd)) (changed r' (members'.map Prod.snd)) := by
  induction h with
  | close close => exact ⟨[], .close close, rfl, fun _ _ alike => alike⟩
  | known separator listed key item _ ih =>
    obtain ⟨g, listed, mirrored⟩ := exists_mirrored fields listed
    obtain ⟨v, blanks, text⟩ := item
    obtain ⟨change', text', keeps⟩ := mirrored.changes.there text
    obtain ⟨members', rest', names, all⟩ := ih
    rw [mirrored.name] at key
    refine ⟨(g.name, change') :: members', .known separator listed key ⟨v, blanks, text'⟩ rest', ?_,
      fun r r' alike => all _ _ (keeps r r' alike)⟩
    rw [List.map_cons, List.map_cons, names, mirrored.name]
  | unknown separator key unknown unwanted _ ih =>
    obtain ⟨members', rest', names, all⟩ := ih
    -- what no field of the one record is named, none of the other is named
    refine ⟨members', .unknown separator key (fun g listed => ?_) unwanted rest', names, all⟩
    obtain ⟨f, listed, mirrored⟩ := exists_mirrored (mirrored_symm fields) listed
    exact mirrored.name ▸ unknown f listed

theorem Record.mirrored (fields : List.Forall₂ (FieldForm.Mirrored same) fs gs) {default r : ρ}
    {default' : τ} (alike : same default default') (record : Record fs default s r t) :
    ∃ r', Record gs default' s r' t ∧ same r r' := by
  cases record with
  | list items =>
    obtain ⟨changes', items', all⟩ := items.mirrored fields
    exact ⟨_, .list items', all _ _ alike⟩
  | object members once =>
    obtain ⟨members', members, names, all⟩ := members.mirrored fields
    exact ⟨_, .object members (names ▸ once), all _ _ alike⟩

theorem Mirrored.record (fields : List.Forall₂ (FieldForm.Mirrored same) fs gs) {default : ρ}
    {default' : τ} (alike : same default default') :
    Mirrored same (Record fs default) (Record gs default') where
  there record := record.mirrored fields alike
  back record := record.mirrored (mirrored_symm fields) alike

end Records

/-- The documents of a form whose values are functions of those of another. -/
theorem Mirrored.document_iff {value : α → β} {form : Form α} {form' : Form β}
    (mirrored : Mirrored (fun x y => value x = y) form form') {s : List Char} {y : β} :
    Document form' s y ↔ ∃ x, Document form s x ∧ value x = y := by
  constructor
  · rintro ⟨t, ⟨u, front, text⟩, back⟩
    obtain ⟨x, text, alike⟩ := mirrored.back text
    exact ⟨x, ⟨t, ⟨u, front, text⟩, back⟩, alike⟩
  · rintro ⟨x, ⟨t, ⟨u, front, text⟩, back⟩, rfl⟩
    obtain ⟨_, text, rfl⟩ := mirrored.there text
    exact ⟨t, ⟨u, front, text⟩, back⟩

end Json
end Genesis
