import Genesis.Json.Printer
import Genesis.Proofs.Json.Grammar

/-!
# Printed texts follow the grammar

What the printer writes for a value is a text of the value's form, whatever follows it. An object is
one of a record if its members are written for the fields one by one (`Written`), with any blanks
between its tokens (`members_of_written`).
-/

namespace Genesis
namespace Json

theorem blanks_append {blank : List Char} (all : ∀ c ∈ blank, isSpace c) (s : List Char) :
    Blanks (blank ++ s) s := by
  induction blank with
  | nil => exact .none
  | cons c blank ih => exact .more (all c (by simp)) (ih fun d mem => all d (by simp [mem]))

theorem boolean_printBool (b : Bool) (t : List Char) : Boolean (printBool b ++ t) b t := by
  cases b with
  | false => exact .false
  | true => exact .true

theorem nullable_printNull {α : Type} (form : Form α) (t : List Char) :
    Nullable form (printNull ++ t) none t := .null

section Numbers

theorem valueOf_printNat (n : Nat) : Text.valueOf (printNat n) = n := by
  have digits : Text.valueOf (printNat n) = Nat.ofDigitChars 10 (Nat.toDigits 10 n) 0 :=
    Nat.ofDigitChars_eq_foldl.symm
  rw [digits, Nat.ofDigitChars_toDigits (by decide) (by decide)]

theorem printNat_of_lt {n : Nat} (small : n < 10) : printNat n = [n.digitChar] :=
  Nat.toDigits_of_lt_base small

theorem printNat_of_le {n : Nat} (large : 10 ≤ n) :
    printNat n = printNat (n / 10) ++ [(n % 10).digitChar] :=
  Nat.toDigits_of_base_le (by decide) large

theorem printNat_ne_nil (n : Nat) : printNat n ≠ [] := Nat.toDigits_ne_nil

theorem printNat_of_head_zero {n : Nat} (zero : (printNat n).head? = some '0') :
    printNat n = ['0'] := by
  induction n using Nat.strongRecOn with
  | ind n ih =>
    by_cases small : n < 10
    · rw [printNat_of_lt small] at zero ⊢
      rw [Option.some.inj zero]
    · have large : 10 ≤ n := Nat.not_lt.1 small
      obtain ⟨d, digits, front⟩ := List.exists_cons_of_ne_nil (printNat_ne_nil (n / 10))
      rw [printNat_of_le large, front] at zero
      have single := ih (n / 10) (by omega) (by rw [front]; exact zero)
      have value := valueOf_printNat (n / 10)
      rw [single] at value
      have none : n / 10 = 0 := value.symm
      omega

theorem natural_printNat (n : Nat) (t : List Char) : Natural (printNat n ++ t) n t :=
  ⟨printNat n, rfl, printNat_ne_nil n,
    fun _ mem => Nat.isDigit_of_mem_toDigits (by decide) (by decide) mem, printNat_of_head_zero,
    valueOf_printNat n⟩

theorem word32_printNat (x : UInt32) (t : List Char) : Word32 (printNat x.toNat ++ t) x t :=
  natural_printNat x.toNat t

end Numbers

section Objects

variable {ρ : Type} {fields : List (FieldForm ρ)}

/-- The texts of a member's value stand for a change of the record, whatever follows them. -/
theorem FieldForm.of_append {α : Type} {form : Form α} {value : List Char} {x : α}
    (written : ∀ t, form (value ++ t) x t) (name : String) (set : ρ → α → ρ) (t : List Char) :
    (FieldForm.of name form set).form (value ++ t) (fun r => set r x) t :=
  ⟨x, written t, rfl⟩

/-- Members that are written for fields one by one, with the changes that they stand for. -/
inductive Written : List (FieldForm ρ) → List Member → List (String × (ρ → ρ)) → Prop
  | nil : Written [] [] []
  | cons {f fields value change members changes} : (∀ t, f.form (value ++ t) change t) →
      Written fields members changes →
      Written (f :: fields) (⟨f.name, value⟩ :: members) ((f.name, change) :: changes)

theorem Written.names {members : List Member} {changes : List (String × (ρ → ρ))}
    (written : Written fields members changes) :
    changes.map Prod.fst = fields.map FieldForm.name := by
  induction written with
  | nil => rfl
  | cons _ _ ih => rw [List.map_cons, List.map_cons, ih]

theorem quoted_of_plain {name : List Char} (plain : ∀ c ∈ name, Escaped.isPlain c) (t : List Char) :
    Quoted (name ++ '"' :: t) name t := by
  induction name with
  | nil => exact .close
  | cons c name ih => exact .plain (plain c (by simp)) (ih fun d mem => plain d (by simp [mem]))

theorem separated_cons (separator x : List Char) (xs : List (List Char)) :
    separated separator (x :: xs) = x ++ xs.flatMap (separator ++ ·) := by
  induction xs generalizing x with
  | nil => simp [separated]
  | cons y xs ih => simp [separated, ih]

variable {lead gap close t : List Char}

/-- A member behind some blanks, with more of them in front of its value. -/
def spacedMember (lead gap : List Char) (m : Member) : List Char :=
  lead ++ printName m.name ++ ':' :: (gap ++ m.value)

section Member

variable (blankLead : ∀ c ∈ lead, isSpace c) (blankGap : ∀ c ∈ gap, isSpace c)
  (plain : ∀ f ∈ fields, ∀ c ∈ f.name.toList, Escaped.isPlain c)

include blankLead

theorem key_spacedMember {m : Member} (plain : ∀ c ∈ m.name.toList, Escaped.isPlain c)
    (t : List Char) : Key (spacedMember lead gap m ++ t) m.name.toList (gap ++ (m.value ++ t)) := by
  refine ⟨m.name.toList ++ '"' :: ':' :: (gap ++ (m.value ++ t)), _, ?_, quoted_of_plain plain _,
    .none⟩
  simpa [spacedMember, printName] using blanks_append blankLead
    ('"' :: (m.name.toList ++ '"' :: ':' :: (gap ++ (m.value ++ t))))

include blankGap plain

theorem members_of_cons {first : Bool} {s : List Char} {f : FieldForm ρ} {value : List Char}
    {change : ρ → ρ} {changes : List (String × (ρ → ρ))} {u : List Char} (mem : f ∈ fields)
    (written : ∀ t, f.form (value ++ t) change t)
    (separator : Separator first s (spacedMember lead gap ⟨f.name, value⟩ ++ u))
    (rest : Members fields false u changes t) :
    Members fields first s ((f.name, change) :: changes) t :=
  .known separator mem (key_spacedMember (m := ⟨f.name, value⟩) blankLead (plain f mem) u)
    ⟨value ++ u, blanks_append blankGap _, written u⟩ rest

theorem members_of_written_rest (closes : Blanks close ('\x7d' :: t)) {rest : List (FieldForm ρ)}
    (known : ∀ f ∈ rest, f ∈ fields) {members : List Member} {changes : List (String × (ρ → ρ))}
    (written : Written rest members changes) :
    Members fields false
      ((members.map (spacedMember lead gap)).flatMap ([','] ++ ·) ++ close) changes t := by
  induction written with
  | nil => exact .close closes
  | cons value _ ih =>
    have more := ih fun f mem => known f (by simp [mem])
    refine members_of_cons blankLead blankGap plain (known _ (by simp)) value (.comma ?_) more
    simpa using Blanks.none

/-- Members that are written for all fields, with blanks around their keys. -/
theorem members_of_written (closes : Blanks close ('\x7d' :: t)) {members : List Member}
    {changes : List (String × (ρ → ρ))} (written : Written fields members changes) :
    Members fields true
      (separated [','] (members.map (spacedMember lead gap)) ++ close) changes t := by
  cases written with
  | nil => exact .close closes
  | cons value more =>
    have rest := members_of_written_rest blankLead blankGap plain closes (by simp +contextual) more
    rw [List.map_cons, separated_cons, List.append_assoc]
    exact members_of_cons blankLead blankGap plain (by simp) value .first rest

end Member

/-- No name of a field needs an escape. -/
def plainNames (fields : List (FieldForm ρ)) : Bool :=
  fields.all fun f => f.name.toList.all Escaped.isPlain

theorem isPlain_of_plainNames (plain : plainNames fields) :
    ∀ f ∈ fields, ∀ c ∈ f.name.toList, Escaped.isPlain c :=
  fun f mem => List.all_eq_true.1 (List.all_eq_true.1 plain f mem)

theorem isSpace_of_mem_newLine {depth : Nat} : ∀ c ∈ newLine depth, isSpace c := by
  intro c mem
  rcases List.mem_cons.1 mem with rfl | mem
  · rfl
  · rw [List.eq_of_mem_replicate mem]
    rfl

/-- An object with blanks around its keys and at its end is a record of the fields for which its
members are written. -/
theorem record_of_written (blankLead : ∀ c ∈ lead, isSpace c) (blankGap : ∀ c ∈ gap, isSpace c)
    (blankClose : ∀ c ∈ close, isSpace c) (plain : plainNames fields) {members : List Member}
    {changes : List (String × (ρ → ρ))} (written : Written fields members changes)
    (distinct : (fields.map FieldForm.name).Nodup) (default : ρ) (t : List Char) :
    Record fields default
      ('\x7b' :: (separated [','] (members.map (spacedMember lead gap)) ++ close ++ ['\x7d']) ++ t)
      (changed default (changes.map Prod.snd)) t := by
  have all : Members fields true
      (separated [','] (members.map (spacedMember lead gap)) ++ (close ++ '\x7d' :: t)) changes t :=
    members_of_written blankLead blankGap (isPlain_of_plainNames plain)
      (blanks_append blankClose _) written
  rw [List.cons_append, List.append_assoc, List.append_assoc]
  exact .object all (written.names ▸ distinct)

theorem record_prettyObject (plain : plainNames fields) {members : List Member}
    {changes : List (String × (ρ → ρ))} (written : Written fields members changes)
    (distinct : (fields.map FieldForm.name).Nodup) (default : ρ) (depth : Nat) (t : List Char) :
    Record fields default (prettyObject depth members ++ t)
      (changed default (changes.map Prod.snd)) t :=
  record_of_written isSpace_of_mem_newLine (List.forall_mem_singleton.2 rfl) isSpace_of_mem_newLine
    plain written distinct default t

theorem record_compactObject (plain : plainNames fields) {members : List Member}
    {changes : List (String × (ρ → ρ))} (written : Written fields members changes)
    (distinct : (fields.map FieldForm.name).Nodup) (default : ρ) (t : List Char) :
    Record fields default (compactObject members ++ t)
      (changed default (changes.map Prod.snd)) t := by
  have none : ∀ c ∈ ([] : List Char), isSpace c := by simp
  have record := record_of_written none none none plain written distinct default t
  rw [List.append_nil] at record
  exact record

end Objects

end Json
end Genesis
