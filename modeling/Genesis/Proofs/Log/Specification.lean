import Mathlib.Data.List.Nodup
import Genesis.Proofs.Log.WithinLevels
import Genesis.Proofs.Text

/-!
# Filter specifications

Which texts are entries of a specification, and what is wrong with the others. A specification whose
entries are all in order sets each level as the last entry for it says, whatever entries for other
levels stand in between; one with a bad entry changes nothing and is answered by the first of them
(`specification_is_applied_whole_or_not`).
-/

namespace Genesis
namespace Log

section Words

variable {α : Type}

theorem lookup_eq_some_iff {table : List (String × α)}
    (distinct : (table.map Prod.fst).Nodup)
    (small : ∀ w ∈ table, Text.lower w.1.toList = w.1.toList) {text : List Char} {a : α} :
    (table.find? fun w => w.1.toList == Text.lower text).map Prod.snd = some a ↔
      ∃ w, (w, a) ∈ table ∧ Text.Spells text w.toList := by
  constructor
  · intro found
    obtain ⟨⟨w, b⟩, first, rfl⟩ := Option.map_eq_some_iff.1 found
    have mem := List.mem_of_find?_eq_some first
    have same : w.toList = Text.lower text := by simpa using List.find?_some first
    exact ⟨w, mem, (Text.lower_eq_iff (small _ mem)).1 same.symm⟩
  · rintro ⟨w, mem, spells⟩
    have same := (Text.lower_eq_iff (small _ mem)).2 spells
    cases found : table.find? fun w => w.1.toList == Text.lower text with
    | none => exact absurd same.symm (by simpa using List.find?_eq_none.1 found _ mem)
    | some v =>
      have also : v.1.toList = Text.lower text := by simpa using List.find?_some found
      have name : v.1 = w := String.toList_inj.1 (also.trans same)
      have pair : v = (w, a) :=
        List.inj_on_of_nodup_map distinct (List.mem_of_find?_eq_some found) mem name
      rw [pair]
      rfl

def Level.spellings : Level → List String
  | off => ["off", "0"]
  | error => ["error", "err", "1"]
  | warn => ["warn", "warning", "2"]
  | info => ["info", "3"]
  | debug => ["debug", "4"]
  | trace => ["trace", "5"]

def Category.spellings : Category → List String
  | cpu => ["cpu"]
  | bus => ["bus"]
  | video => ["vdp"]
  | pads => ["io", "joypad"]
  | interrupts => ["int", "interrupts"]

/-- A text names a level. -/
def Level.Named (level : Level) (text : List Char) : Prop :=
  ∃ w ∈ level.spellings, Text.Spells text w.toList

def Category.Named (category : Category) (text : List Char) : Prop :=
  ∃ w ∈ category.spellings, Text.Spells text w.toList

theorem Level.mem_words_iff {w : String} {level : Level} :
    (w, level) ∈ words ↔ w ∈ level.spellings := by
  cases level <;> simp [words, spellings]

theorem Category.mem_words_iff {w : String} {category : Category} :
    (w, category) ∈ words ↔ w ∈ category.spellings := by
  cases category <;> simp [words, spellings]

theorem Level.ofWord?_eq_some_iff {text : List Char} {level : Level} :
    ofWord? text = some level ↔ level.Named text := by
  refine (lookup_eq_some_iff (by decide) (by decide)).trans ?_
  simp only [mem_words_iff, Named]

theorem Level.not_mem_of_named {text : List Char} {level : Level} (named : level.Named text) :
    '=' ∉ text := by
  obtain ⟨w, mem, spells⟩ := named
  have listed := mem_words_iff.2 mem
  have small : ∀ w ∈ words, Text.lower w.1.toList = w.1.toList ∧ '=' ∉ w.1.toList := by decide
  obtain ⟨lower, free⟩ := small _ listed
  rw [← (Text.lower_eq_iff lower).2 spells] at free
  exact fun mem => free (List.mem_map.2 ⟨'=', mem, rfl⟩)

theorem Category.ofWord?_eq_some_iff {text : List Char} {category : Category} :
    ofWord? text = some category ↔ category.Named text := by
  refine (lookup_eq_some_iff (by decide) (by decide)).trans ?_
  simp only [mem_words_iff, Named]

end Words

namespace Entry

/-- A text without blanks at its ends is an entry: a level alone, or a category and a level around
the first equals sign. -/
inductive Written : List Char → Entry → Prop
  | overall {text level} : level.Named text → Written text (.overall level)
  | own {before after left right category level} : '=' ∉ before → Text.Trimmed before left →
      Text.Trimmed after right → category.Named left → level.Named right →
      Written (before ++ '=' :: after) (.own category level)

/-- What is wrong with a text that is no entry: its category if there is no such, else its level. -/
inductive Wrong : List Char → SpecFault → Prop
  | overall {text} : '=' ∉ text → (¬ ∃ level : Level, level.Named text) →
      Wrong text (.unknownLevel text)
  | category {before after left} : '=' ∉ before → Text.Trimmed before left →
      (¬ ∃ category : Category, category.Named left) →
      Wrong (before ++ '=' :: after) (.unknownCategory left)
  | level {before after left right} : '=' ∉ before → Text.Trimmed before left →
      Text.Trimmed after right → (∃ category : Category, category.Named left) →
      (¬ ∃ level : Level, level.Named right) →
      Wrong (before ++ '=' :: after) (.unknownLevel right)

theorem levelOf_of_named {text : List Char} {level : Level} (named : level.Named text) :
    levelOf text = .ok level := by
  rw [levelOf, Level.ofWord?_eq_some_iff.2 named]

theorem levelOf_of_unnamed {text : List Char} (unnamed : ¬ ∃ level : Level, level.Named text) :
    levelOf text = .error (.unknownLevel text) := by
  have unknown : Level.ofWord? text = none :=
    Option.eq_none_iff_forall_ne_some.2 fun level found =>
      unnamed ⟨level, Level.ofWord?_eq_some_iff.1 found⟩
  rw [levelOf, unknown]

theorem categoryOf_of_named {text : List Char} {category : Category}
    (named : category.Named text) : categoryOf text = .ok category := by
  rw [categoryOf, Category.ofWord?_eq_some_iff.2 named]

theorem categoryOf_of_unnamed {text : List Char}
    (unnamed : ¬ ∃ category : Category, category.Named text) :
    categoryOf text = .error (.unknownCategory text) := by
  have unknown : Category.ofWord? text = none :=
    Option.eq_none_iff_forall_ne_some.2 fun category found =>
      unnamed ⟨category, Category.ofWord?_eq_some_iff.1 found⟩
  rw [categoryOf, unknown]

theorem ofText_of_not_mem {text : List Char} (free : '=' ∉ text) :
    ofText text = (levelOf text).map .overall := by
  rw [ofText, Text.cut_eq_none_iff.2 free]
  cases levelOf text <;> rfl

theorem ofText_of_equals {before after left right : List Char} (free : '=' ∉ before)
    (first : Text.Trimmed before left) (second : Text.Trimmed after right) :
    ofText (before ++ '=' :: after) =
      (categoryOf left).bind fun category => (levelOf right).map (.own category) := by
  rw [ofText, Text.cut_eq_some_iff.2 ⟨rfl, free⟩]
  simp only [Text.trim_eq_iff.2 first, Text.trim_eq_iff.2 second]
  cases categoryOf left <;> cases levelOf right <;> rfl

theorem ofText_of_written {text : List Char} {e : Entry} (written : Written text e) :
    ofText text = .ok e := by
  cases written with
  | overall named =>
    rw [ofText_of_not_mem (Level.not_mem_of_named named), levelOf_of_named named]
    rfl
  | own free first second place named =>
    rw [ofText_of_equals free first second, categoryOf_of_named place, levelOf_of_named named]
    rfl

theorem ofText_of_wrong {text : List Char} {f : SpecFault} (wrong : Wrong text f) :
    ofText text = .error f := by
  cases wrong with
  | overall free unnamed =>
    rw [ofText_of_not_mem free, levelOf_of_unnamed unnamed]
    rfl
  | @category before after left free first nowhere =>
    rw [ofText_of_equals free first (Text.trimmed_trim after), categoryOf_of_unnamed nowhere]
    rfl
  | level free first second place unnamed =>
    obtain ⟨category, place⟩ := place
    rw [ofText_of_equals free first second, categoryOf_of_named place, levelOf_of_unnamed unnamed]
    rfl

theorem written_or_wrong (text : List Char) :
    (∃ e, Written text e) ∨ ∃ f, Wrong text f := by
  by_cases mem : '=' ∈ text
  · obtain ⟨before, after, rfl, free⟩ := List.eq_append_cons_of_mem mem
    have first := Text.trimmed_trim before
    have second := Text.trimmed_trim after
    by_cases place : ∃ category : Category, category.Named (Text.trim before)
    · by_cases named : ∃ level : Level, level.Named (Text.trim after)
      · obtain ⟨category, place⟩ := place
        obtain ⟨level, named⟩ := named
        exact .inl ⟨_, .own free first second place named⟩
      · exact .inr ⟨_, .level free first second place named⟩
    · exact .inr ⟨_, .category free first place⟩
  · by_cases named : ∃ level : Level, level.Named text
    · obtain ⟨level, named⟩ := named
      exact .inl ⟨_, .overall named⟩
    · exact .inr ⟨_, .overall mem named⟩

theorem not_written_of_wrong {text : List Char} {f : SpecFault} (wrong : Wrong text f) :
    ¬ ∃ e, Written text e := by
  rintro ⟨e, written⟩
  have read := ofText_of_written written
  rw [ofText_of_wrong wrong] at read
  cases read

theorem ofText_eq_ok_iff {text : List Char} {e : Entry} : ofText text = .ok e ↔ Written text e := by
  refine ⟨fun read => ?_, ofText_of_written⟩
  rcases written_or_wrong text with ⟨e', written⟩ | ⟨f, wrong⟩
  · rw [ofText_of_written written] at read
    cases read
    exact written
  · rw [ofText_of_wrong wrong] at read
    cases read

theorem ofText_eq_error_iff {text : List Char} {f : SpecFault} :
    ofText text = .error f ↔ Wrong text f := by
  refine ⟨fun read => ?_, ofText_of_wrong⟩
  rcases written_or_wrong text with ⟨e, written⟩ | ⟨f', wrong⟩
  · rw [ofText_of_written written] at read
    cases read
  · rw [ofText_of_wrong wrong] at read
    cases read
    exact wrong

end Entry

/-- The texts of the entries of a specification, from the left: what stands between the commas,
without the blanks at its ends, unless nothing is left. -/
def EntryTexts (spec : List Char) (texts : List (List Char)) : Prop :=
  ∃ pieces trimmed, Text.Pieces ',' spec pieces ∧ List.Forall₂ Text.Trimmed pieces trimmed ∧
    texts = trimmed.filter (· ≠ [])

section Traversal

variable {α β ε : Type} {f : α → Except ε β}

theorem mapM_eq_ok_iff {xs : List α} {ys : List β} :
    xs.mapM f = .ok ys ↔ List.Forall₂ (fun x y => f x = .ok y) xs ys := by
  induction xs generalizing ys with
  | nil => cases ys <;> simp [pure, Except.pure]
  | cons x xs ih =>
    rw [List.mapM_cons]
    cases first : f x with
    | error e => cases ys <;> simp [bind, Except.bind, first]
    | ok y =>
      cases rest : xs.mapM f with
      | error e => cases ys <;> simp [bind, Except.bind, ← ih, rest, first]
      | ok zs => cases ys <;> simp [bind, Except.bind, pure, Except.pure, ← ih, rest, first]

theorem mapM_eq_error {xs : List α} {e : ε} (failed : xs.mapM f = .error e) :
    ∃ before x after, xs = before ++ x :: after ∧ (∀ y ∈ before, ∃ z, f y = .ok z) ∧
      f x = .error e := by
  induction xs with
  | nil => cases failed
  | cons x xs ih =>
    rw [List.mapM_cons] at failed
    cases first : f x with
    | error e' =>
      rw [first] at failed
      cases failed
      exact ⟨[], x, xs, rfl, by simp, first⟩
    | ok y =>
      cases rest : xs.mapM f with
      | error e' =>
        rw [first, rest] at failed
        cases failed
        obtain ⟨before, z, after, rfl, fine, bad⟩ := ih rest
        exact ⟨x :: before, z, after, rfl, List.forall_mem_cons.2 ⟨⟨y, first⟩, fine⟩, bad⟩
      | ok ys =>
        rw [first, rest] at failed
        cases failed

end Traversal

/-- The entries that a specification holds, from the left. -/
def Holds (spec : String) (entries : List Entry) : Prop :=
  ∃ texts, EntryTexts spec.toList texts ∧ List.Forall₂ Entry.Written texts entries

/-- What a level is set for. -/
inductive Target where
  | overall
  | own (category : Category)
deriving DecidableEq

namespace Entry

def target : Entry → Target
  | overall _ => .overall
  | own category _ => .own category

def level : Entry → Level
  | overall level => level
  | own _ level => level

def requested (target : Target) (entries : List Entry) : List Level :=
  (entries.filter fun e => e.target = target).map level

end Entry

namespace Levels

/-- The level that is set for a target. -/
def setFor (l : Levels) : Target → Level
  | .overall => l.overall
  | .own category => l.own.get category

variable {l m : Levels}

theorem ext_setFor (same : ∀ target, l.setFor target = m.setFor target) : l = m := by
  obtain ⟨overall, own⟩ := l
  obtain ⟨overall', own'⟩ := m
  have first : overall = overall' := same .overall
  have rest : own = own' := PerCategory.ext_get fun category => same (.own category)
  rw [first, rest]

theorem setFor_apply (l : Levels) (e : Entry) (target : Target) :
    (l.apply e).setFor target = if e.target = target then e.level else l.setFor target := by
  cases e with
  | overall level => cases target <;> simp [apply, setOverall, setFor, Entry.target, Entry.level]
  | own category level =>
    cases target <;>
      simp [apply, setOwn, setFor, Entry.target, Entry.level, PerCategory.get_set]

/-- The last entry for a target decides, and without one nothing changes. -/
theorem setFor_foldl_apply (entries : List Entry) (l : Levels) (target : Target) :
    (entries.foldl apply l).setFor target =
      (Entry.requested target entries).getLast?.getD (l.setFor target) := by
  induction entries generalizing l with
  | nil => rfl
  | cons e entries ih =>
    rw [List.foldl_cons, ih, setFor_apply]
    by_cases here : e.target = target
    · simp [Entry.requested, here, List.getLast?_cons]
    · simp [Entry.requested, here]

theorem permits_iff (l : Levels) (category : Category) (level : Level) :
    l.permits category level = true ↔ level ≠ .off ∧
      level ≤ if l.own.get category = .off then l.overall else l.own.get category := by
  have effective : l.effective category =
      if l.own.get category = .off then l.overall else l.own.get category := by
    rw [Levels.effective]
    cases l.own.get category <;> rfl
  simp [permits, effective]

end Levels

section Texts

variable {spec : List Char} {texts : List (List Char)}

theorem forall₂_trimmed_iff {pieces trimmed : List (List Char)} :
    List.Forall₂ Text.Trimmed pieces trimmed ↔ trimmed = pieces.map Text.trim := by
  induction pieces generalizing trimmed with
  | nil => cases trimmed <;> simp
  | cons p pieces ih =>
    cases trimmed with
    | nil => simp
    | cons t trimmed =>
      rw [List.forall₂_cons, ih, ← Text.trim_eq_iff, List.map_cons, List.cons.injEq,
        eq_comm (a := t)]

theorem entryTexts_iff : EntryTexts spec texts ↔
    texts = ((Text.pieces ',' spec).map Text.trim).filter fun t => !t.isEmpty := by
  have same : (fun t : List Char => decide (t ≠ [])) = fun t => !t.isEmpty := by
    funext t
    cases t <;> simp
  simp only [EntryTexts, ← Text.pieces_eq_iff, forall₂_trimmed_iff, exists_and_left,
    exists_eq_left', exists_eq_left, same]

theorem ofSpec_of_entryTexts (split : EntryTexts spec texts) :
    Entry.ofSpec spec = texts.mapM Entry.ofText := by
  rw [entryTexts_iff.1 split, Entry.ofSpec]

theorem holds_iff {spec : String} {entries : List Entry} :
    Holds spec entries ↔ Entry.ofSpec spec.toList = .ok entries := by
  simp only [Holds, entryTexts_iff, exists_eq_left, Entry.ofSpec, mapM_eq_ok_iff,
    Entry.ofText_eq_ok_iff]

end Texts

namespace Levels

variable {l : Levels} {spec : String} {entries : List Entry}

theorem applySpec_of_holds (holds : Holds spec entries) (l : Levels) :
    l.applySpec spec = .ok (entries.foldl apply l) := by
  rw [applySpec, holds_iff.1 holds]
  rfl

theorem holds_of_applySpec {m : Levels} (accepted : l.applySpec spec = .ok m) :
    ∃ entries, Holds spec entries ∧ m = entries.foldl apply l := by
  rw [applySpec] at accepted
  cases read : Entry.ofSpec spec.toList with
  | error e =>
    rw [read] at accepted
    cases accepted
  | ok entries =>
    rw [read] at accepted
    cases accepted
    exact ⟨entries, holds_iff.2 read, rfl⟩

/-- A specification is refused with the fault of its first bad entry. -/
theorem applySpec_eq_error {texts : List (List Char)} (split : EntryTexts spec.toList texts)
    {f : SpecFault} (refused : l.applySpec spec = .error f) :
    ∃ before bad after, texts = before ++ bad :: after ∧
      (∀ text ∈ before, ∃ e, Entry.Written text e) ∧ Entry.Wrong bad f := by
  have failed : texts.mapM Entry.ofText = .error f := by
    rw [applySpec, ofSpec_of_entryTexts split] at refused
    cases read : texts.mapM Entry.ofText with
    | error e =>
      rw [read] at refused
      cases refused
      rfl
    | ok entries =>
      rw [read] at refused
      cases refused
  simpa only [Entry.ofText_eq_ok_iff, Entry.ofText_eq_error_iff] using mapM_eq_error failed

theorem accepts_iff {texts : List (List Char)} (split : EntryTexts spec.toList texts)
    (l : Levels) :
    (∃ m, l.applySpec spec = .ok m) ↔ ∀ text ∈ texts, ∃ e, Entry.Written text e := by
  constructor
  · rintro ⟨m, accepted⟩
    obtain ⟨entries, ⟨texts', split', written⟩, -⟩ := holds_of_applySpec accepted
    have same : texts' = texts := (entryTexts_iff.1 split').trans (entryTexts_iff.1 split).symm
    have both : List.Forall₂ (fun text e => (∃ e, Entry.Written text e) ∧ Entry.Written text e)
        texts' entries := written.imp fun text e entry => ⟨⟨e, entry⟩, entry⟩
    rw [← same]
    exact ((List.forall₂_and_left _ _).1 both).1
  · intro all
    cases result : l.applySpec spec with
    | ok m => exact ⟨m, rfl⟩
    | error f =>
      obtain ⟨before, bad, after, rfl, -, wrong⟩ := applySpec_eq_error split result
      exact absurd (all bad (by simp)) (Entry.not_written_of_wrong wrong)

end Levels

/-- A specification is accepted if and only if each of its texts is an entry. Then the last entry
for a target sets its level, a target without an entry keeps it, and what is wanted follows from the
levels; entries for other targets may stand in between in any order. Otherwise nothing changes, and
the fault is that of the first text that is no entry. -/
theorem specification_is_applied_whole_or_not (l : Logger) (spec : String) :
    ∃ texts, EntryTexts spec.toList texts ∧
      (∀ others, EntryTexts spec.toList others → others = texts) ∧
      ((∃ m, l.levels.applySpec spec = .ok m) ↔ ∀ text ∈ texts, ∃ e, Entry.Written text e) ∧
      match l.levels.applySpec spec with
      | .ok m =>
        (Use.specify spec).action.apply l = { l with levels := m } ∧
        ∃ entries, List.Forall₂ Entry.Written texts entries ∧
          (∀ target, m.setFor target =
            (Entry.requested target entries).getLast?.getD (l.levels.setFor target)) ∧
          (∀ category level, m.permits category level = true ↔ level ≠ .off ∧
            level ≤ if m.own.get category = .off then m.overall else m.own.get category) ∧
          (∀ other entries', Holds other entries' →
            (∀ target, Entry.requested target entries' = Entry.requested target entries) →
            l.levels.applySpec other = .ok m)
      | .error fault =>
        (Use.specify spec).action.apply l = l ∧
        ∃ before bad after, texts = before ++ bad :: after ∧
          (∀ text ∈ before, ∃ e, Entry.Written text e) ∧ (¬ ∃ e, Entry.Written bad e) ∧
          Entry.Wrong bad fault := by
  have split : EntryTexts spec.toList _ := entryTexts_iff.2 rfl
  refine ⟨_, split, fun others split' => entryTexts_iff.1 split', Levels.accepts_iff split _, ?_⟩
  split
  next m accepted =>
    obtain ⟨entries, holds, rfl⟩ := Levels.holds_of_applySpec accepted
    obtain ⟨texts, split', written⟩ := holds
    rw [entryTexts_iff.1 split'] at written
    refine ⟨by simp only [Use.action, Action.apply, accepted], entries, written,
      Levels.setFor_foldl_apply entries l.levels, Levels.permits_iff _, ?_⟩
    intro other entries' holds' same
    rw [Levels.applySpec_of_holds holds']
    refine congrArg _ (Levels.ext_setFor fun target => ?_)
    rw [Levels.setFor_foldl_apply, Levels.setFor_foldl_apply, same]
  next fault refused =>
    obtain ⟨before, bad, after, all, fine, wrong⟩ := Levels.applySpec_eq_error split refused
    exact ⟨by simp only [Use.action, Action.apply, refused], before, bad, after, all, fine,
      Entry.not_written_of_wrong wrong, wrong⟩

/-- Three entries in another order, with blanks, capitals, a digit and an empty piece. -/
theorem specification_is_applied_in_any_order :
    let spec := "bus=error,vdp=debug,warn"
    let other := " Warn ,, VDP = 4,bus\t=ERR"
    let entries : List Entry := [.own .bus .error, .own .video .debug, .overall .warn]
    let entries' : List Entry := [.overall .warn, .own .video .debug, .own .bus .error]
    let m : Levels := ⟨.warn, ⟨.off, .error, .debug, .off, .off⟩⟩
    Holds spec entries ∧ Holds other entries' ∧
      (∀ target, Entry.requested target entries' = Entry.requested target entries) ∧
      Levels.default.applySpec other = .ok m := by
  intro spec other entries entries' m
  have holds : Holds spec entries := holds_iff.2 (by decide +kernel)
  have holds' : Holds other entries' := holds_iff.2 (by decide +kernel)
  have same (target : Target) :
      Entry.requested target entries' = Entry.requested target entries := by
    match target with
    | .overall => rfl
    | .own category => cases category <;> rfl
  obtain ⟨texts, split, -, -, result⟩ := specification_is_applied_whole_or_not {} spec
  have accepted : ({} : Logger).levels.applySpec spec = .ok m := by
    decide +kernel
  rw [accepted] at result
  obtain ⟨-, found, written, -, -, reorder⟩ := result
  have first : found = entries := by
    have read := holds_iff.1 ⟨texts, split, written⟩
    rw [holds_iff.1 holds] at read
    exact (Except.ok.inj read).symm
  rw [first] at reorder
  exact ⟨holds, holds', same, reorder other entries' holds' same⟩

end Log
end Genesis
