import Genesis.Configuration
import Genesis.Proofs.Json.Objects
import Genesis.Proofs.Json.Printing

/-!
# The texts of configurations

A text is accepted exactly if it describes a configuration by the grammar (`parse_eq_ok_iff`):
fields in any order and none twice, unknown keys with any values, missing fields at their defaults.
The printed text of a configuration describes it, with any blanks behind it (`describes_print`).
-/

namespace Genesis

open Json

namespace Timing

def forms : List (FieldForm Timing) :=
  [.of "master_clock_ntsc" Word32 fun t x => { t with masterClockNtsc := x },
   .of "master_clock_pal" Word32 fun t x => { t with masterClockPal := x },
   .of "frame_rate_ntsc" Word32 fun t x => { t with frameRateNtsc := x },
   .of "frame_rate_pal" Word32 fun t x => { t with frameRatePal := x },
   .of "lines" Word32 fun t x => { t with lines := x },
   .of "cpu_divider" Word32 fun t x => { t with cpuDivider := x },
   .of "sub_cycles" Word32 fun t x => { t with subCycles := x },
   .of "cycle_scale" Word32 fun t x => { t with cycleScale := x }]

def form : Form Timing := Record forms {}

theorem fields_read : ∀ p ∈ fields.zip forms, p.1.Reads p.2 := by
  simp only [fields, forms, List.zip_cons_cons, List.zip_nil_right, List.forall_mem_cons]
  refine ⟨?_, ?_, ?_, ?_, ?_, ?_, ?_, ?_, by simp⟩ <;> exact reads_word32.field _ _

theorem reads : Reads read form :=
  reads_record fields_read (by decide) {}

theorem written_members (t : Timing) :
    ∃ changes, Written forms t.members changes ∧ changed {} (changes.map Prod.snd) = t := by
  refine ⟨_, .cons (FieldForm.of_append (word32_printNat t.masterClockNtsc) _ _) <|
    .cons (FieldForm.of_append (word32_printNat t.masterClockPal) _ _) <|
    .cons (FieldForm.of_append (word32_printNat t.frameRateNtsc) _ _) <|
    .cons (FieldForm.of_append (word32_printNat t.frameRatePal) _ _) <|
    .cons (FieldForm.of_append (word32_printNat t.lines) _ _) <|
    .cons (FieldForm.of_append (word32_printNat t.cpuDivider) _ _) <|
    .cons (FieldForm.of_append (word32_printNat t.subCycles) _ _) <|
    .cons (FieldForm.of_append (word32_printNat t.cycleScale) _ _) .nil, ?_⟩
  rfl

theorem form_prettyObject (t : Timing) (depth : Nat) (rest : List Char) :
    form (prettyObject depth t.members ++ rest) t rest := by
  obtain ⟨changes, written, all⟩ := written_members t
  have record := record_prettyObject (by decide) written (by decide) {} depth rest
  rwa [all] at record

theorem not_form_null {s t : List Char} {x : Timing} : ¬ form ('n' :: s) x t := by
  rintro ⟨⟩

end Timing

namespace Configuration

def forms : List (FieldForm Configuration) :=
  [.of "pal" Boolean fun c x => { c with pal := x },
   .of "japanese" Boolean fun c x => { c with japanese := x },
   .of "rom_writeable" Boolean fun c x => { c with romWriteable := x },
   .of "timing" (Nullable Timing.form) fun c x => { c with timing := x }]

def Describes (text : String) (c : Configuration) : Prop :=
  Document (Record forms {}) text.toList c

theorem fields_read : ∀ p ∈ fields.zip forms, p.1.Reads p.2 := by
  simp only [fields, forms, List.zip_cons_cons, List.zip_nil_right, List.forall_mem_cons]
  exact ⟨reads_boolean.field _ _, reads_boolean.field _ _, reads_boolean.field _ _,
    (Timing.reads.nullable Timing.not_form_null).field _ _, by simp⟩

theorem reads : Reads read (Record forms {}) :=
  reads_record fields_read (by decide) {}

theorem parse_eq_ok_iff {text : String} {c : Configuration} :
    parse text = .ok c ↔ Describes text c :=
  document_eq_ok_iff reads

/-- The members of a configuration, the last of which stands for its timing, if it has one. -/
theorem members_eq (c : Configuration) :
    ∃ timing, c.members =
        [⟨"pal", printBool c.pal⟩, ⟨"japanese", printBool c.japanese⟩,
          ⟨"rom_writeable", printBool c.romWriteable⟩, ⟨"timing", timing⟩] ∧
      ∀ rest, Nullable Timing.form (timing ++ rest) c.timing rest := by
  obtain ⟨pal, japanese, romWriteable, timing⟩ := c
  cases timing with
  | none => exact ⟨_, rfl, nullable_printNull Timing.form⟩
  | some t => exact ⟨_, rfl, fun rest => .value (t.form_prettyObject 1 rest)⟩

theorem written_members (c : Configuration) :
    ∃ changes, Written forms c.members changes ∧ changed {} (changes.map Prod.snd) = c := by
  obtain ⟨text, members, timing⟩ := members_eq c
  rw [members]
  refine ⟨_, .cons (FieldForm.of_append (boolean_printBool c.pal) _ _) <|
    .cons (FieldForm.of_append (boolean_printBool c.japanese) _ _) <|
    .cons (FieldForm.of_append (boolean_printBool c.romWriteable) _ _) <|
    .cons (FieldForm.of_append timing _ _) .nil, ?_⟩
  rfl

/-- The printed text of a configuration describes it, with any blanks behind it. -/
theorem describes_print (c : Configuration) {blank : String}
    (blanks : ∀ x ∈ blank.toList, isSpace x) : Describes (c.print ++ blank) c := by
  obtain ⟨changes, written, all⟩ := written_members c
  have record := record_prettyObject (by decide) written (by decide) {} 0 blank.toList
  rw [all] at record
  have ends : Blanks blank.toList [] := by simpa using blanks_append blanks []
  refine ⟨blank.toList, ⟨_, .none, ?_⟩, ends⟩
  simpa [print] using record

theorem parse_print (c : Configuration) : parse c.print = .ok c := by
  have described : Describes (c.print ++ "") c := describes_print c (by simp)
  rw [String.append_empty] at described
  exact parse_eq_ok_iff.2 described

end Configuration
end Genesis
