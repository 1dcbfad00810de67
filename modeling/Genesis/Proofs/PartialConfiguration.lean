import Genesis.Proofs.Configuration
import Genesis.Proofs.Json.Mirror

/-!
# Texts that leave fields out

A text gives some of the fields of a configuration, and some of those of its timing: each at most
once, in any order, with any blanks and unknown keys in between. It is read as the default
configuration with just these fields replaced (`partial_text_overlays_defaults`), so nothing else
about the text matters.
-/

namespace Genesis

open Json

namespace Timing

structure Partial where
  masterClockNtsc : Option UInt32 := none
  masterClockPal : Option UInt32 := none
  frameRateNtsc : Option UInt32 := none
  frameRatePal : Option UInt32 := none
  lines : Option UInt32 := none
  cpuDivider : Option UInt32 := none
  subCycles : Option UInt32 := none
  cycleScale : Option UInt32 := none
deriving DecidableEq

namespace Partial

/-- A timing with these fields replaced. -/
def overlay (p : Partial) (t : Timing) : Timing where
  masterClockNtsc := p.masterClockNtsc.getD t.masterClockNtsc
  masterClockPal := p.masterClockPal.getD t.masterClockPal
  frameRateNtsc := p.frameRateNtsc.getD t.frameRateNtsc
  frameRatePal := p.frameRatePal.getD t.frameRatePal
  lines := p.lines.getD t.lines
  cpuDivider := p.cpuDivider.getD t.cpuDivider
  subCycles := p.subCycles.getD t.subCycles
  cycleScale := p.cycleScale.getD t.cycleScale

def forms : List (FieldForm Partial) :=
  [.of "master_clock_ntsc" Word32 fun p x => { p with masterClockNtsc := some x },
   .of "master_clock_pal" Word32 fun p x => { p with masterClockPal := some x },
   .of "frame_rate_ntsc" Word32 fun p x => { p with frameRateNtsc := some x },
   .of "frame_rate_pal" Word32 fun p x => { p with frameRatePal := some x },
   .of "lines" Word32 fun p x => { p with lines := some x },
   .of "cpu_divider" Word32 fun p x => { p with cpuDivider := some x },
   .of "sub_cycles" Word32 fun p x => { p with subCycles := some x },
   .of "cycle_scale" Word32 fun p x => { p with cycleScale := some x }]

def form : Form Partial := Record forms {}

def fields : List (Json.Field Partial) :=
  [.of "master_clock_ntsc" word32 fun p x => { p with masterClockNtsc := some x },
   .of "master_clock_pal" word32 fun p x => { p with masterClockPal := some x },
   .of "frame_rate_ntsc" word32 fun p x => { p with frameRateNtsc := some x },
   .of "frame_rate_pal" word32 fun p x => { p with frameRatePal := some x },
   .of "lines" word32 fun p x => { p with lines := some x },
   .of "cpu_divider" word32 fun p x => { p with cpuDivider := some x },
   .of "sub_cycles" word32 fun p x => { p with subCycles := some x },
   .of "cycle_scale" word32 fun p x => { p with cycleScale := some x }]

theorem reads : Reads (record fields {}) form := by
  have fine : ∀ p ∈ fields.zip forms, p.1.Reads p.2 := by
    simp only [fields, forms, List.zip_cons_cons, List.zip_nil_right, List.forall_mem_cons]
    refine ⟨?_, ?_, ?_, ?_, ?_, ?_, ?_, ?_, by simp⟩ <;> exact reads_word32.field _ _
  exact reads_record fine (by decide) {}

theorem not_form_null {s t : List Char} {p : Partial} : ¬ form ('n' :: s) p t := by
  rintro ⟨⟩

/-- The texts of a timing are those that give some of its fields, and the others have their
defaults. -/
theorem form_mirrored : Mirrored (fun p t => p.overlay {} = t) form Timing.form := by
  refine .record ?_ rfl
  simp only [forms, Timing.forms, List.forall₂_cons]
  refine ⟨?_, ?_, ?_, ?_, ?_, ?_, ?_, ?_, .nil⟩ <;>
    exact (Mirrored.refl Word32).field (by rintro x _ p _ rfl rfl; rfl) _

end Partial
end Timing

namespace Configuration

structure Partial where
  pal : Option Bool := none
  japanese : Option Bool := none
  romWriteable : Option Bool := none
  timing : Option (Option Timing.Partial) := none
deriving DecidableEq

namespace Partial

/-- A configuration with these fields replaced; the timing that is given replaces fields of the
default timing. -/
def overlay (p : Partial) (c : Configuration) : Configuration where
  pal := p.pal.getD c.pal
  japanese := p.japanese.getD c.japanese
  romWriteable := p.romWriteable.getD c.romWriteable
  timing := (p.timing.map fun q => q.map fun q => q.overlay {}).getD c.timing

def forms : List (FieldForm Partial) :=
  [.of "pal" Boolean fun p x => { p with pal := some x },
   .of "japanese" Boolean fun p x => { p with japanese := some x },
   .of "rom_writeable" Boolean fun p x => { p with romWriteable := some x },
   .of "timing" (Nullable Timing.Partial.form) fun p x => { p with timing := some x }]

def fields : List (Json.Field Partial) :=
  [.of "pal" boolean fun p x => { p with pal := some x },
   .of "japanese" boolean fun p x => { p with japanese := some x },
   .of "rom_writeable" boolean fun p x => { p with romWriteable := some x },
   .of "timing" (optional (record Timing.Partial.fields {})) fun p x => { p with timing := some x }]

theorem reads : Reads (record fields {}) (Record forms {}) := by
  have fine : ∀ p ∈ fields.zip forms, p.1.Reads p.2 := by
    simp only [fields, forms, List.zip_cons_cons, List.zip_nil_right, List.forall_mem_cons]
    exact ⟨reads_boolean.field _ _, reads_boolean.field _ _, reads_boolean.field _ _,
      (Timing.Partial.reads.nullable Timing.Partial.not_form_null).field _ _, by simp⟩
  exact reads_record fine (by decide) {}

theorem record_mirrored :
    Mirrored (fun p c => p.overlay {} = c) (Record forms {}) (Record Configuration.forms {}) := by
  refine .record ?_ rfl
  simp only [forms, Configuration.forms, List.forall₂_cons]
  refine ⟨?pal, ?japanese, ?romWriteable, ?timing, .nil⟩
  case timing =>
    -- a timing that is given starts from the default one, so what was read before it is no matter
    refine Timing.Partial.form_mirrored.nullable.field ?_ _
    rintro _ _ p _ alike rfl
    cases alike with
    | none => rfl
    | some alike => cases alike; rfl
  all_goals exact (Mirrored.refl Boolean).field (by rintro x _ p _ rfl rfl; rfl) _

end Partial

def Gives (text : String) (p : Partial) : Prop :=
  Document (Record Partial.forms {}) text.toList p

theorem gives_iff {text : String} {p : Partial} :
    Gives text p ↔ document (record Partial.fields {}) text.toList = .ok p :=
  (document_eq_ok_iff Partial.reads).symm

/-- The texts of a configuration are those that give some of its fields, and the others have their
defaults. -/
theorem describes_iff {text : String} {c : Configuration} :
    Describes text c ↔ ∃ p, Gives text p ∧ p.overlay {} = c :=
  Partial.record_mirrored.document_iff

/-- A text that gives some fields is read as the default configuration with these fields replaced,
and so is any other text that gives the same. No other text is accepted. -/
theorem partial_text_overlays_defaults (text : String) :
    (∀ p, Gives text p → parse text = .ok (p.overlay {}) ∧
      ∀ other, Gives other p → parse other = parse text) ∧
    ∀ c, parse text = .ok c → ∃ p, Gives text p ∧ p.overlay {} = c := by
  have read {text : String} {p : Partial} (gives : Gives text p) :
      parse text = .ok (p.overlay {}) :=
    parse_eq_ok_iff.2 (describes_iff.2 ⟨p, gives, rfl⟩)
  refine ⟨fun p gives => ⟨read gives, fun other gives' => ?_⟩, fun c accepted => ?_⟩
  · rw [read gives, read gives']
  · exact describes_iff.1 (parse_eq_ok_iff.1 accepted)

/-- Two fields of the timing and one of the configuration, the last of them first, an escape in a
known key and a number out of range, a lone surrogate and nested values under unknown ones. -/
theorem partial_text_overlays_defaults_among_unknown_keys :
    let text := "\x7b\"x\": [1e999, \x7b\"y\": null\x7d],\n\"timing\" :\t\x7b \"cycle_scale\":0, \"\": " ++
      "\"\\ud800\" , \"lines\": 4294967295\x7d, \"x\": [], \"pa\\u006c\":true \x7d\n"
    let p : Partial :=
      { pal := some true, timing := some (some { lines := some 4294967295, cycleScale := some 0 }) }
    Gives text p ∧ parse text = .ok
      { pal := true, timing := some { lines := 4294967295, cycleScale := 0 } } := by
  intro text p
  -- that the text gives these fields is decided by a reader that records which fields it has met
  have read : (document (record Partial.fields {}) text.toList).toOption = some p := by
    decide +kernel
  have gives : Gives text p := by
    rw [gives_iff]
    cases result : document (record Partial.fields {}) text.toList with
    | error f =>
      rw [result] at read
      cases read
    | ok q =>
      rw [result] at read
      rw [Option.some.inj read]
  exact ⟨gives, ((partial_text_overlays_defaults text).1 p gives).1⟩

end Configuration
end Genesis
