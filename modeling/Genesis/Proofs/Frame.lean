import Genesis.Frame
import Genesis.Proofs.Configuration
import Genesis.Proofs.Json.Lists

/-!
# The texts of frames

A text is accepted exactly if it describes a frame by the grammar, with none of its fields left out
(`Frame.parse_eq_ok_iff`). What is printed for a frame or a configuration describes it, so reading
gives back what was written (`texts_are_read_back`).
-/

namespace Genesis

open Json

namespace Frame

def forms : List (FieldForm Draft) :=
  [.of "width" Word32 fun d x => { d with width := some x },
   .of "height" Word32 fun d x => { d with height := some x },
   .of "pixels" (ListOf Word32) fun d x => { d with pixels := some x }]

def form : Form Frame := fun s f t => ∃ d, Record forms {} s d t ∧ d.frame? = some f

def Describes (text : String) (f : Frame) : Prop := Document form text.toList f

theorem fields_read : ∀ p ∈ fields.zip forms, p.1.Reads p.2 := by
  simp only [fields, forms, List.zip_cons_cons, List.zip_nil_right, List.forall_mem_cons]
  exact ⟨reads_word32.field _ _, reads_word32.field _ _, (reads_array reads_word32).field _ _,
    by simp⟩

theorem reads_draft : Reads (record fields {}) (Record forms {}) :=
  reads_record fields_read (by decide) {}

theorem visible_form : Visible form where
  starts := by
    rintro s f t ⟨d, record, -⟩
    exact reads_draft.starts record
  shrinks := by
    rintro s f t ⟨d, record, -⟩
    exact reads_draft.shrinks record

theorem reads : Reads read form where
  toVisible := visible_form
  iff {s f t} stops := by
    rw [Frame.read]
    constructor
    · intro ok
      split at ok
      · cases ok
      next d u draft =>
        split at ok
        next g complete =>
          cases ok
          obtain ⟨v, blanks, record⟩ := (reads_draft.iff stops).1 draft
          exact ⟨v, blanks, d, record, complete⟩
        next => cases ok
    · rintro ⟨v, blanks, d, record, complete⟩
      simp only [(reads_draft.iff stops).2 ⟨v, blanks, record⟩, complete]

theorem parse_eq_ok_iff {text : String} {f : Frame} : parse text = .ok f ↔ Describes text f :=
  document_eq_ok_iff reads

theorem written_members (f : Frame) :
    ∃ changes, Written forms
        [⟨"width", printNat f.width.toNat⟩, ⟨"height", printNat f.height.toNat⟩,
          ⟨"pixels", compactList (f.pixels.toList.map fun p => printNat p.toNat)⟩] changes ∧
      changed {} (changes.map Prod.snd) = ⟨some f.width, some f.height, some f.pixels⟩ := by
  have pixels := listOf_compactList word32_printNat f.pixels
  refine ⟨_, .cons (FieldForm.of_append (word32_printNat f.width) _ _) <|
    .cons (FieldForm.of_append (word32_printNat f.height) _ _) <|
    .cons (FieldForm.of_append pixels _ _) .nil, ?_⟩
  rfl

/-- The printed text of a frame describes it, whatever the number of its pixels is. -/
theorem describes_print (f : Frame) : Describes f.print f := by
  obtain ⟨changes, written, all⟩ := written_members f
  have record := record_compactObject (by decide) written (by decide) {} []
  rw [all, List.append_nil] at record
  refine ⟨[], ⟨_, .none, ⟨some f.width, some f.height, some f.pixels⟩, ?_, rfl⟩, .none⟩
  rwa [print, String.toList_ofList]

end Frame

/-- What is printed for a configuration or a frame describes it, and reading it gives it back. -/
theorem texts_are_read_back :
    (∀ c : Configuration, Configuration.Describes c.print c ∧ Configuration.parse c.print = .ok c) ∧
      ∀ f : Frame, Frame.Describes f.print f ∧ Frame.parse f.print = .ok f := by
  refine ⟨fun c => ?_, fun f => ?_⟩
  · have read := Configuration.parse_print c
    exact ⟨Configuration.parse_eq_ok_iff.1 read, read⟩
  · have described := Frame.describes_print f
    exact ⟨described, Frame.parse_eq_ok_iff.2 described⟩

end Genesis
