import Genesis.Proofs.Guarded.Picture

/-!
# Rows of a frame

A row is copied into a frame up to the width of the frame, and ignored below its last line. The copy
fails just if the pixels end before the copied row does, which a frame that was read from a text may
cause; it replaces the row and nothing else (`blit_replaces_one_row`). A frame with all its pixels
keeps them, so no row fails in it.
-/

namespace Genesis
namespace Frame

/-- One row has been copied into a frame, as far as the width goes, and nothing else has changed. -/
structure Takes (f : Frame) (line : UInt32) (row : Array UInt32) (g : Frame) : Prop where
  width : g.width = f.width
  height : g.height = f.height
  size : g.pixels.size = f.pixels.size
  copied : ∀ i < min row.size f.width.toNat,
    g.pixels[line.toNat * f.width.toNat + i]? = row[i]?
  kept : ∀ i, ¬ (line.toNat * f.width.toNat ≤ i ∧
      i < line.toNat * f.width.toNat + min row.size f.width.toNat) →
    g.pixels[i]? = f.pixels[i]?

section Blit

variable {f g : Frame} {line : UInt32} {row : Array UInt32}

theorem takes_overwrite
    (fits : line.toNat * f.width.toNat + min row.size f.width.toNat ≤ f.pixels.size) :
    f.Takes line row { f with
      pixels :=
        overwrite row (line.toNat * f.width.toNat) (min row.size f.width.toNat) f.pixels } where
  width := rfl
  height := rfl
  size := size_overwrite _ _ _ _
  copied i inside := by
    have hit : line.toNat * f.width.toNat ≤ line.toNat * f.width.toNat + i ∧
        line.toNat * f.width.toNat + i <
          line.toNat * f.width.toNat + min row.size f.width.toNat ∧
        line.toNat * f.width.toNat + i < f.pixels.size := by omega
    have there : i < row.size := by omega
    rw [getElem?_overwrite, if_pos hit, Nat.add_sub_cancel_left]
    simp [there]
  kept i outside := by
    rw [getElem?_overwrite, if_neg fun hit => outside ⟨hit.1, hit.2.1⟩]

theorem blit?_eq_none_iff (inside : line < f.height) : f.blit? line row = none ↔
    f.pixels.size < line.toNat * f.width.toNat + min row.size f.width.toNat := by
  by_cases fits : line.toNat * f.width.toNat + min row.size f.width.toNat ≤ f.pixels.size
  · simp [blit?_of_fits inside fits, fits]
  · simp [blit?_of_short inside fits, Nat.lt_of_not_le fits]

theorem takes_of_blit? (inside : line < f.height) (done : f.blit? line row = some g) :
    f.Takes line row g := by
  by_cases fits : line.toNat * f.width.toNat + min row.size f.width.toNat ≤ f.pixels.size
  · rw [blit?_of_fits inside fits] at done
    exact Option.some.inj done ▸ takes_overwrite fits
  · rw [blit?_of_short inside fits] at done
    cases done

end Blit

def blitAll? (f : Frame) : List (UInt32 × Array UInt32) → Option Frame
  | [] => some f
  | (line, row) :: rows => (f.blit? line row).bind fun g => g.blitAll? rows

theorem Filled.blitAll? {width height : UInt32} {f : Frame} (filled : Filled width height f)
    (rows : List (UInt32 × Array UInt32)) :
    ∃ g, f.blitAll? rows = some g ∧ Filled width height g := by
  induction rows generalizing f with
  | nil => exact ⟨f, rfl, filled⟩
  | cons row rows ih =>
    obtain ⟨next, copied, filled⟩ := filled.blit? row.1 row.2
    obtain ⟨g, rest, filled⟩ := ih filled
    refine ⟨g, ?_, filled⟩
    rw [Frame.blitAll?, copied]
    exact rest

/-- Under guard the rows are copied as well, as long as the area is a number of 32 bits. -/
theorem Filled.foldlM_blit {width height : UInt32}
    (area : width.toNat * height.toNat < 4294967296) {f g : Frame} (filled : Filled width height f)
    {rows : List (UInt32 × Array UInt32)} (copied : f.blitAll? rows = some g) :
    rows.foldlM (fun f row => Guarded.blit f row.1 row.2) f = .ok g := by
  induction rows generalizing f with
  | nil => exact congrArg Except.ok (Option.some.inj copied)
  | cons row rows ih =>
    obtain ⟨next, first, full⟩ := filled.blit? row.1 row.2
    have checked := Guarded.blit_eq_of_area (filled.wide ▸ filled.high ▸ area) row.1 row.2
    rw [first] at checked
    rw [Frame.blitAll?, first] at copied
    rw [List.foldlM_cons, checked]
    exact ih full copied

/-- Copying a row into a frame whose area is a number of 32 bits, with however many pixels: below
the frame nothing happens; within it the copy fails exactly if the pixels end before the clipped row
does, and otherwise replaces this row alone. The place of the row is worked out in 32 bits without
an overflow, so the missing pixels are the only fault. In a frame made blank and then given any
rows, none fails. -/
theorem blit_replaces_one_row :
    (∀ (f : Frame) (line : UInt32) (row : Array UInt32),
      f.width.toNat * f.height.toNat < 4294967296 →
      let start := line.toNat * f.width.toNat
      let length := min row.size f.width.toNat
      (f.height ≤ line → f.blit? line row = some f) ∧
      (line < f.height →
        (f.blit? line row = none ↔ f.pixels.size < start + length) ∧
        ∀ g, f.blit? line row = some g → f.Takes line row g) ∧
      Guarded.blit f line row =
        (f.blit? line row).elim (.error (.outOfBounds (start + length) f.pixels.size)) .ok) ∧
    ∀ width height : UInt32, width.toNat * height.toNat < 4294967296 →
      Guarded.blank width height = .ok (blank width height) ∧
      ∀ rows, ∃ g, (blank width height).blitAll? rows = some g ∧ Filled width height g ∧
        rows.foldlM (fun f row => Guarded.blit f row.1 row.2) (blank width height) = .ok g := by
  refine ⟨fun f line row area => ⟨fun below => ?_, fun inside => ⟨?_, fun g done => ?_⟩, ?_⟩,
    fun width height area => ⟨?_, fun rows => ?_⟩⟩
  · exact blit?_of_below row (UInt32.not_lt.2 below)
  · exact blit?_eq_none_iff inside
  · exact takes_of_blit? inside done
  · exact Guarded.blit_eq_of_area area line row
  · exact Guarded.blank_eq area
  · obtain ⟨g, copied, filled⟩ := (Filled.blank width height).blitAll? rows
    exact ⟨g, copied, filled, (Filled.blank width height).foldlM_blit area copied⟩

/-- The last row of three by two pixels, of which one is missing, takes two pixels and not three; a
blank frame of this size takes any rows. -/
theorem blit_replaces_one_row_of_short_frame :
    let f : Frame := { width := 3, height := 2, pixels := #[1, 2, 3, 4, 5] }
    f.width.toNat * f.height.toNat < 4294967296 ∧ (1 : UInt32) < f.height ∧
      f.blit? 1 #[7, 8, 9, 10] = none ∧
      f.Takes 1 #[7, 8] { f with pixels := #[1, 2, 3, 7, 8] } ∧
      f.blit? 2 #[7, 8] = some f ∧
      ∃ g, (blank 3 2).blitAll? [(1, #[7, 8, 9, 10]), (5, #[]), (0, #[])] = some g := by
  intro f
  have area : f.width.toNat * f.height.toNat < 4294967296 := by decide
  have inside : (1 : UInt32) < f.height := by decide
  obtain ⟨rows, frames⟩ := blit_replaces_one_row
  obtain ⟨-, within, -⟩ := rows f 1 #[7, 8, 9, 10] area
  obtain ⟨-, short, -⟩ := rows f 1 #[7, 8] area
  obtain ⟨below, -, -⟩ := rows f 2 #[7, 8] area
  obtain ⟨g, copied, -⟩ := (frames 3 2 (by decide)).2 [(1, #[7, 8, 9, 10]), (5, #[]), (0, #[])]
  exact ⟨area, inside, (within inside).1.2 (by decide), (short inside).2 _ (by decide),
    below (by decide), g, copied⟩

end Frame
end Genesis
