import Genesis.Frame

/-!
# Pictures and the lines they are put together from

The first line fixes the size of the frame. From then on every line fits, whatever its number and
its length: each pixel of the frame shows the last line of its row that is long enough, and is zero
as long as there is none (`Frame.Shows`). So there always is a frame at the end
(`Picture.frame?_ofLines`).
-/

namespace Genesis

/-- What the last of some lines with number `y` and a pixel `x` has there, or zero. -/
def lastPixel (lines : List Scanline) (x y : Nat) : UInt32 :=
  (lines.reverse.findSome? fun s => if s.line.toNat = y then s.pixels[x]? else none).getD 0

theorem lastPixel_append_singleton (lines : List Scanline) (s : Scanline) (x y : Nat) :
    lastPixel (lines ++ [s]) x y =
      if s.line.toNat = y ∧ x < s.pixels.size then s.pixels.getD x 0 else lastPixel lines x y := by
  simp only [lastPixel, List.reverse_append, List.reverse_cons, List.reverse_nil, List.nil_append,
    List.cons_append, List.findSome?_cons]
  by_cases row : s.line.toNat = y
  · by_cases inside : x < s.pixels.size
    · simp [row, inside]
    · simp [row, inside]
  · simp [row]

namespace Frame

theorem getElem?_overwrite (row : Array UInt32) (start n : Nat) (pixels : Array UInt32) (i : Nat) :
    (overwrite row start n pixels)[i]? =
      if start ≤ i ∧ i < start + n ∧ i < pixels.size then some (row.getD (i - start) 0)
      else pixels[i]? := by
  induction n generalizing pixels with
  | zero =>
    have none : ¬ (start ≤ i ∧ i < start + 0 ∧ i < pixels.size) := by omega
    rw [overwrite, if_neg none]
  | succ n ih =>
    rw [overwrite, ih, Array.size_setIfInBounds, Array.getElem?_setIfInBounds]
    by_cases last : start + n = i
    · subst last
      by_cases inside : start + n < pixels.size
      · simp [inside]
      · simp [inside]
    · have same : (start ≤ i ∧ i < start + n ∧ i < pixels.size) ↔
          (start ≤ i ∧ i < start + (n + 1) ∧ i < pixels.size) := by omega
      simp only [last, if_false, same]

section Blit

variable {f : Frame} {line : UInt32} (row : Array UInt32)

theorem blit?_of_below (below : ¬ line < f.height) : f.blit? line row = some f := if_neg below

variable {row} (inside : line < f.height)

include inside

theorem blit?_of_fits
    (fits : line.toNat * f.width.toNat + min row.size f.width.toNat ≤ f.pixels.size) :
    f.blit? line row = some { f with
      pixels :=
        overwrite row (line.toNat * f.width.toNat) (min row.size f.width.toNat) f.pixels } := by
  rw [blit?, if_pos inside]
  exact if_pos fits

theorem blit?_of_short
    (short : ¬ line.toNat * f.width.toNat + min row.size f.width.toNat ≤ f.pixels.size) :
    f.blit? line row = none := by
  rw [blit?, if_pos inside]
  exact if_neg short

end Blit

/-- All pixels are there, and each shows the last line that reaches it. -/
structure Shows (f : Frame) (lines : List Scanline) : Prop where
  size : f.pixels.size = f.width.toNat * f.height.toNat
  pixel : ∀ x y, x < f.width.toNat → y < f.height.toNat →
    f.pixels[y * f.width.toNat + x]? = some (lastPixel lines x y)

theorem index_lt {width height x y : Nat} (hx : x < width) (hy : y < height) :
    y * width + x < width * height := by
  have rows : (y + 1) * width ≤ height * width := Nat.mul_le_mul_right width hy
  rw [Nat.succ_mul, Nat.mul_comm height] at rows
  omega

theorem shows_blank (width height : UInt32) : (blank width height).Shows [] where
  size := Array.size_replicate
  pixel x y hx hy := by
    have inside : y * width.toNat + x < width.toNat * height.toNat := index_lt hx hy
    simp [blank, inside, lastPixel]

theorem row_le_area {f : Frame} {line : UInt32} (inside : line < f.height) :
    line.toNat * f.width.toNat + f.width.toNat ≤ f.width.toNat * f.height.toNat := by
  have below : line.toNat + 1 ≤ f.height.toNat := UInt32.lt_iff_toNat_lt.1 inside
  rw [← Nat.succ_mul, Nat.mul_comm f.width.toNat]
  exact Nat.mul_le_mul_right _ below

theorem row_le {f : Frame} (size : f.pixels.size = f.width.toNat * f.height.toNat) {line : UInt32}
    (inside : line < f.height) :
    line.toNat * f.width.toNat + f.width.toNat ≤ f.pixels.size :=
  size ▸ row_le_area inside

/-- A frame of this size with all its pixels. -/
structure Filled (width height : UInt32) (f : Frame) : Prop where
  wide : f.width = width
  high : f.height = height
  size : f.pixels.size = width.toNat * height.toNat

namespace Filled

variable {width height : UInt32} {f : Frame}

theorem blank (width height : UInt32) : Filled width height (blank width height) :=
  ⟨rfl, rfl, Array.size_replicate⟩

variable (filled : Filled width height f)

include filled

theorem blit? (line : UInt32) (row : Array UInt32) :
    ∃ g, f.blit? line row = some g ∧ Filled width height g := by
  obtain ⟨rfl, rfl, size⟩ := filled
  by_cases inside : line < f.height
  · have fits : line.toNat * f.width.toNat + min row.size f.width.toNat ≤ f.pixels.size :=
      Nat.le_trans (Nat.add_le_add_left (Nat.min_le_right _ _) _) (row_le size inside)
    exact ⟨_, blit?_of_fits inside fits, rfl, rfl, (size_overwrite _ _ _ _).trans size⟩
  · exact ⟨f, blit?_of_below row inside, rfl, rfl, size⟩

end Filled

theorem row_iff (line y : Nat) {width x n : Nat} (hx : x < width) (hn : n ≤ width) :
    (line * width ≤ y * width + x ∧ y * width + x < line * width + n) ↔ line = y ∧ x < n := by
  constructor
  · rintro ⟨low, high⟩
    have same : line = y := by
      rcases Nat.lt_trichotomy line y with above | same | below
      · have := Nat.mul_le_mul_right width (Nat.succ_le_of_lt above)
        rw [Nat.succ_mul] at this
        omega
      · exact same
      · have := Nat.mul_le_mul_right width (Nat.succ_le_of_lt below)
        rw [Nat.succ_mul] at this
        omega
    subst same
    omega
  · rintro ⟨rfl, inside⟩
    omega

theorem Shows.blit {f : Frame} {lines : List Scanline} (shows : f.Shows lines) (s : Scanline) :
    ∃ pixels, f.blit? s.line.toUInt32 s.pixels = some { f with pixels } ∧
      Shows { f with pixels } (lines ++ [s]) := by
  have number : s.line.toUInt32.toNat = s.line.toNat := UInt16.toNat_toUInt32 s.line
  by_cases inside : s.line.toUInt32 < f.height
  · have clipped : min s.pixels.size f.width.toNat ≤ f.width.toNat := Nat.min_le_right _ _
    have stop : s.line.toNat * f.width.toNat + min s.pixels.size f.width.toNat ≤ f.pixels.size :=
      Nat.le_trans (Nat.add_le_add_left clipped _) (number ▸ row_le shows.size inside)
    refine ⟨_, ?_, (size_overwrite s.pixels (s.line.toNat * f.width.toNat)
      (min s.pixels.size f.width.toNat) f.pixels).trans shows.size, ?_⟩
    · simp only [blit?, if_pos inside, number, if_pos stop]
    · intro x y (hx : x < f.width.toNat) (hy : y < f.height.toNat)
      have place : y * f.width.toNat + x < f.pixels.size := shows.size ▸ index_lt hx hy
      have hit : (s.line.toNat * f.width.toNat ≤ y * f.width.toNat + x ∧
          y * f.width.toNat + x <
            s.line.toNat * f.width.toNat + min s.pixels.size f.width.toNat ∧
          y * f.width.toNat + x < f.pixels.size) ↔
          s.line.toNat = y ∧ x < s.pixels.size := by
        have row := row_iff s.line.toNat y hx clipped
        omega
      simp only [getElem?_overwrite, hit, lastPixel_append_singleton, shows.pixel x y hx hy]
      split
      · rename_i reached
        rw [reached.1, Nat.add_sub_cancel_left]
      · rfl
  · refine ⟨f.pixels, if_neg inside, shows.size, fun x y hx hy => ?_⟩
    -- The row of the new line lies below the frame, so it is not the row of the pixel.
    have other : s.line.toNat ≠ y := by
      intro same
      exact inside (UInt32.lt_iff_toNat_lt.2 (number.trans same ▸ hy))
    rw [lastPixel_append_singleton, if_neg fun hit => other hit.1]
    exact shows.pixel x y hx hy

/-- A frame that is put together from some lines: the first of them gives the size, and without any
it is that of a blank screen. -/
structure Assembles (f : Frame) (lines : List Scanline) : Prop extends f.Shows lines where
  width : f.width = (lines.head?.map fun s => s.width.toUInt32).getD 320
  height : f.height = (lines.head?.map fun s => s.height.toUInt32).getD 224

theorem assembles_blank : (blank 320 224).Assembles [] where
  toShows := shows_blank 320 224
  width := rfl
  height := rfl

end Frame

namespace Picture

def ofLines (lines : List Scanline) : Picture := lines.foldl (fun p s => p.add s) empty

theorem ofLines_append_singleton (lines : List Scanline) (s : Scanline) :
    ofLines (lines ++ [s]) = (ofLines lines).add s := by
  simp [ofLines]

theorem add_empty {s : Scanline} {f : Frame}
    (copied : (Frame.blank s.width.toUInt32 s.height.toUInt32).blit? s.line.toUInt32 s.pixels =
      some f) : empty.add s = frame f := by
  simp only [add, copied]

theorem add_frame {s : Scanline} {f f' : Frame}
    (copied : f.blit? s.line.toUInt32 s.pixels = some f') : (frame f).add s = frame f' := by
  simp only [add, copied]

theorem foldl_add {lines : List Scanline} {f : Frame} (some : lines ≠ [])
    (assembles : f.Assembles lines) (more : List Scanline) :
    ∃ f', more.foldl (fun p s => p.add s) (frame f) = frame f' ∧ f'.Assembles (lines ++ more) := by
  induction more generalizing lines f with
  | nil => exact ⟨f, rfl, by simpa using assembles⟩
  | cons s more ih =>
    obtain ⟨pixels, copied, shows⟩ := assembles.toShows.blit s
    have head : (lines ++ [s]).head? = lines.head? := by
      cases lines with
      | nil => exact absurd rfl some
      | cons first lines => rfl
    have longer : Frame.Assembles { f with pixels } (lines ++ [s]) := {
      toShows := shows
      width := head.symm ▸ assembles.width
      height := head.symm ▸ assembles.height }
    obtain ⟨f', added, all⟩ := ih (by simp) longer
    refine ⟨f', ?_, by simpa using all⟩
    rw [List.foldl_cons, add_frame copied, added]

theorem frame?_ofLines (lines : List Scanline) :
    ∃ f, (ofLines lines).frame? = some f ∧ f.Assembles lines := by
  cases lines with
  | nil => exact ⟨Frame.blank 320 224, rfl, Frame.assembles_blank⟩
  | cons s lines =>
    obtain ⟨pixels, copied, shows⟩ :=
      (Frame.shows_blank s.width.toUInt32 s.height.toUInt32).blit s
    have first : Frame.Assembles
        { Frame.blank s.width.toUInt32 s.height.toUInt32 with pixels } [s] :=
      { toShows := shows, width := rfl, height := rfl }
    obtain ⟨f, added, assembles⟩ := foldl_add (List.cons_ne_nil s []) first lines
    refine ⟨f, ?_, assembles⟩
    rw [ofLines, List.foldl_cons, add_empty copied, added]
    rfl

/-- A line that is too long, one that is too short, and one below the frame. -/
example : (ofLines [⟨0, #[1, 2, 3], 2, 2⟩, ⟨1, #[4], 5, 5⟩, ⟨2, #[6, 7], 2, 2⟩]).frame? =
    some ⟨2, 2, #[1, 2, 4, 0]⟩ := by decide

end Picture
end Genesis
