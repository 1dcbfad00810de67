import Genesis.Proofs.Guarded.Vdp
import Genesis.Proofs.Picture

/-!
# Pictures under guard

The size of a frame, the place of a row in it and the end of the row are worked out with checked
arithmetic. The first line fixes a frame of the screen's size (`Frame.OfScreen`), and every line of
the screen fits into such a frame.
-/

namespace Genesis
namespace Guarded

section Frames

def blank (width height : UInt32) : Guarded Frame := do
  let area ← mul width height
  return { width, height, pixels := Array.replicate area.toNat 0 }

def blit (f : Frame) (line : UInt32) (row : Array UInt32) : Guarded Frame :=
  if line < f.height then do
    let start ← mul line f.width
    let length := min row.size f.width.toNat
    let stop ← count (start.toNat + length)
    range stop f.pixels.size
    range length row.size
    return { f with pixels := Frame.overwrite row start.toNat length f.pixels }
  else return f

def addLine (s : Scanline) : Picture → Guarded Picture
  | .overrun => .error .lostLine
  | .empty => do
    let f ← blank s.width.toUInt32 s.height.toUInt32
    return .frame (← blit f s.line.toUInt32 s.pixels)
  | .frame f => do return .frame (← blit f s.line.toUInt32 s.pixels)

def finish : Picture → Guarded Frame
  | .overrun => .error .lostLine
  | .empty => blank 320 224
  | .frame f => return f

end Frames

end Guarded

/-- A frame of the screen's height, not wider than the screen, with all its pixels. -/
structure Frame.OfScreen (f : Frame) : Prop where
  width : f.width.toNat ≤ 320
  height : f.height.toNat = 224
  size : f.pixels.size = f.width.toNat * f.height.toNat

namespace Frame.OfScreen

variable {f : Frame} (screen : f.OfScreen)

include screen

theorem size_le : f.pixels.size ≤ 320 * 224 := by
  rw [screen.size, screen.height]
  exact Nat.mul_le_mul_right 224 screen.width

end Frame.OfScreen

def Picture.OfScreen : Picture → Prop
  | .empty => True
  | .frame f => f.OfScreen
  | .overrun => False

namespace Guarded

theorem blank_eq {width height : UInt32} (h : width.toNat * height.toNat < 4294967296) :
    blank width height = .ok (Frame.blank width height) := by
  have area : (width * height).toNat = width.toNat * height.toNat := by
    rw [UInt32.toNat_mul]
    exact Nat.mod_eq_of_lt h
  rw [blank, mul_of_lt h, ok_bind, area]
  rfl

theorem blank_ofScreen {width height : UInt32} (narrow : width.toNat ≤ 320)
    (high : height.toNat = 224) : (Frame.blank width height).OfScreen where
  width := narrow
  height := high
  size := Array.size_replicate

/-- If the area of a frame is a number of 32 bits, so is the place of every row; all that can be
missing are the pixels. -/
theorem blit_eq_of_area {f : Frame} (area : f.width.toNat * f.height.toNat < 4294967296)
    (line : UInt32) (row : Array UInt32) :
    blit f line row = (f.blit? line row).elim
      (.error (.outOfBounds (line.toNat * f.width.toNat + min row.size f.width.toNat)
        f.pixels.size)) .ok := by
  by_cases inside : line < f.height
  · have end_le := Frame.row_le_area inside
    have clipped : min row.size f.width.toNat ≤ f.width.toNat := Nat.min_le_right _ _
    have product : line.toNat * f.width.toNat < 4294967296 := by omega
    have start : (line * f.width).toNat = line.toNat * f.width.toNat := by
      rw [UInt32.toNat_mul]
      exact Nat.mod_eq_of_lt product
    rw [blit, if_pos inside, mul_of_lt product, ok_bind, start]
    dsimp only
    rw [count_of_lt (by omega), ok_bind]
    by_cases fits : line.toNat * f.width.toNat + min row.size f.width.toNat ≤ f.pixels.size
    · rw [Frame.blit?_of_fits inside fits, range_of_le fits, ok_bind,
        range_of_le (Nat.min_le_left _ _)]
      rfl
    · rw [Frame.blit?_of_short inside fits, range, require, if_neg fits]
      rfl
  · rw [blit, if_neg inside, Frame.blit?_of_below row inside]
    rfl

theorem blit_eq {f : Frame} (screen : f.OfScreen) (line : UInt32) (row : Array UInt32) :
    ∃ g, blit f line row = .ok g ∧ f.blit? line row = some g ∧ g.OfScreen := by
  have area : f.width.toNat * f.height.toNat < 4294967296 := by
    rw [← screen.size]
    exact Nat.lt_of_le_of_lt screen.size_le (by decide)
  have filled : Frame.Filled f.width f.height f := ⟨rfl, rfl, screen.size⟩
  obtain ⟨g, copied, wide, high, size⟩ := filled.blit? line row
  have checked := blit_eq_of_area area line row
  rw [copied] at checked
  refine ⟨g, checked, copied, wide ▸ screen.width, high ▸ screen.height, ?_⟩
  rw [wide, high, size]

theorem addLine_eq {s : Scanline} (narrow : s.width.toNat ≤ 320) (high : s.height.toNat = 224)
    {p : Picture} (screen : p.OfScreen) :
    addLine s p = .ok (p.add s) ∧ (p.add s).OfScreen := by
  cases p with
  | overrun => exact screen.elim
  | empty =>
    have area : s.width.toUInt32.toNat * s.height.toUInt32.toNat < 4294967296 := by
      rw [UInt16.toNat_toUInt32, UInt16.toNat_toUInt32, high]
      omega
    have new : (Frame.blank s.width.toUInt32 s.height.toUInt32).OfScreen :=
      blank_ofScreen (Nat.le_trans (Nat.le_of_eq (UInt16.toNat_toUInt32 s.width)) narrow)
        ((UInt16.toNat_toUInt32 s.height).trans high)
    obtain ⟨g, checked, copied, screen⟩ := blit_eq new s.line.toUInt32 s.pixels
    simp only [addLine, blank_eq area, ok_bind, checked, Picture.add, copied]
    exact ⟨rfl, screen⟩
  | frame f =>
    obtain ⟨g, checked, copied, screen⟩ := blit_eq screen s.line.toUInt32 s.pixels
    simp only [addLine, ok_bind, checked, Picture.add, copied]
    exact ⟨rfl, screen⟩

theorem finish_eq {p : Picture} (screen : p.OfScreen) :
    ∃ f, finish p = .ok f ∧ p.frame? = some f := by
  cases p with
  | overrun => exact screen.elim
  | empty => exact ⟨Frame.blank 320 224, blank_eq (by decide), rfl⟩
  | frame f => exact ⟨f, rfl, rfl⟩

end Guarded
end Genesis
