import Genesis.Proofs.Vdp.Store

/-!
# Lines through a buffer

A line is one colour from end to end (`Vdp.ShowsLine`), and registers 1, 7 and 12 with one colour
entry decide all of it (`Vdp.SameBackdrop`). A video processor that fills the start of a buffer for
each line, and hands that part out, renders the same lines whatever the buffer holds: neither the
rest of a longer line nor anything older gets into a line (`BufferedVdp.render_eq`).
-/

namespace Genesis

namespace Vdp

/-- The line that is handed out for number `k` if the rendering finds the state `v`. -/
structure ShowsLine (v : Vdp) (k : Nat) (s : Scanline) : Prop where
  line : s.line.toNat = k
  height : s.height = 224
  width : s.width = if (v.register 12).testBit 0 then 320 else 256
  pixels : ∃ colour : UInt32, s.pixels = Array.replicate s.width.toNat colour ∧
    colour.toNat / 0x1000000 = 0xFF ∧
    colour =
      if (v.register 1).testBit 6 then pixelOf (v.cram.get (cramEntry (v.register 7)))
      else 0xFF000000

/-- Two states that have the registers of the backdrop and its colour entry in common. -/
structure SameBackdrop (v w : Vdp) : Prop where
  mode : v.register 1 = w.register 1
  entry : v.register 7 = w.register 7
  width : v.register 12 = w.register 12
  colour : v.cram.get (cramEntry (v.register 7)) = w.cram.get (cramEntry (v.register 7))

variable (v : Vdp)

theorem lineWidth_eq : v.lineWidth = if (v.register 12).testBit 0 then 320 else 256 := by
  have bit : (v.registers.get 12 &&& 0x01 != 0) = (v.register 12).testBit 0 :=
    and_bit_ne_zero (i := 0) (by decide) (v.registers.get 12)
  rw [lineWidth, bit]

theorem displayEnabled_eq : v.displayEnabled = (v.register 1).testBit 6 :=
  and_bit_ne_zero (i := 6) (by decide) (v.registers.get 1)

theorem toNat_lineWidth_le : v.lineWidth.toNat ≤ 320 := by
  rw [lineWidth_eq]
  split <;> decide

theorem backdrop_eq : v.backdrop =
    if (v.register 1).testBit 6 then pixelOf (v.cram.get (cramEntry (v.register 7)))
    else 0xFF000000 := by
  rw [backdrop, displayEnabled_eq]
  rfl

/-- Whatever is added to the top byte of an opaque pixel, it stays opaque. -/
theorem opaque_or (colour : UInt32) : (0xFF000000 ||| colour).toNat / 0x1000000 = 0xFF := by
  have below := (0xFF000000 ||| colour).toNat_lt
  have above : 0xFF000000 ≤ (0xFF000000 ||| colour).toNat := by
    rw [UInt32.toNat_or]
    exact Nat.left_le_or
  omega

theorem alpha_backdrop : v.backdrop.toNat / 0x1000000 = 0xFF := by
  unfold backdrop
  split
  · rw [pixelOf, UInt32.or_assoc, UInt32.or_assoc]
    exact opaque_or _
  · rfl

theorem showsLine_scanline {line : UInt16} {k : Nat} (number : line.toNat = k) :
    v.ShowsLine k (v.scanline line) where
  line := number
  height := rfl
  width := v.lineWidth_eq
  pixels := ⟨v.backdrop, rfl, v.alpha_backdrop, v.backdrop_eq⟩

variable {v} {w : Vdp}

theorem SameBackdrop.scanline_eq (same : v.SameBackdrop w) (line : UInt16) :
    v.scanline line = w.scanline line := by
  have widths : v.lineWidth = w.lineWidth := by rw [lineWidth_eq, lineWidth_eq, same.width]
  have colours : v.backdrop = w.backdrop := by
    rw [backdrop_eq, backdrop_eq, ← same.mode, ← same.entry, same.colour]
  rw [scanline, scanline, widths, colours]

end Vdp

/-- Room for the longest line. -/
abbrev LineBuffer := Bank UInt32 320

namespace LineBuffer

def paint (colour : UInt32) : Nat → LineBuffer → LineBuffer
  | 0, b => b
  | n + 1, b => (paint colour n b).put? n colour

/-- The first `n` pixels. -/
def slice (n : Nat) (b : LineBuffer) : Array UInt32 := b.cells.toArray.extract 0 n

theorem get_paint (colour : UInt32) (n : Nat) (b : LineBuffer) (i : Fin 320) :
    (paint colour n b).get i = if i.1 < n then colour else b.get i := by
  induction n with
  | zero => rfl
  | succ n ih =>
    rw [paint, Bank.put?]
    split
    · rw [Bank.get_put, ih]
      grind
    · grind

/-- Nothing of what the buffer held before is left in the part that has been overwritten. -/
theorem slice_paint (colour : UInt32) {n : Nat} (fits : n ≤ 320) (b : LineBuffer) :
    slice n (paint colour n b) = Array.replicate n colour := by
  apply Array.ext
  · simp [slice, fits]
  · intro i inside _
    have short : i < n := by simpa [slice, fits] using inside
    have painted := get_paint colour n b ⟨i, by omega⟩
    rw [if_pos short] at painted
    simpa [slice, Bank.get] using painted

end LineBuffer

/-- A video processor with the buffer that its lines go through. -/
structure BufferedVdp where
  vdp : Vdp
  buffer : LineBuffer := Bank.fill 320 0

namespace BufferedVdp

/-- Fill the buffer as far as the line reaches and hand out that part. The buffer keeps the rest,
and the next line finds it. -/
def render (line : UInt16) (b : BufferedVdp) : List VideoOutput × BufferedVdp :=
  let width := b.vdp.lineWidth
  let buffer := b.buffer.paint b.vdp.backdrop width.toNat
  let pixels := buffer.slice width.toNat
  ([.scanline { line, pixels, width, height := Vdp.screenHeight }], ⟨b.vdp.afterLine line, buffer⟩)

/-- The ports do not reach the buffer, and power-on clears it. -/
instance : VideoUnit BufferedVdp where
  powerOn _ := ⟨{ vdp := Vdp.initial }, []⟩
  readData b :=
    let ⟨(value, vdp), notices⟩ := VideoUnit.readData b.vdp
    ⟨(value, { b with vdp }), notices⟩
  writeData value b :=
    let ⟨vdp, notices⟩ := VideoUnit.writeData value b.vdp
    ⟨{ b with vdp }, notices⟩
  readStatus b :=
    let ⟨(value, vdp), notices⟩ := VideoUnit.readStatus b.vdp
    ⟨(value, { b with vdp }), notices⟩
  writeControl value b := (fun vdp => { b with vdp }) <$> VideoUnit.writeControl value b.vdp
  render := render
  lineInterruptEnabled b := VideoUnit.lineInterruptEnabled b.vdp
  frameInterruptEnabled b := VideoUnit.frameInterruptEnabled b.vdp

theorem render_eq (line : UInt16) (b : BufferedVdp) :
    (VideoUnit.render line b).1 = [.scanline (b.vdp.scanline line)] ∧
      (VideoUnit.render line b).2.vdp = b.vdp.afterLine line := by
  have pixels := LineBuffer.slice_paint b.vdp.backdrop b.vdp.toNat_lineWidth_le b.buffer
  constructor
  · simp only [VideoUnit.render, render, pixels, Vdp.scanline]
  · rfl

end BufferedVdp
end Genesis
