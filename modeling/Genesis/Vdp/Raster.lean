import Genesis.Vdp.Ports

/-!
# Rendering

Every line is one colour: black while the display is off, otherwise the backdrop that register 7
selects. The last line of the picture starts the vertical blank.
-/

namespace Genesis
namespace Vdp

/-- Three bits of a colour entry spread over a byte. -/
def channel (bits : UInt16) : UInt32 := ((bits &&& 0x0E).toUInt32 >>> 1) * 255 / 7

/-- An opaque pixel from a colour entry: blue, green and red in the nibbles from the top. -/
def pixelOf (colour : UInt16) : UInt32 :=
  let red : UInt32 := channel colour <<< 16
  let green : UInt32 := channel (colour >>> 4) <<< 8
  let blue : UInt32 := channel (colour >>> 8)
  0xFF000000 ||| red ||| green ||| blue

/-- The colour of every pixel of the next line. -/
def backdrop (v : Vdp) : UInt32 :=
  if v.displayEnabled then pixelOf (v.cram.get v.backdropEntry)
  else 0xFF000000

def scanline (line : UInt16) (v : Vdp) : Scanline where
  line := line
  pixels := Array.replicate v.lineWidth.toNat v.backdrop
  width := v.lineWidth
  height := screenHeight

/-- The state after a line has been rendered. -/
def afterLine (line : UInt16) (v : Vdp) : Vdp :=
  if line + 1 = screenHeight then { v with inBlank := true, framePending := true }
  else { v with inBlank := false }

instance : VideoUnit Vdp where
  powerOn _ := ⟨initial, []⟩
  readData := readData
  writeData := writeData
  readStatus := readStatus
  writeControl := writeControl
  render line v := ([.scanline (v.scanline line)], v.afterLine line)
  lineInterruptEnabled := lineInterruptEnabled
  frameInterruptEnabled := frameInterruptEnabled

end Vdp
end Genesis
