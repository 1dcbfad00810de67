/-!
# Rendered lines

A pixel is a 32-bit number: alpha, red, green and blue, eight bits each from the top.
-/

namespace Genesis

/-- A line as the video unit hands it out, with the size of the picture that it belongs to. -/
structure Scanline where
  line : UInt16
  pixels : Array UInt32
  width : UInt16
  height : UInt16
deriving DecidableEq

end Genesis
