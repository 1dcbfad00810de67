import Genesis.Json.Printer
import Genesis.Json.Reader
import Genesis.Scanline

/-!
# Frames

A frame is a width, a height and a list of pixels, row by row. A frame that comes from a text may
have fewer or more pixels than its size asks for; copying a row into it fails if the row does not
fit.
-/

namespace Genesis

structure Frame where
  width : UInt32
  height : UInt32
  pixels : Array UInt32
deriving DecidableEq

namespace Frame

def blank (width height : UInt32) : Frame where
  width := width
  height := height
  pixels := Array.replicate (width.toNat * height.toNat) 0

/-- Replace `n` pixels from `start` on by the first pixels of a row. -/
def overwrite (row : Array UInt32) (start : Nat) : Nat → Array UInt32 → Array UInt32
  | 0, pixels => pixels
  | n + 1, pixels => overwrite row start n (pixels.setIfInBounds (start + n) (row.getD n 0))

/-- Copy a row into the frame, clipped to the frame's width. Rows outside the frame are ignored;
`none` if the frame has too few pixels for the row. -/
def blit? (f : Frame) (line : UInt32) (row : Array UInt32) : Option Frame :=
  if line < f.height then
    let start := line.toNat * f.width.toNat
    let length := min row.size f.width.toNat
    if start + length ≤ f.pixels.size then
      let ⟨width, height, pixels⟩ := f
      some ⟨width, height, overwrite row start length pixels⟩
    else none
  else some f

structure Draft where
  width : Option UInt32 := none
  height : Option UInt32 := none
  pixels : Option (Array UInt32) := none

def Draft.frame? (d : Draft) : Option Frame := do
  let width ← d.width
  let height ← d.height
  let pixels ← d.pixels
  return { width, height, pixels }

def fields : List (Json.Field Draft) :=
  [.of "width" Json.word32 fun d x => { d with width := some x },
   .of "height" Json.word32 fun d x => { d with height := some x },
   .of "pixels" (Json.array Json.word32) fun d x => { d with pixels := some x }]

/-- Read a frame; no field may be missing. -/
def read (s : List Char) : Except Json.Fault (Frame × List Char) :=
  match Json.record fields {} s with
  | .error f => .error f
  | .ok (d, s) =>
    match d.frame? with
    | some f => .ok (f, s)
    | none => .error .mismatched

def parse (text : String) : Except Json.Fault Frame := Json.document read text.toList

/-- The text of a frame, without blanks. -/
def print (f : Frame) : String :=
  String.ofList <| Json.compactObject
    [⟨"width", Json.printNat f.width.toNat⟩,
     ⟨"height", Json.printNat f.height.toNat⟩,
     ⟨"pixels", Json.compactList (f.pixels.toList.map fun p => Json.printNat p.toNat)⟩]

@[simp] theorem size_overwrite (row : Array UInt32) (start n : Nat) (pixels : Array UInt32) :
    (overwrite row start n pixels).size = pixels.size := by
  induction n generalizing pixels with
  | zero => rfl
  | succ n ih => simp [overwrite, ih]

end Frame

/-- A frame that is being put together from lines. -/
inductive Picture where
  /-- No line has arrived. -/
  | empty
  | frame (f : Frame)
  /-- A line did not fit. -/
  | overrun
deriving DecidableEq

namespace Picture

/-- Add a line; the first one fixes the size of the frame. -/
def add (s : Scanline) : Picture → Picture
  | overrun => overrun
  | empty =>
    match (Frame.blank s.width.toUInt32 s.height.toUInt32).blit? s.line.toUInt32 s.pixels with
    | some f => frame f
    | none => overrun
  | frame f =>
    match f.blit? s.line.toUInt32 s.pixels with
    | some f => frame f
    | none => overrun

def frame? : Picture → Option Frame
  | overrun => none
  | empty => some (Frame.blank 320 224)
  | frame f => some f

end Picture
end Genesis
