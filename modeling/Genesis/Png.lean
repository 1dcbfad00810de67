import Genesis.Frame
import Genesis.Word

/-!
# PNG pictures

A frame is written with eight bits for each of red, green, blue and alpha. The rows stand unfiltered
in deflate blocks that store their bytes as they are.
-/

namespace Genesis
namespace Png

/-- Four bytes from the most significant one down. -/
def pushWord (b : ByteArray) (w : UInt32) : ByteArray :=
  (((b.push (highByte (highWord w))).push (lowByte (highWord w))).push (highByte (lowWord w))).push
    (lowByte (lowWord w))

/-- Shift bits out of a cyclic redundancy check, adding the polynomial for each one that is set. -/
def shiftOut : Nat → UInt32 → UInt32
  | 0, crc => crc
  | n + 1, crc => shiftOut n (if crc &&& 1 = 1 then (crc >>> 1) ^^^ 0xEDB88320 else crc >>> 1)

def crc32 (b : ByteArray) : UInt32 :=
  ~~~ b.foldl (fun crc x => shiftOut 8 (crc ^^^ x.toUInt32)) 0xFFFFFFFF

/-- The two sums that close a compressed stream. -/
def adler32 (b : ByteArray) : UInt32 :=
  let (low, high) := b.foldl
    (fun (low, high) x =>
      let low := (low + x.toUInt32) % 65521
      (low, (high + low) % 65521))
    ((1, 0) : UInt32 × UInt32)
  (high <<< 16) ||| low

def chunk (type : String) (data : ByteArray) : ByteArray :=
  let body := type.toUTF8 ++ data
  pushWord (pushWord ByteArray.empty data.size.toUInt32 ++ body) (crc32 body)

/-- A stored block of at most 65535 bytes. -/
def storedBlock (isLast : Bool) (data : ByteArray) : ByteArray :=
  let size := data.size.toUInt16
  ByteArray.mk
    #[if isLast then 1 else 0, lowByte size, highByte size, lowByte (~~~ size),
      highByte (~~~ size)] ++
  data

/-- A compressed stream of stored blocks. -/
def stored (data : ByteArray) : ByteArray :=
  let last := (data.size - 1) / 65535
  let blocks := (List.range (last + 1)).foldl
    (fun b i => b ++ storedBlock (i == last) (data.extract (i * 65535) ((i + 1) * 65535)))
    (ByteArray.mk #[0x78, 0x01])
  pushWord blocks (adler32 data)

def pushPixel (b : ByteArray) (p : UInt32) : ByteArray :=
  (((b.push (lowByte (highWord p))).push (highByte (lowWord p))).push (lowByte (lowWord p))).push
    (highByte (highWord p))

def rows (f : Frame) : ByteArray :=
  let width := f.width.toNat
  (List.range f.height.toNat).foldl
    (fun b y => (f.pixels.extract (y * width) ((y + 1) * width)).foldl pushPixel (b.push 0))
    ByteArray.empty

def header (f : Frame) : ByteArray :=
  pushWord (pushWord ByteArray.empty f.width) f.height ++ ByteArray.mk #[8, 6, 0, 0, 0]

def encode (f : Frame) : ByteArray :=
  ByteArray.mk #[0x89, 0x50, 0x4E, 0x47, 0x0D, 0x0A, 0x1A, 0x0A] ++ chunk "IHDR" (header f) ++
    chunk "IDAT" (stored (rows f)) ++ chunk "IEND" ByteArray.empty

end Png
end Genesis
