import Genesis.Vdp.Basic
import Genesis.VideoUnit

/-!
# The ports of the video processor

A control word is a register write or half a command, depending on the latch. Data words go to the
memory that the command selects. Completing a command can start a transfer.
-/

namespace Genesis
namespace Vdp

open VideoProgram

def store (value : UInt16) (v : Vdp) : Vdp :=
  match writeStore? v.code with
  | some .vram =>
    { v with
      vram := (v.vram.write v.address (highByte value)).write (v.address ^^^ 1) (lowByte value)
      }.advance
  | some .cram =>
    { v with cram := v.cram.put (cramIndex v.address) (value &&& 0x0EEE) }.advance
  | some .vsram =>
    { v with vsram := v.vsram.put? (vsramIndex v.address) (value &&& 0x07FF) }.advance
  | none => v.advance

def storeNotices (v : Vdp) : List Notice :=
  if (writeStore? v.code).isNone then [.storeWithReadCode (v.code &&& 0x0F)] else []

/-- The word that the data port shows. -/
def load (v : Vdp) : UInt16 :=
  match readStore? v.code with
  | some .vram => wordOf (v.vram.read (v.address &&& 0xFFFE)) (v.vram.read (v.address ||| 1))
  | some .cram => v.cram.get (cramIndex v.address)
  | some .vsram => (v.vsram.get? (vsramIndex v.address)).getD 0
  | none => 0

def loadNotices (v : Vdp) : List Notice :=
  if (readStore? v.code).isNone then [.loadWithWriteCode (v.code &&& 0x0F)] else []

def readData (v : Vdp) : Reported (UInt16 × Vdp) :=
  ⟨(v.load, { v with latched := false }.advance), v.loadNotices⟩

/-- Write the same byte again and again. -/
def repeatByte (x : UInt8) : Nat → Vdp → Vdp
  | 0, v => v
  | n + 1, v => repeatByte x n { v with vram := v.vram.write v.address x }.advance

/-- Store a word, then repeat its high byte over the length of the transfer. -/
def fill (value : UInt16) (v : Vdp) : Vdp :=
  let v := store value { v with fillArmed := false }
  repeatByte (highByte value) v.transferLength v

def writeData (value : UInt16) (v : Vdp) : Reported Vdp :=
  let v := { v with latched := false }
  let notices := v.storeNotices
  ⟨if v.fillArmed then v.fill value else v.store value, notices⟩

/-- The status register: fixed bits, an empty queue, and the two flags that follow the raster. -/
def status (v : Vdp) : UInt16 :=
  0x3600 ||| (if v.framePending then 0x0080 else 0) ||| (if v.inBlank then 0x0008 else 0)

def readStatus (v : Vdp) : Reported (UInt16 × Vdp) :=
  ⟨(v.status, { v with latched := false, framePending := false }), []⟩

/-- Store `n` words from the console's memory. -/
def transferWords : Nat → UInt32 → Vdp → VideoProgram Vdp
  | 0, _, v => return v
  | n + 1, source, v => do
    let word ← fetch source
    if (writeStore? v.code).isNone then note (.storeWithReadCode (v.code &&& 0x0F))
    transferWords n ((source + 2) &&& 0xFFFFFF) (v.store word)

def copyBytes : Nat → UInt16 → Vdp → Vdp
  | 0, _, v => v
  | n + 1, source, v =>
    copyBytes n (source + 1)
      { v with vram := v.vram.write v.address (v.vram.read source) }.advance

/-- Start the transfer that the registers describe. -/
def startTransfer (v : Vdp) : VideoProgram Vdp :=
  match v.transferKind with
  | .bus => do
    note (.transferStart v.busSource v.address v.transferLength v.code)
    transferWords v.transferLength v.busSource v
  | .fill => return { v with fillArmed := true }
  | .copy => return copyBytes v.transferLength v.copySource v

/-- The code bits 1 and 0 of a first half. -/
def firstCode (value : UInt16) : UInt8 := (value >>> 14).toUInt8

/-- The code bits 5 to 2 of a second half. -/
def secondCode (value : UInt16) : UInt8 := lowByte (value >>> 2) &&& 0x3C

/-- The address bits 15 and 14 of a second half. -/
def secondAddress (value : UInt16) : UInt16 := value <<< 14

/-- The first half of a command: two code bits and fourteen address bits. -/
def latchFirst (value : UInt16) (v : Vdp) : Vdp :=
  { v with
    code := (v.code &&& 0x3C) ||| firstCode value
    address := (v.address &&& 0xC000) ||| (value &&& 0x3FFF)
    latched := true }

/-- The second half of a command: the other code and address bits. -/
def latchSecond (value : UInt16) (v : Vdp) : Vdp :=
  { v with
    code := (v.code &&& 0x03) ||| secondCode value
    address := (v.address &&& 0x3FFF) ||| secondAddress value
    latched := false }

/-- Whether a control word that meets an empty latch is a register write. -/
def isRegisterWrite (value : UInt16) : Bool := value &&& 0xC000 == 0x8000

def registerIndex (value : UInt16) : Nat := ((value >>> 8) &&& 0x1F).toNat

def wantsTransfer (v : Vdp) : Bool := v.code &&& 0x20 != 0 && v.transferEnabled

def writeControl (value : UInt16) (v : Vdp) : VideoProgram Vdp :=
  if v.latched then
    let v := v.latchSecond value
    if v.wantsTransfer then v.startTransfer else return v
  else if isRegisterWrite value then
    if registerIndex value < 24 then
      return { v with registers := v.registers.put? (registerIndex value) (lowByte value) }
    else do
      note (.missingRegister (registerIndex value) (lowByte value))
      return v
  else return v.latchFirst value

end Vdp
end Genesis
