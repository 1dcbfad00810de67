import Genesis.Host
import Genesis.Memory
import Genesis.Processor
import Genesis.Region
import Genesis.VideoUnit

/-!
# The bus

What a read or a write does in each region of the address map. The video unit sees less of the
memory than the processor: only the cartridge and work RAM, and only for reading.
-/

namespace Genesis
namespace Bus

variable {ν η : Type}

def reduce (address : UInt32) : UInt32 := address &&& 0x00FFFFFF

def fetch? (cartridge : Cartridge) (workRam : Ram) (address : UInt32) : Option UInt16 :=
  let address := reduce address
  if cartridge.contains address then some (cartridge.word address.toNat)
  else if 0xE00000 ≤ address then some (workRam.word address)
  else none

def fetch (host : Host η) (cartridge : Cartridge) (workRam : Ram) (address : UInt32) (h : η) :
    UInt16 × η :=
  match fetch? cartridge workRam address with
  | some word => (word, h)
  | none => (0, host.notice (.unmappedFetch (reduce address)) h)

/-- How the bus answers the video unit. -/
def answerVideo (host : Host η) (cartridge : Cartridge) (workRam : Ram) :
    (q : VideoRequest) → η → q.Answer × η
  | .fetch address, h => fetch host cartridge workRam address h
  | .note n, h => ((), host.notice n h)

/-- The cell of the sound processor's memory that a byte access selects; words are not served. -/
def z80Cell? (offset : Fin 0x2000) : Lanes → Option (Fin 0x2000)
  | .high => some offset
  | .low => some (offset + 1)
  | .both => none

/-- Put a byte on the requested lane. -/
def onLane (lanes : Lanes) (x : UInt8) : UInt16 :=
  if lanes.hasHigh then wordOf x 0 else wordOf 0 x

def ofLane (lanes : Lanes) (value : UInt16) : UInt8 :=
  if lanes.hasHigh then highByte value else lowByte value

/-- Read the data register of a pad port. A pad is connected to the first port only; the others
read as all ones. -/
def readPad (host : Host η) (pads : Bank Pad 3) (port : Fin 3) (lanes : Lanes) (h : η) :
    UInt16 × η :=
  if port = Region.firstPort then
    if lanes.hasLow then
      let (r, h) := (pads.get port).read host.pressed h
      (r.value.toUInt16, host.report r.notices h)
    else (0, h)
  else (0x00FF, h)

def readWord [VideoUnit ν] (host : Host η) (address : UInt32) (lanes : Lanes) (m : Memory ν)
    (h : η) : UInt16 × Memory ν × η :=
  match Region.decode address m.cartridge.size with
  | .cartridge => (m.cartridge.word address.toNat, m, h)
  | .z80Ram offset =>
    match z80Cell? offset lanes with
    | some cell => (onLane lanes (m.z80Ram.get cell), m, h)
    | none => (0, m, host.notice (.z80WordRead address) h)
  | .padData port =>
    let (value, h) := readPad host m.pads port lanes h
    (value, m, h)
  | .padControl port =>
    (if lanes.hasLow then (m.pads.get port).control.toUInt16 else 0, m, h)
  | .videoData =>
    let ⟨cartridge, workRam, z80Ram, pads, video⟩ := m
    let ⟨(value, video), notices⟩ := VideoUnit.readData video
    (value, ⟨cartridge, workRam, z80Ram, pads, video⟩, host.report notices h)
  | .videoControl =>
    let ⟨cartridge, workRam, z80Ram, pads, video⟩ := m
    let ⟨(value, video), notices⟩ := VideoUnit.readStatus video
    (value, ⟨cartridge, workRam, z80Ram, pads, video⟩, host.report notices h)
  | .workRam => (m.workRam.word address, m, h)
  | .invalid => (0, m, host.notice (.unmappedRead address) h)
  | .soundChip | .ioUnused | .memoryMode | .z80BusRequest | .z80Reset | .rasterCounter
  | .toneGenerator => (0, m, h)

def read [VideoUnit ν] (host : Host η) (address : UInt32) (lanes : Lanes) (m : Memory ν) (h : η) :
    UInt16 × Memory ν × η :=
  let (value, m, h) := readWord host (reduce address) lanes m h
  (value &&& lanes.mask, m, h)

def writeWorkRam (address : UInt32) (lanes : Lanes) (value : UInt16) (ram : Ram) : Ram :=
  let ram := if lanes.hasHigh then ram.write address.toUInt16 (highByte value) else ram
  if lanes.hasLow then ram.write (address.toUInt16 + 1) (lowByte value) else ram

/-- A write at an address of 24 bits. -/
def writeWord [VideoUnit ν] (host : Host η) (address : UInt32) (lanes : Lanes) (value : UInt16)
    (m : Memory ν) (h : η) : Memory ν × η :=
  match Region.decode address m.cartridge.size with
  | .cartridge => (m, host.notice (.cartridgeWrite address) h)
  | .z80Ram offset =>
    match z80Cell? offset lanes with
    | some cell => ({ m with z80Ram := m.z80Ram.put cell (ofLane lanes value) }, h)
    | none => (m, host.notice (.z80WordWrite address) h)
  | .padData port =>
    if lanes.hasLow then
      ({ m with pads := m.pads.put port ((m.pads.get port).writeData (lowByte value)) }, h)
    else (m, h)
  | .padControl port =>
    if lanes.hasLow then
      ({ m with pads := m.pads.put port ((m.pads.get port).writeControl (lowByte value)) }, h)
    else (m, h)
  | .videoData =>
    let ⟨cartridge, workRam, z80Ram, pads, video⟩ := m
    let ⟨video, notices⟩ := VideoUnit.writeData value video
    (⟨cartridge, workRam, z80Ram, pads, video⟩, host.report notices h)
  | .videoControl =>
    let ⟨cartridge, workRam, z80Ram, pads, video⟩ := m
    let (video, h) :=
      (VideoUnit.writeControl value video).run (answerVideo host cartridge workRam) h
    (⟨cartridge, workRam, z80Ram, pads, video⟩, h)
  | .workRam => ({ m with workRam := writeWorkRam address lanes value m.workRam }, h)
  | .invalid => (m, host.notice (.unmappedWrite address) h)
  | .soundChip | .ioUnused | .memoryMode | .z80BusRequest | .z80Reset | .rasterCounter
  | .toneGenerator => (m, h)

def write [VideoUnit ν] (host : Host η) (address : UInt32) (lanes : Lanes) (value : UInt16)
    (m : Memory ν) (h : η) : Memory ν × η :=
  writeWord host (reduce address) lanes value m h

def answer [VideoUnit ν] (host : Host η) :
    (q : BusRequest) → Memory ν × η → q.Answer × (Memory ν × η)
  | .read address lanes, (m, h) => read host address lanes m h
  | .write address lanes value, (m, h) => ((), write host address lanes value m h)
  | .note n, (m, h) => ((), m, host.notice n h)

end Bus
end Genesis
