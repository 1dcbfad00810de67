import Genesis.Machine.Basic

/-!
# Cartridges and configurations of a console

There is one mount point, the cartridge slot. Every operation here checks its argument first and
changes the console only if it succeeds.
-/

namespace Genesis

structure MountPoint where
  id : String
  name : String
  /-- File extensions that the slot takes. -/
  extensions : List String
  required : Bool
deriving DecidableEq

namespace Machine

variable {σ ν η : Type}

def cartridgeSlot : MountPoint where
  id := "cartridge"
  name := "Cartridge Slot"
  extensions := ["md", "gen", "bin", "smd"]
  required := true

def mountPoints : List MountPoint := [cartridgeSlot]

/-- Copy an image into the cartridge buffer. An image that is too large is reported. -/
def installRom (host : Host η) (image : Array UInt8) (m : Machine σ ν) (h : η) :
    Except MachineError Unit × Machine σ ν × η :=
  match m.memory.cartridge.install? image with
  | some cartridge => (.ok (), { m with memory := { m.memory with cartridge } }, h)
  | none =>
    (.error (.romTooLarge image.size), m,
      host.notice (.cartridgeTooLarge image.size Cartridge.capacity) h)

def mount [Processor σ] [VideoUnit ν] (host : Host η) (id : String) (image : Array UInt8)
    (m : Machine σ ν) (h : η) : Except MachineError Unit × Machine σ ν × η :=
  if id = cartridgeSlot.id then
    match installRom host image m h with
    | (.ok (), m, h) => (.ok (), reset host m h)
    | (.error e, m, h) => (.error e, m, h)
  else (.error (.unknownMountPoint id), m, h)

def unmount (id : String) (m : Machine σ ν) : Except MachineError Unit × Machine σ ν :=
  if id = cartridgeSlot.id then
    (.ok (), { m with memory := { m.memory with cartridge := m.memory.cartridge.eject } })
  else (.error (.unknownMountPoint id), m)

def isMounted (id : String) (m : Machine σ ν) : Bool :=
  id == cartridgeSlot.id && decide (0 < m.memory.cartridge.size)

def setTiming (t : Timing) (m : Machine σ ν) : Except MachineError Unit × Machine σ ν :=
  match t.zeroDivisor? with
  | some divisor => (.error (.zeroDivisor divisor), m)
  | none => (.ok (), { m with setup := { m.setup with timing := t } })

/-- Apply every setting of a configuration. -/
def applyConfig (c : Configuration) (m : Machine σ ν) : Except MachineError Unit × Machine σ ν :=
  let (result, m) := match c.timing with
    | some t => setTiming t m
    | none => (.ok (), m)
  match result with
  | .error e => (.error e, m)
  | .ok () =>
    (.ok (), ((m.setPal c.pal).setJapanese c.japanese).setRomWriteable c.romWriteable)

def loadConfig (text : String) (m : Machine σ ν) : Except MachineError Unit × Machine σ ν :=
  match Configuration.parse text with
  | .error fault => (.error (.badConfiguration fault), m)
  | .ok c => applyConfig c m

/-- The configuration that describes the current settings. -/
def configuration (m : Machine σ ν) : Configuration where
  pal := m.settings.pal
  japanese := m.settings.japanese
  romWriteable := m.settings.romWriteable
  timing := some m.settings.timing

end Machine
end Genesis
