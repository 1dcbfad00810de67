import Genesis.Proofs.Bus.Access
import Genesis.Proofs.Log.Logbook
import Genesis.Proofs.Vdp.BusTransfer

/-!
# Faults on the bus

An access that nothing can answer is a fault: an address without a device, a write to the cartridge,
a word access to the sound processor's memory, and each word of a transfer that the video unit looks
for where it sees no memory. Every fault is one record of the bus, and nothing else is
(`faults_are_reported_once`).
-/

namespace Genesis
namespace Bus

open Logbook (Emits keeper)

/-- The record of a fault: what was attempted, and the 24 bits of the address. -/
def faultRecord (attempt : String) (address : Nat) : Log.Record where
  level := .error
  category := .bus
  text := attempt ++ " at 0x" ++ Text.hex 6 (address % 0x1000000)

def readFault? (lanes : Lanes) : Region → Option String
  | .invalid => some "68k attempted to read invalid memory"
  | .z80Ram _ =>
    if lanes = .both then some "68k attempted to perform word-sized read of Z80 memory" else none
  | _ => none

def writeFault? (lanes : Lanes) : Region → Option String
  | .cartridge => some "68k attempted to write to ROM"
  | .invalid => some "68k attempted to write invalid memory"
  | .z80Ram _ =>
    if lanes = .both then some "68k attempted to perform word-sized write of Z80 memory" else none
  | _ => none

/-- The fault of a fetch for the video unit, which sees the mapped cartridge and work RAM only. -/
def fetchFault? (mapped address : Nat) : Option String :=
  if address % 0x1000000 < mapped ∨ 0xE00000 ≤ address % 0x1000000 then none
  else some "VDP attempted to read invalid memory"

/-- One record for a fault, none without one. -/
def reports (fault? : Option String) (address : Nat) : List Log.Record :=
  fault?.toList.map fun attempt => faultRecord attempt address

def transferReports (mapped source count : Nat) : List Log.Record :=
  (List.range count).flatMap fun i =>
    reports (fetchFault? mapped (source + 2 * i)) (source + 2 * i)

theorem text_eq (n : Notice) (attempt : String) (address : UInt32)
    (text : n.text = attempt ++ " at 0x" ++ Text.hex 6 (reduce address).toNat) :
    (⟨.error, .bus, n.text⟩ : Log.Record) = faultRecord attempt address.toNat := by
  rw [text, toNat_reduce, faultRecord]

variable {η : Type} {pressed : Button → η → Bool × η} {clock : η → Nat × η} {b : Logbook η}

/-- An error of the bus at an address is the record of its fault. -/
theorem emits_fault (h : b.Unhindered) (n : Notice) (attempt : String) (address : UInt32)
    (category : n.category = .bus) (level : n.level = .error)
    (text : n.text = attempt ++ " at 0x" ++ Text.hex 6 (reduce address).toNat) :
    Emits [faultRecord attempt address.toNat] b (Logbook.note clock n b) := by
  rw [← text_eq n attempt address text]
  exact Logbook.emits_note category level h

theorem video_ne_bus : Log.Category.video ≠ .bus := by decide

theorem pads_ne_bus : Log.Category.pads ≠ .bus := by decide

theorem emits_released (buttons : List (Button × UInt8)) :
    Emits [] b (Pad.released (keeper pressed clock).pressed buttons b).2 := by
  induction buttons generalizing b with
  | nil => exact Emits.refl b
  | cons button buttons ih =>
    have asked : Emits [] b ((keeper pressed clock).pressed button.1 b).2 := Emits.of_same rfl rfl
    exact asked.trans ih

theorem emits_readPad (pads : Bank Pad 3) (port : Fin 3) (lanes : Lanes) :
    Emits [] b (readPad (keeper pressed clock) pads port lanes b).2 := by
  unfold readPad
  split
  · split
    · refine (emits_released (pads.get port).asked).trans (Logbook.emits_report_of_ne ?_)
      intro n mem
      rw [List.mem_singleton.1 mem]
      exact pads_ne_bus
    · exact Emits.refl b
  · exact Emits.refl b

theorem category_of_mem_loadNotices {v : Vdp} {n : Notice} (mem : n ∈ v.loadNotices) :
    n.category ≠ .bus := by
  unfold Vdp.loadNotices at mem
  split at mem
  · rw [List.mem_singleton.1 mem]
    exact video_ne_bus
  · cases mem

theorem category_of_mem_storeNotices {v : Vdp} {n : Notice} (mem : n ∈ v.storeNotices) :
    n.category ≠ .bus := by
  unfold Vdp.storeNotices at mem
  split at mem
  · rw [List.mem_singleton.1 mem]
    exact video_ne_bus
  · cases mem

section Video

variable (c : Cartridge) (w : Ram)

theorem fetch?_eq_none_iff (address : UInt32) :
    fetch? c w address = none ↔ (fetchFault? c.size address.toNat).isSome := by
  simp only [fetch?, fetchFault?, Cartridge.contains, toNat_reduce, ramStart_le_reduce_iff,
    decide_eq_true_eq]
  by_cases mapped : address.toNat % 0x1000000 < c.size
  · simp [mapped]
  · by_cases ram : 0xE00000 ≤ address.toNat % 0x1000000
    · simp [mapped, ram]
    · simp [mapped, ram]

theorem fetchFault?_eq (mapped address : Nat) :
    fetchFault? mapped address = none ∨
      fetchFault? mapped address = some "VDP attempted to read invalid memory" := by
  unfold fetchFault?
  split
  · exact .inl rfl
  · exact .inr rfl

theorem emits_fetch (h : b.Unhindered) (address : UInt32) :
    Emits (reports (fetchFault? c.size address.toNat) address.toNat) b
      (fetch (keeper pressed clock) c w address b).2 := by
  have found := fetch?_eq_none_iff c w address
  unfold fetch
  rcases fetchFault?_eq c.size address.toNat with sound | fault
  · rw [sound] at found ⊢
    cases value : fetch? c w address with
    | none => exact absurd (found.1 value) (by simp)
    | some word => exact Emits.refl b
  · rw [fault] at found ⊢
    rw [found.2 rfl]
    exact emits_fault h (.unmappedFetch (reduce address)) _ address rfl rfl rfl

theorem fetch_of_fault (host : Host η) {address : UInt32} {s : η}
    (fault : (fetchFault? c.size address.toNat).isSome) :
    (fetch host c w address s).1 = 0 := by
  unfold fetch
  rw [(fetch?_eq_none_iff c w address).2 fault]

theorem transferReports_succ (mapped source count : Nat) :
    transferReports mapped source (count + 1) =
      reports (fetchFault? mapped source) source ++ transferReports mapped (source + 2) count := by
  have shift (i : Nat) : source + 2 * (i + 1) = source + 2 + 2 * i := by omega
  simp [transferReports, List.range_succ_eq_map, List.flatMap_map, shift]

theorem transferReports_mod (mapped source count : Nat) :
    transferReports mapped (source % 0x1000000) count = transferReports mapped source count := by
  have same (i : Nat) :
      (source % 0x1000000 + 2 * i) % 0x1000000 = (source + 2 * i) % 0x1000000 := by omega
  simp only [transferReports, reports, fetchFault?, faultRecord, same]

/-- A transfer emits one record for each word that it does not find, in order. -/
theorem emits_transferWords (count : Nat) (source : UInt32) (v : Vdp) (h : b.Unhindered) :
    Emits (transferReports c.size source.toNat count) b
      ((Vdp.transferWords count source v).run (answerVideo (keeper pressed clock) c w) b).2 := by
  induction count generalizing source v b with
  | zero => exact Emits.refl b
  | succ count ih =>
    have next : ((source + 2) &&& 0xFFFFFF).toNat = (source.toNat + 2) % 0x1000000 := by
      have masked := Nat.and_two_pow_sub_one_eq_mod (source + 2).toNat 24
      rw [UInt32.toNat_and]
      refine masked.trans ?_
      rw [UInt32.toNat_add]
      exact Nat.mod_mod_of_dvd _ (by decide)
    have fetched : Emits (reports (fetchFault? c.size source.toNat) source.toNat) b
        (fetch (keeper pressed clock) c w source b).2 := emits_fetch c w h source
    have rest (v : Vdp) {b' : Logbook η} (h' : b'.Unhindered) :=
      ih ((source + 2) &&& 0xFFFFFF) v h'
    simp only [next, transferReports_mod] at rest
    rw [transferReports_succ]
    simp only [Vdp.transferWords, VideoProgram.fetch, VideoProgram.note, Dialogue.query_bind,
      Dialogue.run_ask, answerVideo]
    refine fetched.trans ?_
    have h' := fetched.unhindered h
    split
    · have noted : Emits [] _ (Logbook.note clock (.storeWithReadCode (v.code &&& 0x0F)) _) :=
        Logbook.emits_note_of_ne (b := (fetch (keeper pressed clock) c w source b).2) video_ne_bus
      exact noted.trans (rest _ (noted.unhindered h'))
    · exact rest _ h'

end Video

section Control

variable (c : Cartridge) (w : Ram) (value : UInt16) (v : Vdp)

/-- The control word completes a command that starts a transfer from the console's memory. -/
def StartsTransfer (value : UInt16) (v : Vdp) : Prop :=
  v.latched = true ∧ (v.latchSecond value).code &&& 0x20 ≠ 0 ∧ v.transferEnabled = true ∧
    v.register 23 / 64 ≤ 1

theorem wantsTransfer_latchSecond : (v.latchSecond value).wantsTransfer = true ↔
    (v.latchSecond value).code &&& 0x20 ≠ 0 ∧ v.transferEnabled = true := by
  have kept : (v.latchSecond value).transferEnabled = v.transferEnabled := rfl
  simp [Vdp.wantsTransfer, kept]

theorem emits_writeControl_of_starts (h : b.Unhindered) (starts : StartsTransfer value v) :
    Emits (transferReports c.size v.sourceStart v.wordCount) b
      ((Vdp.writeControl value v).run (answerVideo (keeper pressed clock) c w) b).2 := by
  obtain ⟨latched, asked, enabled, mode⟩ := starts
  have wants := (wantsTransfer_latchSecond value v).2 ⟨asked, enabled⟩
  have kind : (v.latchSecond value).transferKind = .bus := (Vdp.transferKind_eq_bus_iff v).2 mode
  have source : (v.latchSecond value).busSource.toNat = v.sourceStart := Vdp.toNat_busSource v
  have length : (v.latchSecond value).transferLength = v.wordCount :=
    Vdp.transferLength_eq_wordCount v
  simp only [Vdp.writeControl, latched, if_true, wants, Vdp.startTransfer, kind,
    VideoProgram.note, Dialogue.query_bind, Dialogue.run_ask, answerVideo, length]
  have noted : Emits [] b (Logbook.note clock (.transferStart (v.latchSecond value).busSource
      (v.latchSecond value).address v.wordCount (v.latchSecond value).code) b) :=
    Logbook.emits_note_of_ne video_ne_bus
  rw [← source]
  exact noted.trans (emits_transferWords c w _ _ _ (noted.unhindered h))

theorem emits_writeControl_of_not_starts (still : ¬ StartsTransfer value v) :
    Emits [] b ((Vdp.writeControl value v).run (answerVideo (keeper pressed clock) c w) b).2 := by
  unfold Vdp.writeControl
  split
  · rename_i latched
    dsimp only
    split
    · rename_i wants
      have kind : (v.latchSecond value).transferKind ≠ .bus := fun bus =>
        have asked := (wantsTransfer_latchSecond value v).1 wants
        still ⟨latched, asked.1, asked.2, (Vdp.transferKind_eq_bus_iff v).1 bus⟩
      unfold Vdp.startTransfer
      cases mode : (v.latchSecond value).transferKind with
      | bus => exact absurd mode kind
      | fill | copy => exact Emits.refl b
    · exact Emits.refl b
  · split
    · split
      · exact Emits.refl b
      · exact Logbook.emits_note_of_ne video_ne_bus
    · exact Emits.refl b

end Control

section Processor

variable (h : b.Unhindered) (m : Memory Vdp) (address : UInt32) (lanes : Lanes) (value : UInt16)

section Emitted

include h

theorem emits_read :
    Emits (reports (readFault? lanes (Region.decode address m.cartridge.size)) address.toNat) b
      (read (keeper pressed clock) address lanes m b).2.2 := by
  unfold read readWord
  rw [decode_reduce]
  cases Region.decode address m.cartridge.size with
  | invalid =>
    exact emits_fault h (.unmappedRead (reduce address)) _ address rfl rfl rfl
  | z80Ram offset =>
    cases lanes with
    | both => exact emits_fault h (.z80WordRead (reduce address)) _ address rfl rfl rfl
    | high | low => exact Emits.refl b
  | padData port => exact emits_readPad m.pads port lanes
  | videoData =>
    exact Logbook.emits_report_of_ne fun n mem => category_of_mem_loadNotices mem
  | _ => exact Emits.refl b

theorem emits_write
    (still : ¬ (Region.decode address m.cartridge.size = .videoControl ∧
      StartsTransfer value m.video)) :
    Emits (reports (writeFault? lanes (Region.decode address m.cartridge.size)) address.toNat) b
      (write (keeper pressed clock) address lanes value m b).2 := by
  cases hd : Region.decode address m.cartridge.size with
  | videoControl =>
    rw [write_videoControl _ lanes value b hd]
    exact emits_writeControl_of_not_starts _ _ value m.video fun starts => still ⟨hd, starts⟩
  | videoData =>
    rw [write_videoData _ lanes value b hd]
    exact Logbook.emits_report_of_ne fun n mem => category_of_mem_storeNotices mem
  | workRam => rw [write_workRam _ lanes value b hd]; exact Emits.refl b
  | padData port => rw [write_padData _ lanes value b hd]; exact Emits.refl b
  | padControl port => rw [write_padControl _ lanes value b hd]; exact Emits.refl b
  | cartridge =>
    simp only [write, writeWord, decode_reduce, hd]
    exact emits_fault h (.cartridgeWrite (reduce address)) _ address rfl rfl rfl
  | invalid =>
    simp only [write, writeWord, decode_reduce, hd]
    exact emits_fault h (.unmappedWrite (reduce address)) _ address rfl rfl rfl
  | z80Ram offset =>
    simp only [write, writeWord, decode_reduce, hd]
    cases lanes with
    | both => exact emits_fault h (.z80WordWrite (reduce address)) _ address rfl rfl rfl
    | high | low => exact Emits.refl b
  | _ =>
    simp only [write, writeWord, decode_reduce, hd]
    exact Emits.refl b

theorem emits_write_of_starts (port : Region.decode address m.cartridge.size = .videoControl)
    (starts : StartsTransfer value m.video) :
    Emits (transferReports m.cartridge.size m.video.sourceStart m.video.wordCount) b
      (write (keeper pressed clock) address lanes value m b).2 := by
  rw [write_videoControl _ lanes value b port]
  exact emits_writeControl_of_starts _ _ value m.video h starts

end Emitted

variable (host : Host η) (s : η)

theorem read_of_fault
    (fault : (readFault? lanes (Region.decode address m.cartridge.size)).isSome) :
    (read host address lanes m s).1 = 0 ∧ (read host address lanes m s).2.1 = m := by
  unfold read readWord
  rw [decode_reduce]
  revert fault
  cases Region.decode address m.cartridge.size with
  | invalid => exact fun _ => ⟨UInt16.zero_and, rfl⟩
  | z80Ram offset =>
    cases lanes with
    | both => exact fun _ => ⟨UInt16.zero_and, rfl⟩
    | high | low => exact fun fault => absurd fault (by simp [readFault?])
  | _ => exact fun fault => absurd fault (by simp [readFault?])

theorem write_of_fault
    (fault : (writeFault? lanes (Region.decode address m.cartridge.size)).isSome) :
    (write host address lanes value m s).1 = m := by
  cases hd : Region.decode address m.cartridge.size with
  | cartridge | invalid => exact write_of_unwritable host lanes value s (by simp [hd])
  | z80Ram offset =>
    rw [write_z80Ram host lanes value s hd]
    cases lanes with
    | both => rfl
    | high | low => simp [hd, writeFault?] at fault
  | _ => simp [hd, writeFault?] at fault

end Processor

/-- While errors of the bus are logged without a limit, each fault is one record that names the
24 bits of its address, and nothing else is a record of the bus; a transfer from the console's
memory has one for each word that it does not find. A read that is a fault returns zero, and no
fault changes the memory. -/
theorem faults_are_reported_once (pressed : Button → η → Bool × η) (clock : η → Nat × η)
    {b : Logbook η} (h : b.Unhindered) (m : Memory Vdp) (address : UInt32) (lanes : Lanes)
    (value : UInt16) :
    let host := keeper pressed clock
    let region := Region.decode address m.cartridge.size
    let read := Bus.read host address lanes m b
    let write := Bus.write host address lanes value m b
    let fetch := Bus.fetch host m.cartridge m.workRam address b
    let starts := region = .videoControl ∧ StartsTransfer value m.video
    Emits (reports (readFault? lanes region) address.toNat) b read.2.2 ∧
    ((readFault? lanes region).isSome → read.1 = 0 ∧ read.2.1 = m) ∧
    (¬ starts → Emits (reports (writeFault? lanes region) address.toNat) b write.2) ∧
    ((writeFault? lanes region).isSome → write.1 = m) ∧
    (starts → Emits
      (transferReports m.cartridge.size m.video.sourceStart m.video.wordCount) b write.2) ∧
    Emits (reports (fetchFault? m.cartridge.size address.toNat) address.toNat) b fetch.2 ∧
    ((fetchFault? m.cartridge.size address.toNat).isSome → fetch.1 = 0) := by
  intro host region read write fetch starts
  refine ⟨emits_read h m address lanes, ?_, emits_write h m address lanes value, ?_, ?_,
    emits_fetch m.cartridge m.workRam h address, ?_⟩
  · exact fun fault => read_of_fault m address lanes host b fault
  · exact fun fault => write_of_fault m address lanes value host b fault
  · rintro ⟨port, transfer⟩
    exact emits_write_of_starts h m address lanes value port transfer
  · exact fun fault => fetch_of_fault m.cartridge m.workRam host fault

/-- A word read of the sound processor's memory, at a mirror of its address. -/
theorem faults_are_reported_once_at_mirror :
    let m := Memory.initial Vdp.initial
    let b : Logbook Unit := { own := (), logger := { limiter := Log.Limiter.unlimited } }
    let read := Bus.read (keeper (fun _ s => (false, s)) fun s => (0, s)) 0x55A00020 .both m b
    b.Unhindered ∧ read.1 = 0 ∧ read.2.1 = m ∧ read.2.2.ofBus = [⟨.error, .bus,
      "68k attempted to perform word-sized read of Z80 memory at 0xA00020"⟩] := by
  intro m b read
  have h : b.Unhindered := ⟨by decide, rfl⟩
  have facts :=
    faults_are_reported_once (fun _ s => (false, s)) (fun s => (0, s)) h m 0x55A00020 .both 0
  have word := facts.2.1 (by decide)
  refine ⟨h, word.1, word.2, facts.1.ofBus.trans ?_⟩
  decide

end Bus
end Genesis
