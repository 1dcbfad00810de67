import Genesis.Proofs.Bus.Access
import Genesis.Proofs.Vdp.Store

/-!
# Transfers from the console's memory

A transfer ends in the state that a program reaches by writing the same words to the data port one
after the other.
-/

namespace Genesis

open Bus

namespace Vdp

/-- The words that a transfer moves: registers 20 and 19, where zero stands for 65536. -/
def wordCount (v : Vdp) : Nat :=
  let n := 256 * v.register 20 + v.register 19
  if n = 0 then 65536 else n

/-- The address of the first word: registers 23, 22 and 21, in words. -/
def sourceStart (v : Vdp) : Nat :=
  131072 * (v.register 23 % 128) + 512 * v.register 22 + 2 * v.register 21

theorem transferLength_eq_wordCount (v : Vdp) : v.transferLength = v.wordCount := by
  have h : (wordOf (v.registers.get 20) (v.registers.get 19)).toNat =
      256 * v.register 20 + v.register 19 := toNat_wordOf _ _
  unfold transferLength wordCount
  rw [h]
  dsimp only
  split
  · rename_i h0
    simp [h0]
  · rename_i h0
    rw [if_neg h0]

theorem toNat_busSource (v : Vdp) : v.busSource.toNat = v.sourceStart := by
  have r23 : v.register 23 = (v.registers.get 23).toNat := rfl
  have r22 : v.register 22 = (v.registers.get 22).toNat := rfl
  have r21 : v.register 21 = (v.registers.get 21).toNat := rfl
  have h23 := (v.registers.get 23).toNat_lt
  have h22 := (v.registers.get 22).toNat_lt
  have h21 := (v.registers.get 21).toNat_lt
  have joined : v.busSource.toNat =
      v.register 23 % 128 * 131072 + (v.register 22 * 512 + v.register 21 * 2) := by
    have low7 : v.register 23 &&& 127 = v.register 23 % 128 :=
      Nat.and_two_pow_sub_one_eq_mod (v.register 23) 7
    -- The three fields do not overlap, so joining them is adding them.
    have inner := Nat.shiftLeft_add_eq_or_of_lt (b := v.register 21 * 2) (i := 9) (by omega)
      (v.register 22)
    have outer := Nat.shiftLeft_add_eq_or_of_lt (b := v.register 22 * 512 + v.register 21 * 2)
      (i := 17) (by omega) (v.register 23 % 128)
    simp only [Nat.shiftLeft_eq, Nat.reducePow] at inner outer
    simp only [busSource, UInt32.toNat_or, UInt32.toNat_shiftLeft, UInt8.toNat_toUInt32,
      UInt8.toNat_and, UInt32.toNat_ofNat, UInt8.toNat_ofNat, Nat.reduceMod, Nat.reducePow,
      Nat.shiftLeft_eq, ← r23, ← r22, ← r21, low7]
    rw [Nat.mod_eq_of_lt (b := 4294967296) (by omega),
      Nat.mod_eq_of_lt (b := 4294967296) (by omega),
      Nat.mod_eq_of_lt (b := 4294967296) (by omega), Nat.or_assoc, outer, inner]
  refine joined.trans ?_
  unfold sourceStart
  omega

theorem transferKind_eq_bus_iff (v : Vdp) : v.transferKind = .bus ↔ v.register 23 / 64 ≤ 1 := by
  have r23 : v.register 23 = (v.registers.get 23).toNat := rfl
  rw [r23, transferKind]
  split
  · rename_i h
    have := UInt8.lt_iff_toNat_lt.1 h
    simp at this ⊢
    omega
  · rename_i h
    have := mt UInt8.lt_iff_toNat_lt.2 h
    split <;> simp at this ⊢ <;> omega

variable {η : Type} (host : Host η)

theorem fetch_fst (cartridge : Cartridge) (workRam : Ram) (address : UInt32) (h h' : η) :
    (fetch host cartridge workRam address h).1 = (fetch host cartridge workRam address h').1 := by
  unfold fetch
  cases fetch? cartridge workRam address <;> rfl

def sourceWords (cartridge : Cartridge) (workRam : Ram) (source n : Nat) (h : η) : List UInt16 :=
  (List.range n).map fun i =>
    (fetch host cartridge workRam (UInt32.ofNat ((source + 2 * i) % 0x1000000)) h).1

theorem sourceWords_succ (cartridge : Cartridge) (workRam : Ram) (source n : Nat) (h : η) :
    sourceWords host cartridge workRam source (n + 1) h =
      (fetch host cartridge workRam (UInt32.ofNat (source % 0x1000000)) h).1 ::
        sourceWords host cartridge workRam ((source + 2) % 0x1000000) n h := by
  have shift (i : Nat) : (source + 2 * (i + 1)) % 0x1000000 =
      ((source + 2) % 0x1000000 + 2 * i) % 0x1000000 := by omega
  simp [sourceWords, List.range_succ_eq_map, shift]

theorem run_transferWords (cartridge : Cartridge) (workRam : Ram) (n : Nat) (source : UInt32)
    (hs : source.toNat < 0x1000000) (v : Vdp) (h h' : η) :
    ((transferWords n source v).run (answerVideo host cartridge workRam) h).1 =
      (sourceWords host cartridge workRam source.toNat n h').foldl (fun v w => v.store w) v := by
  induction n generalizing source v h with
  | zero => rfl
  | succ n ih =>
    have next : ((source + 2) &&& 0xFFFFFF).toNat = (source.toNat + 2) % 0x1000000 := by
      have h := Nat.and_two_pow_sub_one_eq_mod (source + 2).toNat 24
      rw [UInt32.toNat_and]
      simpa [Nat.mod_eq_of_lt (show source.toNat + 2 < 4294967296 by omega)] using h
    have start : UInt32.ofNat (source.toNat % 0x1000000) = source := by
      rw [Nat.mod_eq_of_lt hs, UInt32.ofNat_toNat]
    have rest (v : Vdp) (h : η) := ih ((source + 2) &&& 0xFFFFFF) (by omega) v h
    rw [sourceWords_succ, start, List.foldl_cons, fetch_fst host _ _ _ h' h]
    rw [next] at rest
    simp only [transferWords, VideoProgram.fetch, VideoProgram.note, Dialogue.query_bind,
      Dialogue.run_ask, answerVideo]
    split
    · simp only [Dialogue.run_ask, rest]
    · exact rest _ _

def dataWrite (word : UInt16) : BusRequest := .write 0xC00000 .both word

theorem decode_dataPort (c : Cartridge) : Region.decode 0xC00000 c.size = .videoData := by
  have h : ¬ 0xC00000 < c.size := by
    have := c.size_le_capacity
    simp only [Cartridge.capacity] at this
    omega
  rw [Region.decode, show (0xC00000 : UInt32).toNat % 0x1000000 = 0xC00000 from rfl, if_neg h]
  rfl

theorem answer_dataWrite (m : Memory Vdp) (h : η) (latched : m.video.latched = false)
    (idle : m.video.fillArmed = false) (word : UInt16) :
    (answer host (dataWrite word) (m, h)).2.1 = { m with video := m.video.store word } := by
  simp only [dataWrite, answer, write_videoData host .both word h (decode_dataPort m.cartridge)]
  exact congrArg (fun video => { m with video }) (writeData_of_idle word m.video latched idle)

theorem serve_dataWrites (words : List UInt16) (m : Memory Vdp) (h : η)
    (latched : m.video.latched = false) (idle : m.video.fillArmed = false) :
    (serve host (words.map dataWrite) (m, h)).1 =
      { m with video := words.foldl (fun v w => v.store w) m.video } := by
  induction words generalizing m h with
  | nil => rfl
  | cons word words ih =>
    have step := answer_dataWrite host m h latched idle word
    rw [List.map_cons, serve, ih _ _ (by simp [step, latched]) (by simp [step, idle]), step]
    rfl

/-- Starting a transfer: the command is latched, then the words are stored. -/
theorem run_writeControl_transfer (cartridge : Cartridge) (workRam : Ram) (value : UInt16) (v : Vdp)
    (h h' : η) (latched : v.latched = true) (wants : (v.latchSecond value).wantsTransfer = true)
    (mode : v.register 23 / 64 ≤ 1) :
    ((writeControl value v).run (answerVideo host cartridge workRam) h).1 =
      (sourceWords host cartridge workRam v.sourceStart v.wordCount h').foldl
        (fun v w => v.store w) (v.latchSecond value) := by
  have kind : (v.latchSecond value).transferKind = .bus := (transferKind_eq_bus_iff v).2 mode
  have source : (v.latchSecond value).busSource.toNat = v.sourceStart := toNat_busSource v
  have length : (v.latchSecond value).transferLength = v.wordCount := transferLength_eq_wordCount v
  have small : v.sourceStart < 0x1000000 := by
    have h22 := v.register_lt 22
    have h21 := v.register_lt 21
    unfold sourceStart
    omega
  simp only [writeControl, latched, if_true, wants, startTransfer, kind]
  simp only [VideoProgram.note, Dialogue.query_bind, Dialogue.run_ask]
  rw [run_transferWords host _ _ _ _ (by omega) _ _ h', source, length]

/-- The data-port writes that store the words of a transfer one by one. -/
def programmedCopy (m : Memory Vdp) (h : η) : List BusRequest :=
  (sourceWords host m.cartridge m.workRam m.video.sourceStart m.video.wordCount h).map dataWrite

/-- A control word that starts a transfer from the console's memory does what latching its command
and copying the words by program does, to the whole memory; and the memory that the words come from
stays as it is throughout the copy. -/
theorem transfer_eq_programmed_copy {address : UInt32} (lanes : Lanes) (value : UInt16)
    (m : Memory Vdp) (h h' : η)
    (port : Region.decode address m.cartridge.size = .videoControl)
    (latched : m.video.latched = true) (idle : m.video.fillArmed = false)
    (enabled : m.video.transferEnabled = true)
    (wanted : (m.video.latchSecond value).code &&& 0x20 ≠ 0)
    (mode : m.video.register 23 / 64 ≤ 1) :
    (write host address lanes value m h).1 =
      (serve host (programmedCopy host m h)
        ({ m with video := m.video.latchSecond value }, h')).1 ∧
    ∀ k, let now := (serve host ((programmedCopy host m h).take k)
        ({ m with video := m.video.latchSecond value }, h')).1
      now.cartridge = m.cartridge ∧ now.workRam = m.workRam := by
  have wants : (m.video.latchSecond value).wantsTransfer = true := by
    have kept : (m.video.latchSecond value).transferEnabled = true := enabled
    simp [wantsTransfer, wanted, kept]
  have copied (words : List UInt16) := serve_dataWrites host words
    { m with video := m.video.latchSecond value } h' rfl idle
  constructor
  · rw [write_videoControl host lanes value h port, programmedCopy, copied]
    exact congrArg (fun video => { m with video })
      (run_writeControl_transfer host m.cartridge m.workRam value m.video h h latched wants mode)
  · intro k
    rw [programmedCopy, ← List.map_take, copied]
    exact ⟨rfl, rfl⟩

/-- Two words from the start of work RAM. -/
theorem transfer_eq_programmed_copy_of_two_words :
    let v : Vdp := {
      registers := ((((Bank.fill 24 0).put? 1 0x10).put? 15 2).put? 19 2).put? 23 0x70
      code := 1
      latched := true }
    let m : Memory Vdp := { workRam := (Ram.zero.write 0 0xAB).write 3 0xCD, video := v }
    v.wordCount = 2 ∧ v.sourceStart = 0xE00000 ∧
      (write Host.idle 0xC00004 .both 0x0080 m ()).1 =
        (serve Host.idle (programmedCopy Host.idle m ())
          ({ m with video := v.latchSecond 0x0080 }, ())).1 := by
  intro v m
  refine ⟨by decide, by decide, ?_⟩
  exact (transfer_eq_programmed_copy Host.idle .both 0x0080 m () () (by decide) rfl rfl (by decide)
    (by decide) (by decide)).1

end Vdp
end Genesis
