import Genesis.Proofs.Cpu.Stack
import Genesis.Proofs.Dialogue

/-!
# Accepted interrupts

An accepted interrupt puts one frame on the supervisor stack, in whichever mode it finds the
processor and whatever the bus answers (`ends_interrupt_of_accepts`), and continues where the vector
of its level leads (`run_interrupt`). Taking that frame off again gives the interrupted processor
back (`unwound_entered`).
-/

namespace Genesis
namespace Cpu

variable {ν η : Type} [VideoUnit ν] (host : Host η)

/-- The word that the bus shows at a low address: the cartridge's, or zero where none is mapped. -/
def lowWordAt (c : Cartridge) (a : Nat) : UInt16 := if a < c.size then c.word a else 0

def autovector (c : Cartridge) (level : UInt8) : UInt32 :=
  longOf (lowWordAt c (4 * (24 + level.toNat))) (lowWordAt c (4 * (24 + level.toNat) + 2))

theorem decode_of_low {address : UInt32} (low : address.toNat < 0xA00000) (mapped : Nat) :
    Region.decode address mapped = if address.toNat < mapped then .cartridge else .invalid := by
  have h : address.toNat % 0x1000000 = address.toNat := by omega
  rw [Region.decode, h]
  split
  · rfl
  · simp only [Region.fixed, Region.videoBlock]
    rw [dif_neg (by omega)]
    repeat rw [if_neg (by omega)]

def unmappedReads (c : Cartridge) (addresses : List UInt32) : List Notice :=
  (addresses.filter fun a => c.size ≤ a.toNat).map .unmappedRead

omit [VideoUnit ν] in
theorem report_unmappedReads_cons_cons (c : Cartridge) (a b : UInt32) (rest : List UInt32) (h : η) :
    host.report (unmappedReads c (a :: b :: rest)) h =
      host.report (unmappedReads c (b :: rest)) (host.report (unmappedReads c [a]) h) := by
  have first : unmappedReads c (a :: b :: rest) =
      unmappedReads c [a] ++ unmappedReads c (b :: rest) := by
    simp only [unmappedReads, ← List.map_append, ← List.filter_append, List.singleton_append]
  rw [first, Host.report_append]

theorem read_of_low (address : UInt32) (low : address.toNat < 0xA00000) (m : Memory ν) (h : η) :
    Bus.read host address .both m h =
      (lowWordAt m.cartridge address.toNat, m,
        host.report (unmappedReads m.cartridge [address]) h) := by
  have hd := decode_of_low low m.cartridge.size
  have small : address.toNat % 0x1000000 = address.toNat := by omega
  by_cases mapped : address.toNat < m.cartridge.size
  · rw [if_pos mapped] at hd
    rw [Bus.read_cartridge host .both h hd, Lanes.and_mask_both, small, lowWordAt, if_pos mapped]
    simp [unmappedReads, mapped]
  · rw [if_neg mapped] at hd
    have whole : Bus.reduce address = address :=
      UInt32.toNat_inj.1 ((Bus.toNat_reduce address).trans small)
    rw [Bus.read_invalid host .both h hd, lowWordAt, if_neg mapped, whole]
    simp [unmappedReads, Nat.not_lt.1 mapped]

theorem run_readLong_of_low (address : UInt32) (first : address.toNat < 0xA00000)
    (second : (address + 2).toNat < 0xA00000) (m : Memory ν) (h : η) :
    (readLong address).run (Bus.answer host) (m, h) =
      (longOf (lowWordAt m.cartridge address.toNat) (lowWordAt m.cartridge (address + 2).toNat),
        m, host.report (unmappedReads m.cartridge [address, address + 2]) h) := by
  have high := read_of_low host address first m h
  have low := read_of_low host (address + 2) second m
    (host.report (unmappedReads m.cartridge [address]) h)
  simp only [readLong, BusProgram.read, Dialogue.query_bind, Dialogue.run_ask, Bus.answer, high,
    low, report_unmappedReads_cons_cons]
  rfl

theorem run_readLong_vector {level : UInt8} (hl : level ≤ 7) (m : Memory ν) (h : η) :
    ∃ h', (readLong ((24 + level.toUInt32) * 4)).run (Bus.answer host) (m, h) =
      (autovector m.cartridge level, m, h') := by
  have small : level.toNat ≤ 7 := UInt8.le_iff_toNat_le.1 hl
  have first : ((24 + level.toUInt32) * 4).toNat = 4 * (24 + level.toNat) := by
    simp
    omega
  have second : ((24 + level.toUInt32) * 4 + 2).toNat = 4 * (24 + level.toNat) + 2 := by
    simp
    omega
  have long := run_readLong_of_low host ((24 + level.toUInt32) * 4) (by omega) (by omega) m h
  rw [first, second] at long
  exact ⟨_, long⟩

/-- A level that interrupts the processor: above the mask, or the seventh. -/
def Admits (cpu : Cpu) (level : UInt8) : Prop :=
  (1 ≤ level ∧ level ≤ 6 ∧ cpu.interruptMask < level) ∨ level = 7

instance (cpu : Cpu) (level : UInt8) : Decidable (cpu.Admits level) :=
  inferInstanceAs (Decidable (_ ∨ _))

/-- The processor at the start of a handler. -/
def entered (cpu : Cpu) (level : UInt8) (handler : UInt32) : Cpu :=
  { (cpu.setSr (serviceSr cpu.sr level)).setSp (cpu.ssp - 6) with
    pc := handler, stopped := false, countdown := entryCost }

theorem Admits.le_seven {cpu : Cpu} {level : UInt8} (ha : cpu.Admits level) : level ≤ 7 := by
  simp only [Admits] at ha
  grind

theorem Admits.accepts {cpu : Cpu} {level : UInt8} (ha : cpu.Admits level) :
    cpu.accepts level = true ∧ level &&& 7 = level := by
  have low : level &&& 7 = level := by
    apply UInt8.toNat_inj.1
    have h := UInt8.le_iff_toNat_le.1 ha.le_seven
    have mod := Nat.and_two_pow_sub_one_eq_mod level.toNat 3
    simp at h mod ⊢
    omega
  refine ⟨?_, low⟩
  rw [Cpu.accepts]
  rcases ha with ⟨h1, -, hm⟩ | rfl
  · have : level ≠ 0 := by grind
    simp [hm, this]
  · rfl

theorem sp_entered (cpu : Cpu) (level : UInt8) (handler : UInt32) :
    (cpu.entered level handler).sp = cpu.ssp - 6 :=
  sp_setSp (cpu.setSr (serviceSr cpu.sr level)) (cpu.ssp - 6)

theorem ssp_entered (cpu : Cpu) (level : UInt8) (handler : UInt32) :
    (cpu.entered level handler).ssp = cpu.ssp - 6 := by
  have sr : (cpu.entered level handler).sr = serviceSr cpu.sr level := sr_setSr cpu _
  rw [ssp, isSupervisor_eq, sr, supervises_serviceSr, if_pos rfl, sp_entered]

theorem clock_entered (cpu : Cpu) (level : UInt8) (handler : UInt32) :
    (cpu.entered level handler).clock = cpu.clock :=
  clock_setSr cpu (serviceSr cpu.sr level)

section AnyBus

variable (cpu : Cpu)

theorem ends_pushWord (value : UInt16) :
    (cpu.pushWord value).Ends fun c => c = cpu.setSp (cpu.sp - 2) := fun _ => rfl

theorem ends_pushLong (value : UInt32) :
    (cpu.pushLong value).Ends fun c => c = cpu.setSp (cpu.sp - 4) := by
  refine (ends_pushWord cpu _).bind fun c first => (ends_pushWord c _).bind fun c' second => ?_
  refine second.trans ?_
  rw [first, sp_setSp, setSp_setSp, show cpu.sp - 2 - 2 = cpu.sp - 4 by grind]

/-- An accepted request leads into its handler, with a frame below the supervisor's pointer. -/
theorem ends_interrupt_of_accepts {level : UInt8} (accepts : cpu.accepts (level &&& 7) = true) :
    (cpu.interrupt level).Ends fun c => ∃ handler, c = cpu.entered (level &&& 7) handler := by
  have sp := sp_setSr_of_supervises cpu (supervises_serviceSr cpu.sr (level &&& 7))
  simp only [interrupt, if_pos accepts]
  refine (ends_pushLong _ _).bind fun c first => (ends_pushWord c _).bind fun c' second => ?_
  refine fun high low => ⟨longOf high low, ?_⟩
  have below : cpu.ssp - 4 - 2 = cpu.ssp - 6 := by grind
  rw [second, first, sp_setSp, setSp_setSp, sp, below]
  rfl

theorem ends_interrupt_clock (level : UInt8) :
    (cpu.interrupt level).Ends fun c => c.clock = cpu.clock := by
  by_cases accepts : cpu.accepts (level &&& 7) = true
  · refine (ends_interrupt_of_accepts cpu accepts).mono ?_
    rintro c ⟨handler, rfl⟩
    exact clock_entered cpu _ handler
  · simp only [interrupt, if_neg accepts]
    rfl

end AnyBus

theorem entered_with (cpu : Cpu) (level : UInt8) (handler : UInt32) :
    ({ cpu.entered level handler with countdown := entryCost, clock := cpu.clock } : Cpu) =
      cpu.entered level handler := by
  rw [← clock_entered cpu level handler]
  rfl

theorem unwound_entered (cpu : Cpu) (level : UInt8) (handler : UInt32) :
    (cpu.entered level handler).unwound cpu.pc cpu.sr =
      { cpu with stopped := false, countdown := entryCost } := by
  let service := cpu.setSr (serviceSr cpu.sr level)
  have sp : service.sp = cpu.ssp :=
    sp_setSr_of_supervises cpu (supervises_serviceSr cpu.sr level)
  have back : cpu.ssp - 6 + 6 = service.sp := by grind
  have restored : (service.setSp (cpu.ssp - 6)).unwound cpu.pc cpu.sr = cpu := by
    rw [unwound, sp_setSp, setSp_setSp, back, setSp_sp, setSr_setSr_sr]
  have moved := unwound_with (service.setSp (cpu.ssp - 6)) cpu.pc handler cpu.sr false entryCost
    service.clock
  rw [restored] at moved
  refine moved.trans ?_
  simp only [service, clock_setSr]

/-- The words that `n` frames take below the supervisor stack pointer lie in work RAM. -/
def FramesFit (cpu : Cpu) (mapped n : Nat) : Prop :=
  ∀ j, 1 ≤ j → j ≤ 3 * n → Region.decode (cpu.ssp - UInt32.ofNat (2 * j)) mapped = .workRam

theorem FramesFit.first {cpu : Cpu} {mapped n : Nat} (fit : cpu.FramesFit mapped (n + 1)) :
    Region.decode (cpu.ssp - 2) mapped = .workRam ∧
      Region.decode (cpu.ssp - 4) mapped = .workRam ∧
      Region.decode (cpu.ssp - 6) mapped = .workRam :=
  ⟨fit 1 (by omega) (by omega), fit 2 (by omega) (by omega), fit 3 (by omega) (by omega)⟩

theorem FramesFit.entered {cpu : Cpu} {mapped n : Nat} (fit : cpu.FramesFit mapped (n + 1))
    (level : UInt8) (handler : UInt32) : (cpu.entered level handler).FramesFit mapped n := by
  intro j low high
  have deeper : cpu.ssp - 6 - UInt32.ofNat (2 * j) = cpu.ssp - UInt32.ofNat (2 * (j + 3)) := by
    rw [Nat.mul_add, UInt32.ofNat_add]
    grind
  rw [ssp_entered, deeper]
  exact fit (j + 3) (by omega) (by omega)

theorem run_interrupt {cpu : Cpu} {level : UInt8} (ha : cpu.Admits level) {m : Memory ν} (h : η)
    {n : Nat} (fit : cpu.FramesFit m.cartridge.size (n + 1)) :
    ∃ h', (cpu.interrupt level).run (Bus.answer host) (m, h) =
      (cpu.entered level (autovector m.cartridge level),
        { m with workRam := pushFrame cpu.ssp cpu.pc cpu.sr m.workRam }, h') := by
  obtain ⟨accepts, low⟩ := ha.accepts
  obtain ⟨h2, h4, h6⟩ := fit.first
  have sp := sp_setSr_of_supervises cpu (supervises_serviceSr cpu.sr level)
  have pushed := run_pushFrame host cpu.pc cpu.sr (cpu.setSr (serviceSr cpu.sr level)) m h
    (by rwa [sp]) (by rwa [sp]) (by rwa [sp])
  obtain ⟨h', vector⟩ := run_readLong_vector host ha.le_seven
    { m with workRam := pushFrame cpu.ssp cpu.pc cpu.sr m.workRam } h
  rw [sp] at pushed
  refine ⟨h', ?_⟩
  simp only [Dialogue.run_bind] at pushed
  simp only [interrupt, accepts, low, if_true, Dialogue.run_bind, pc_setSr, pushed, vector]
  rfl

end Cpu
end Genesis
