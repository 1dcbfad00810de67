import Genesis.Proofs.Machine.Permanence

/-!
# Hidden parts of the memory

A map may leave out of the memory what shows neither on the bus nor on the lines (`Memory.Hides`):
the mark of the cartridge (`Memory.hides_mark`), or what a video unit keeps and none of its answers,
lines and enables tells (`VideoUnit.Hides`). Then a console runs its programs and its frames as if
this part were not there, and what is left of the memories is the same from moment to moment
(`Machine.runFrame_mapMemory`).
-/

namespace Genesis

variable {σ ν μ η : Type}

/-- What `f` leaves out of the memory shows neither to the processor nor on the lines. -/
structure Memory.Hides [VideoUnit ν] [VideoUnit μ] (f : Memory ν → Memory μ) : Prop where
  answer : ∀ {η : Type} (host : Host η),
    Dialogue.Agree (fun (s : Memory ν × η) t => (f s.1, s.2) = t) (Bus.answer host)
      (Bus.answer host)
  render : ∀ {η : Type} (host : Host η) (line : UInt16) (m : Memory ν) (h : η),
    Machine.renderLine host line (f m, h) =
      (f (Machine.renderLine host line (m, h)).1, (Machine.renderLine host line (m, h)).2)
  lineInterruptEnabled : ∀ m,
    VideoUnit.lineInterruptEnabled (f m).video = VideoUnit.lineInterruptEnabled m.video
  frameInterruptEnabled : ∀ m,
    VideoUnit.frameInterruptEnabled (f m).video = VideoUnit.frameInterruptEnabled m.video

/-- The same console with another memory. -/
def Machine.mapMemory (f : Memory ν → Memory μ) (m : Machine σ ν) : Machine σ μ :=
  { cpu := m.cpu, memory := f m.memory, setup := m.setup, held := m.held }

namespace Memory.Hides

open Machine

variable [VideoUnit ν] [VideoUnit μ] {f : Memory ν → Memory μ} (hides : Memory.Hides f)
  (host : Host η)

def seen (f : Memory ν → Memory μ) (s : σ × Memory ν × η) : σ × Memory μ × η :=
  (s.1, f s.2.1, s.2.2)

include hides

section Program

variable (program : BusProgram σ) (m : Memory ν) (h : η)

theorem run : program.run (Bus.answer host) (f m, h) =
    seen f (program.run (Bus.answer host) (m, h)) := by
  obtain ⟨result, state⟩ := (hides.answer host).run (s := (m, h)) rfl program
  exact Prod.ext result.symm state.symm

theorem trail : (program.trail (Bus.answer host) (f m, h)).map Prod.fst =
    ((program.trail (Bus.answer host) (m, h)).map Prod.fst).map f := by
  rw [(hides.answer host).trail_eq (s := (m, h)) program, List.map_map, List.map_map]
  rfl

end Program

theorem drive (program : σ → BusProgram σ) (m : Machine σ ν) (h : η) :
    drive host program (m.mapMemory f) h =
      ((Machine.drive host program m h).1.mapMemory f, (Machine.drive host program m h).2) := by
  obtain ⟨cpu, memory, setup, held⟩ := m
  have ran := hides.run host (program cpu) memory h
  simp only [Machine.drive, mapMemory, ran, seen]

variable [Processor σ]

theorem carryOut (s : σ × Memory ν × η) (e : Event) :
    carryOut host (seen f s) e = seen f (Machine.carryOut host s e) := by
  obtain ⟨cpu, m, h⟩ := s
  cases e with
  | clock => exact hides.run host (Processor.cycle cpu) m h
  | render line => exact congrArg (Prod.mk cpu) (hides.render host line m h)
  | interrupt level reason =>
    exact hides.run host (Processor.interrupt level cpu) m (host.notice reason h)

theorem carryOutAll (events : List Event) (s : σ × Memory ν × η) :
    carryOutAll host events (seen f s) = seen f (Machine.carryOutAll host events s) := by
  induction events generalizing s with
  | nil => rfl
  | cons e events ih =>
    refine Eq.trans ?_ (ih (Machine.carryOut host s e))
    rw [← hides.carryOut]
    rfl

theorem callTrail (s : σ × Memory ν × η) (e : Event) :
    callTrail host (seen f s) e = (Machine.callTrail host s e).map f := by
  obtain ⟨cpu, m, h⟩ := s
  cases e with
  | clock => exact hides.trail host (Processor.cycle cpu) m h
  | render line =>
    simp only [Machine.callTrail, seen, hides.render host line m h, List.map_cons, List.map_nil]
  | interrupt level reason =>
    exact hides.trail host (Processor.interrupt level cpu) m (host.notice reason h)

theorem callsTrail (events : List Event) (s : σ × Memory ν × η) :
    callsTrail host events (seen f s) = (Machine.callsTrail host events s).map f := by
  induction events generalizing s with
  | nil => rfl
  | cons e events ih =>
    rw [Machine.callsTrail, Machine.callsTrail, List.map_append, hides.callTrail, hides.carryOut,
      ih]

theorem asksAfter (clocks : Nat) (line : UInt16) (s : σ × Memory ν × η) :
    asksAfter host clocks line (seen f s) = Machine.asksAfter host clocks line s := by
  rw [Machine.asksAfter, Machine.asksAfter, hides.carryOutAll]
  exact hides.lineInterruptEnabled _

theorem beforeLine (clocks : Nat) (s : σ × Memory ν × η) (k : Nat) :
    beforeLine host clocks (seen f s) k = seen f (Machine.beforeLine host clocks s k) := by
  induction k with
  | zero => rfl
  | succ k ih =>
    rw [beforeLine_succ, beforeLine_succ, ih, runLine_eq, runLine_eq, hides.asksAfter,
      hides.carryOutAll]

section Frame

variable (m : Machine σ ν) (h : η)

theorem frameCalls :
    frameCalls host (m.mapMemory f) h = Machine.frameCalls host m h := by
  have start : ((m.mapMemory f).cpu, (m.mapMemory f).memory, h) =
      seen f (m.cpu, m.memory, h) := rfl
  have setup : (m.mapMemory f).setup = m.setup := rfl
  have asks (clocks : Nat) : asksFrom host clocks (seen f (m.cpu, m.memory, h)) =
      asksFrom host clocks (m.cpu, m.memory, h) :=
    funext fun k => by rw [asksFrom, asksFrom, hides.beforeLine, hides.asksAfter]
  have last (s : σ × Memory ν × η) : VideoUnit.frameInterruptEnabled (seen f s).2.1.video =
      VideoUnit.frameInterruptEnabled s.2.1.video := hides.frameInterruptEnabled s.2.1
  simp only [Machine.frameCalls, start, setup, asks, hides.beforeLine, last]

theorem frameTrail :
    frameTrail host (m.mapMemory f) h = (Machine.frameTrail host m h).map f := by
  rw [Machine.frameTrail, Machine.frameTrail, ← hides.callsTrail, hides.frameCalls]
  rfl

theorem runFrame_mapMemory :
    runFrame host (m.mapMemory f) h =
      ((runFrame host m h).1.mapMemory f, (runFrame host m h).2) := by
  have calls := hides.carryOutAll host (Machine.frameCalls host m h) (m.cpu, m.memory, h)
  rw [runFrame_eq_frameCalls, runFrame_eq_frameCalls, hides.frameCalls]
  simp only [seen] at calls
  simp only [mapMemory, calls]

end Frame

end Memory.Hides

section Mark

variable [VideoUnit ν] (host : Host η) (writeable : Bool)

theorem Bus.readWord_mark (address : UInt32) (lanes : Lanes) (m : Memory ν) (h : η) :
    Bus.readWord host address lanes (m.mark writeable) h =
      let r := Bus.readWord host address lanes m h
      (r.1, r.2.1.mark writeable, r.2.2) := by
  unfold Bus.readWord
  rw [Memory.size_mark]
  cases Region.decode address m.cartridge.size with
  | z80Ram offset =>
    dsimp only
    cases Bus.z80Cell? offset lanes <;> rfl
  | _ => rfl

theorem Bus.writeWord_mark (address : UInt32) (lanes : Lanes) (value : UInt16) (m : Memory ν)
    (h : η) :
    Bus.writeWord host address lanes value (m.mark writeable) h =
      let r := Bus.writeWord host address lanes value m h
      (r.1.mark writeable, r.2) := by
  unfold Bus.writeWord
  rw [Memory.size_mark]
  cases Region.decode address m.cartridge.size with
  | z80Ram offset =>
    dsimp only
    cases Bus.z80Cell? offset lanes <;> rfl
  | padData port | padControl port => cases lanes <;> rfl
  | _ => rfl

theorem Bus.read_mark (address : UInt32) (lanes : Lanes) (m : Memory ν) (h : η) :
    Bus.read host address lanes (m.mark writeable) h =
      let r := Bus.read host address lanes m h
      (r.1, r.2.1.mark writeable, r.2.2) := by
  simp only [Bus.read, readWord_mark]

theorem Bus.write_mark (address : UInt32) (lanes : Lanes) (value : UInt16) (m : Memory ν) (h : η) :
    Bus.write host address lanes value (m.mark writeable) h =
      let r := Bus.write host address lanes value m h
      (r.1.mark writeable, r.2) := by
  simp only [Bus.write, writeWord_mark]

/-- The bus never looks at the mark of the cartridge. -/
theorem Memory.hides_mark : Memory.Hides (Memory.mark writeable : Memory ν → Memory ν) where
  answer host := by
    rintro q ⟨m, h⟩ _ rfl
    cases q with
    | read address lanes => simp only [Bus.answer, Bus.read_mark, and_self]
    | write address lanes value => simp only [Bus.answer, Bus.write_mark, and_self]
    | note n => exact ⟨rfl, rfl⟩
  render _ _ _ _ := rfl
  lineInterruptEnabled _ := rfl
  frameInterruptEnabled _ := rfl

end Mark

section Video

variable [VideoUnit ν] [VideoUnit μ]

/-- What `f` leaves out of the state of a video unit shows neither at its ports nor on its lines. -/
structure VideoUnit.Hides (f : ν → μ) : Prop where
  readData : ∀ v, VideoUnit.readData (f v) =
    ⟨((VideoUnit.readData v).value.1, f (VideoUnit.readData v).value.2),
      (VideoUnit.readData v).notices⟩
  writeData : ∀ value v, VideoUnit.writeData value (f v) =
    ⟨f (VideoUnit.writeData value v).value, (VideoUnit.writeData value v).notices⟩
  readStatus : ∀ v, VideoUnit.readStatus (f v) =
    ⟨((VideoUnit.readStatus v).value.1, f (VideoUnit.readStatus v).value.2),
      (VideoUnit.readStatus v).notices⟩
  writeControl : ∀ value v,
    VideoUnit.writeControl value (f v) = f <$> VideoUnit.writeControl value v
  render : ∀ line v, VideoUnit.render line (f v) =
    ((VideoUnit.render line v).1, f (VideoUnit.render line v).2)
  lineInterruptEnabled : ∀ v,
    VideoUnit.lineInterruptEnabled (f v) = VideoUnit.lineInterruptEnabled v
  frameInterruptEnabled : ∀ v,
    VideoUnit.frameInterruptEnabled (f v) = VideoUnit.frameInterruptEnabled v

/-- The same memory around another video unit. -/
def Memory.mapVideo (f : ν → μ) (m : Memory ν) : Memory μ :=
  { cartridge := m.cartridge, workRam := m.workRam, z80Ram := m.z80Ram, pads := m.pads,
    video := f m.video }

namespace VideoUnit.Hides

variable {f : ν → μ} (hides : VideoUnit.Hides f) (host : Host η)

include hides

theorem readWord (address : UInt32) (lanes : Lanes) (m : Memory ν) (h : η) :
    Bus.readWord host address lanes (m.mapVideo f) h =
      let r := Bus.readWord host address lanes m h
      (r.1, r.2.1.mapVideo f, r.2.2) := by
  unfold Bus.readWord
  simp only [Memory.mapVideo]
  cases Region.decode address m.cartridge.size with
  | z80Ram offset =>
    dsimp only
    cases Bus.z80Cell? offset lanes <;> rfl
  | videoData => simp only [hides.readData]
  | videoControl => simp only [hides.readStatus]
  | _ => rfl

theorem writeWord (address : UInt32) (lanes : Lanes) (value : UInt16) (m : Memory ν) (h : η) :
    Bus.writeWord host address lanes value (m.mapVideo f) h =
      let r := Bus.writeWord host address lanes value m h
      (r.1.mapVideo f, r.2) := by
  unfold Bus.writeWord
  simp only [Memory.mapVideo]
  cases Region.decode address m.cartridge.size with
  | z80Ram offset =>
    dsimp only
    cases Bus.z80Cell? offset lanes <;> rfl
  | padData port | padControl port => cases lanes <;> rfl
  | videoData => simp only [hides.writeData]
  | videoControl => simp only [hides.writeControl, Dialogue.run_map]
  | _ => rfl

theorem mapVideo : Memory.Hides (Memory.mapVideo f) where
  answer host := by
    rintro q ⟨m, h⟩ _ rfl
    cases q with
    | read address lanes => simp only [Bus.answer, Bus.read, hides.readWord, and_self]
    | write address lanes value => simp only [Bus.answer, Bus.write, hides.writeWord, and_self]
    | note n => exact ⟨rfl, rfl⟩
  render host line m h := by simp only [Machine.renderLine, Memory.mapVideo, hides.render]
  lineInterruptEnabled m := hides.lineInterruptEnabled m.video
  frameInterruptEnabled m := hides.frameInterruptEnabled m.video

end VideoUnit.Hides

end Video
end Genesis
