import Genesis.Proofs.Machine.HiddenState
import Genesis.Proofs.Machine.SteppedFrame

/-!
# Settings without effect

The variant of the console and the mark that its cartridge is writeable are kept for hosts that set
them; no operation looks at either, and neither does the bus. Every operation does the same to a
console without the two (`perform_plain`). So two consoles that differ in nothing else pass through
the same memories, return the same, ask and tell their hosts the same, and differ in nothing else at
the end (`variant_and_mark_are_inert`).
-/

namespace Genesis

theorem Cartridge.install?_mark (c : Cartridge) (writeable : Bool) (image : Array UInt8) :
    install? { c with writeable } image = (c.install? image).map fun c => { c with writeable } := by
  unfold install?
  split <;> rfl

namespace Machine

variable {σ ν η : Type}

/-- The same console, except for the variant and the writeable mark. -/
structure AlikeButMarks (m m' : Machine σ ν) : Prop where
  cpu : m.cpu = m'.cpu
  memory : m.memory.mark false = m'.memory.mark false
  held : m.held = m'.held
  pal : m.settings.pal = m'.settings.pal
  timing : m.settings.timing = m'.settings.timing

/-- The console without variant and mark. -/
def plain (m : Machine σ ν) : Machine σ ν := (m.setJapanese false).mapMemory (Memory.mark false)

theorem alikeButMarks_iff {m m' : Machine σ ν} : m.AlikeButMarks m' ↔ m.plain = m'.plain := by
  obtain ⟨cpu, memory, ⟨pal, japanese, timing⟩, held⟩ := m
  obtain ⟨cpu', memory', ⟨pal', japanese', timing'⟩, held'⟩ := m'
  simp only [plain, setJapanese, mapMemory, mk.injEq, Setup.mk.injEq]
  constructor
  · rintro ⟨rfl, memory, rfl, rfl, rfl⟩
    exact ⟨rfl, memory, ⟨rfl, trivial, rfl⟩, rfl⟩
  · rintro ⟨rfl, memory, ⟨rfl, -, rfl⟩, rfl⟩
    exact ⟨rfl, memory, rfl, rfl, rfl⟩

/-- The same is returned, the consoles are alike, and the host is left in the same state. -/
structure SameResult {α : Type} (r r' : α × Machine σ ν × η) : Prop where
  returned : r.1 = r'.1
  console : r.2.1.plain = r'.2.1.plain
  host : r.2.2 = r'.2.2

theorem SameResult.of_plain {α : Type} (x : α) {s s' : Machine σ ν × η}
    (eq : s = (s'.1.plain, s'.2)) : SameResult (x, s) (x, s') := by
  rw [eq]
  exact ⟨rfl, rfl, rfl⟩

theorem SameResult.map {α β : Type} {r r' : α × Machine σ ν × η} (same : SameResult r r')
    (f : α → β) : SameResult (f r.1, r.2.1, r.2.2) (f r'.1, r'.2.1, r'.2.2) :=
  ⟨congrArg f same.returned, same.console, same.host⟩

section Plain

variable (m : Machine σ ν) (host : Host η) (h : η)

theorem setTiming_plain (t : Timing) :
    SameResult ((setTiming t m.plain).1, (setTiming t m.plain).2, h)
      ((setTiming t m).1, (setTiming t m).2, h) := by
  unfold setTiming
  cases t.zeroDivisor? <;> exact ⟨rfl, rfl, rfl⟩

/-- An accepted configuration sets the region, and both marks alike. -/
theorem applyConfig_plain (c : Configuration) :
    SameResult ((applyConfig c m.plain).1, (applyConfig c m.plain).2, h)
      ((applyConfig c m).1, (applyConfig c m).2, h) := by
  unfold applyConfig
  cases c.timing with
  | none => exact ⟨rfl, rfl, rfl⟩
  | some t =>
    simp only [setTiming]
    cases t.zeroDivisor? <;> exact ⟨rfl, rfl, rfl⟩

theorem loadConfig_plain (text : String) :
    SameResult ((loadConfig text m.plain).1, (loadConfig text m.plain).2, h)
      ((loadConfig text m).1, (loadConfig text m).2, h) := by
  unfold loadConfig
  cases Configuration.parse text with
  | error fault => exact ⟨rfl, rfl, rfl⟩
  | ok c => exact applyConfig_plain m h c

theorem unmount_plain (id : String) :
    SameResult ((unmount id m.plain).1, (unmount id m.plain).2, h)
      ((unmount id m).1, (unmount id m).2, h) := by
  unfold unmount
  split <;> exact ⟨rfl, rfl, rfl⟩

theorem installRom_plain (image : Array UInt8) :
    installRom host image m.plain h =
      ((installRom host image m h).1, (installRom host image m h).2.1.plain,
        (installRom host image m h).2.2) := by
  have installed : m.plain.memory.cartridge.install? image =
      (m.memory.cartridge.install? image).map fun c => { c with writeable := false } :=
    m.memory.cartridge.install?_mark false image
  unfold installRom
  rw [installed]
  cases m.memory.cartridge.install? image <;> rfl

variable [VideoUnit ν]

theorem drive_plain (program : σ → BusProgram σ) :
    drive host program m.plain h =
      ((drive host program m h).1.plain, (drive host program m h).2) :=
  (Memory.hides_mark false).drive host program (m.setJapanese false) h

variable [Processor σ]

theorem mount_plain (id : String) (image : Array UInt8) :
    SameResult (mount host id image m.plain h) (mount host id image m h) := by
  unfold mount
  split
  · rw [installRom_plain]
    obtain ⟨result, m, h⟩ := installRom host image m h
    cases result with
    | error e => exact ⟨rfl, rfl, rfl⟩
    | ok _ => exact .of_plain _ (drive_plain m host.released h Processor.reset)
  · exact ⟨rfl, rfl, rfl⟩

theorem request_plain (r : Request) :
    SameResult (r.perform host m.plain h) (r.perform host m h) := by
  cases r with
  | installRom image =>
    simp only [Request.perform, installRom_plain]
    exact ⟨rfl, rfl, rfl⟩
  | mount id image => exact mount_plain m host h id image
  | unmount id => exact unmount_plain m h id
  | setTiming t => exact setTiming_plain m h t
  | applyConfig c => exact applyConfig_plain m h c
  | loadConfig text => exact loadConfig_plain m h text

theorem frameCalls_setJapanese (japanese : Bool) :
    frameCalls host (m.setJapanese japanese) h = frameCalls host m h := by
  have clocks : clocksPerLine (m.setJapanese japanese).setup = clocksPerLine m.setup := rfl
  have cpu : (m.setJapanese japanese).cpu = m.cpu := rfl
  have memory : (m.setJapanese japanese).memory = m.memory := rfl
  simp only [frameCalls, clocks, cpu, memory]

theorem runFrame_plain :
    runFrame host m.plain h = ((runFrame host m h).1.plain, (runFrame host m h).2) := by
  have variant : runFrame host (m.setJapanese false) h =
      ((runFrame host m h).1.setJapanese false, (runFrame host m h).2) := by
    rw [runFrame_eq_frameCalls, runFrame_eq_frameCalls, frameCalls_setJapanese]
    rfl
  rw [plain, (Memory.hides_mark false).runFrame_mapMemory, variant]
  -- The frame itself is not to be run to compare the two sides.
  generalize runFrame host m h = r
  rfl

theorem stepFrame_plain :
    SameResult (stepFrame host m.plain h) (stepFrame host m h) := by
  have frame := runFrame_plain m (pictureHost host m.held) (Picture.empty, h)
  have held : m.plain.held = m.held := rfl
  simp only [stepFrame_eq, held, frame]
  generalize runFrame (pictureHost host m.held) m (Picture.empty, h) = r
  exact ⟨rfl, rfl, rfl⟩

theorem frameTrail_plain :
    frameTrail host m.plain h = (frameTrail host m h).map (Memory.mark false) := by
  rw [plain, (Memory.hides_mark false).frameTrail, frameTrail, frameCalls_setJapanese]
  rfl

theorem perform_plain (op : Operation) :
    SameResult (op.perform host m.plain h) (op.perform host m h) := by
  cases op with
  | request r => exact (request_plain m host h r).map Outcome.verdict
  | reset => exact .of_plain _ (drive_plain m host.released h Processor.reset)
  | runFrame => exact .of_plain _ (runFrame_plain m host h)
  | stepFrame =>
    have same := stepFrame_plain m host h
    simp only [Operation.perform]
    generalize stepFrame host m.plain h = r at same
    generalize stepFrame host m h = r' at same
    exact same.map Outcome.frame
  | read address lanes =>
    have met : Bus.read host address lanes m.plain.memory h = _ :=
      Bus.read_mark host false address lanes m.memory h
    simp only [Operation.perform, met]
    exact ⟨rfl, rfl, rfl⟩
  | write address lanes value =>
    have met : Bus.write host address lanes value m.plain.memory h = _ :=
      Bus.write_mark host false address lanes value m.memory h
    simp only [Operation.perform, met]
    exact ⟨rfl, rfl, rfl⟩
  | _ => exact ⟨rfl, rfl, rfl⟩

theorem trail_plain (op : Operation) :
    (op.trail host m.plain h).map (Memory.mark false) =
      (op.trail host m h).map (Memory.mark false) := by
  have console (m m' : Machine σ ν) (same : m.plain = m'.plain) :
      m.memory.mark false = m'.memory.mark false := (alikeButMarks_iff.2 same).memory
  have around : [m.plain.memory, (op.perform host m.plain h).2.1.memory].map (Memory.mark false) =
      [m.memory, (op.perform host m h).2.1.memory].map (Memory.mark false) := by
    simp only [List.map_cons, List.map_nil, console _ _ (perform_plain m host h op).console]
    rfl
  have twice : Memory.mark (ν := ν) false ∘ Memory.mark false = Memory.mark false := rfl
  have framed {θ : Type} (host : Host θ) (h : θ) :
      (frameTrail host m.plain h).map (Memory.mark false) =
        (frameTrail host m h).map (Memory.mark false) := by
    rw [frameTrail_plain, List.map_map, twice]
  cases op with
  | reset =>
    have ran := (Memory.hides_mark false).trail host.released (Processor.reset m.cpu) m.memory h
    exact (congrArg (List.map _) ran).trans (List.map_map.trans (by rw [twice]; rfl))
  | runFrame => exact framed host h
  | stepFrame => exact framed (pictureHost host m.held) (Picture.empty, h)
  | _ => exact around

end Plain

namespace SameResult

variable {α : Type} {r r' r'' : α × Machine σ ν × η}

theorem symm (same : SameResult r r') : SameResult r' r :=
  ⟨same.returned.symm, same.console.symm, same.host.symm⟩

theorem trans (same : SameResult r r') (same' : SameResult r' r'') : SameResult r r'' :=
  ⟨same.returned.trans same'.returned, same.console.trans same'.console,
    same.host.trans same'.host⟩

end SameResult

section Alike

variable [Processor σ] [VideoUnit ν] {m m' : Machine σ ν} (alike : m.plain = m'.plain)

include alike

theorem perform_alike (host : Host η) (h : η) (op : Operation) :
    SameResult (op.perform host m h) (op.perform host m' h) := by
  have here := perform_plain m host h op
  rw [alike] at here
  exact here.symm.trans (perform_plain m' host h op)

theorem trail_alike (host : Host η) (h : η) (op : Operation) :
    (op.trail host m h).map (Memory.mark false) = (op.trail host m' h).map (Memory.mark false) := by
  rw [← trail_plain, alike, trail_plain]

/-- The two runs stay side by side, operation after operation. -/
theorem runSteps_alike (steps : List (Host η × Operation)) (h : η) :
    SameResult (runSteps steps (m, h)) (runSteps steps (m', h)) ∧
      (moments steps (m, h)).map (Memory.mark false) =
        (moments steps (m', h)).map (Memory.mark false) := by
  induction steps generalizing m m' h with
  | nil => exact ⟨⟨rfl, alike, rfl⟩, congrArg (fun x => [x]) (alikeButMarks_iff.2 alike).memory⟩
  | cons step steps ih =>
    obtain ⟨host, op⟩ := step
    have now := trail_alike alike host h op
    have one := perform_alike alike host h op
    simp only [runSteps_cons, moments, List.map_append, now]
    generalize op.perform host m h = r at one ⊢
    generalize op.perform host m' h = r' at one ⊢
    obtain ⟨outcome, m, h⟩ := r
    obtain ⟨_, m', _⟩ := r'
    obtain ⟨rfl, next, rfl⟩ := one
    obtain ⟨⟨outcomes, last, state⟩, later⟩ := ih next h
    exact ⟨⟨congrArg (outcome :: ·) outcomes, last, state⟩, congrArg _ later⟩

end Alike

def messages [Processor σ] [VideoUnit ν] (steps : List (Host η × Operation)) (m : Machine σ ν)
    (h : η) : List Message :=
  (runSteps (steps.map fun step => (step.1.transcribing, step.2)) (m, [], h)).2.2.1

/-- Consoles that differ in the variant and in the writeable mark alone return the same from any
operations, ask and tell the hosts the same, leave them in the same state, and pass through the same
memories, the mark apart. In the end they differ in these two settings at most. -/
theorem variant_and_mark_are_inert [Processor σ] [VideoUnit ν] {m m' : Machine σ ν}
    (alike : m.AlikeButMarks m') (steps : List (Host η × Operation)) (h : η) :
    let ran := runSteps steps (m, h)
    let ran' := runSteps steps (m', h)
    ran.1 = ran'.1 ∧ ran.2.2 = ran'.2.2 ∧ messages steps m h = messages steps m' h ∧
      (moments steps (m, h)).map (Memory.mark false) =
        (moments steps (m', h)).map (Memory.mark false) ∧
      ran.2.1.AlikeButMarks ran'.2.1 := by
  have same := alikeButMarks_iff.1 alike
  obtain ⟨⟨outcomes, last, state⟩, passed⟩ := runSteps_alike same steps h
  obtain ⟨⟨-, -, told⟩, -⟩ := runSteps_alike same
    (steps.map fun step => (step.1.transcribing, step.2)) ([], h)
  exact ⟨outcomes, state, congrArg Prod.fst told, passed, alikeButMarks_iff.2 last⟩

/-- With a cartridge that is written to, a frame in between and a configuration that is applied. -/
theorem variant_and_mark_are_inert_in_frame :
    let m : Machine Cpu Vdp := {
      cpu := {}
      memory := { cartridge := { buffer := #[0x4E, 0x71], size := 2 }, video := Vdp.initial } }
    let m' : Machine Cpu Vdp := (m.setJapanese true).setRomWriteable true
    let steps : List (Host Unit × Operation) := [
      (Host.idle, .write 0 .both 0xFFFF),
      (Host.idle, .runFrame),
      (Host.idle, .request (.applyConfig { pal := true })),
      (Host.idle, .stepFrame)]
    m.AlikeButMarks m' ∧ m ≠ m' ∧
      (runSteps steps (m, ())).1 = (runSteps steps (m', ())).1 := by
  intro m m' steps
  have alike : m.AlikeButMarks m' := ⟨rfl, rfl, rfl, rfl, rfl⟩
  have differ : m ≠ m' := by
    intro same
    exact absurd (congrArg (fun m => m.settings.japanese) same) (by decide)
  exact ⟨alike, differ, (variant_and_mark_are_inert alike steps ()).1⟩

end Machine
end Genesis
