import Genesis.Cpu.Execution
import Genesis.Proofs.Machine.Insertion
import Genesis.Proofs.Machine.Operation
import Genesis.Proofs.Machine.Schedule

/-!
# The cartridge during a run

Between two insertions nothing reaches the cartridge: not the processor, not a transfer of the video
unit, not a refused operation. So at all moments of a run, those within a frame included, an address
of the cartridge shows the same word (`cartridge_is_permanent`).
-/

namespace Genesis

namespace Dialogue

variable {Q : Type} {A : Q → Type} {α σ : Type}

/-- The states that a run passes through: the one that each question meets, and the last. -/
def trail (answer : (q : Q) → σ → A q × σ) : Dialogue Q A α → σ → List σ
  | done _, s => [s]
  | ask q next, s => s :: trail answer (next (answer q s).1) (answer q s).2

/-- What every answer keeps holds at all states of a run. -/
theorem trail_induction {answer : (q : Q) → σ → A q × σ} {P : σ → Prop}
    (keeps : ∀ q s, P s → P (answer q s).2) (d : Dialogue Q A α) {s : σ} (h : P s) :
    ∀ t ∈ d.trail answer s, P t := by
  induction d generalizing s with
  | done a =>
    intro t mem
    rw [List.mem_singleton.1 mem]
    exact h
  | ask q next ih =>
    intro t mem
    rcases List.mem_cons.1 mem with first | later
    · rw [first]
      exact h
    · exact ih _ (keeps q s h) t later

theorem Agree.trail_eq {τ : Type} {f : σ → τ} {answer : (q : Q) → σ → A q × σ}
    {answer' : (q : Q) → τ → A q × τ} (agree : Agree (fun s t => f s = t) answer answer')
    (d : Dialogue Q A α) {s : σ} : d.trail answer' (f s) = (d.trail answer s).map f := by
  induction d generalizing s with
  | done a => rfl
  | ask q next ih =>
    obtain ⟨same, state⟩ := agree q s (f s) rfl
    rw [trail, trail, List.map_cons, ← state, ← same, ih]

end Dialogue

namespace Machine

variable {σ ν η : Type} [Processor σ] [VideoUnit ν] (host : Host η)

/-- The memories that a call passes through. -/
def callTrail (s : σ × Memory ν × η) : Event → List (Memory ν)
  | .clock => ((Processor.cycle s.1).trail (Bus.answer host) s.2).map Prod.fst
  | .render line => [s.2.1, (renderLine host line s.2).1]
  | .interrupt level reason =>
    ((Processor.interrupt level s.1).trail (Bus.answer host)
      (s.2.1, host.notice reason s.2.2)).map Prod.fst

def callsTrail : List Event → σ × Memory ν × η → List (Memory ν)
  | [], s => [s.2.1]
  | e :: events, s => callTrail host s e ++ callsTrail events (carryOut host s e)

/-- The calls of a frame, with the requests that its own states enable. -/
def frameCalls (m : Machine σ ν) (h : η) : List Event :=
  let n := (clocksPerLine m.setup).toNat
  let start := (m.cpu, m.memory, h)
  frameEvents n (asksFrom host n start)
    (VideoUnit.frameInterruptEnabled (beforeLine host n start 224).2.1.video)

theorem runFrame_eq_frameCalls (m : Machine σ ν) (h : η) :
    runFrame host m h =
      let s := carryOutAll host (frameCalls host m h) (m.cpu, m.memory, h)
      ({ m with cpu := s.1, memory := s.2.1 }, s.2.2) := by
  rw [runFrame_eq_request, frameCalls, frameEvents, carryOutAll_append, ← beforeLine_eq]
  simp only [requestInterrupt_eq]

def frameTrail (m : Machine σ ν) (h : η) : List (Memory ν) :=
  callsTrail host (frameCalls host m h) (m.cpu, m.memory, h)

/-- The memories that an operation passes through. -/
def Operation.trail (m : Machine σ ν) (h : η) : Operation → List (Memory ν)
  | .reset =>
    ((Processor.reset m.cpu).trail (Bus.answer host.released) (m.memory, h)).map Prod.fst
  | .runFrame => frameTrail host m h
  | .stepFrame => frameTrail (pictureHost host m.held) m (Picture.empty, h)
  | op => [m.memory, (op.perform host m h).2.1.memory]

/-- The memories that a run passes through. -/
def moments : List (Host η × Operation) → Machine σ ν × η → List (Memory ν)
  | [], s => [s.1.memory]
  | (host, op) :: steps, s =>
    op.trail host s.1 s.2 ++ moments steps (op.perform host s.1 s.2).2

/-- A property of the memory that neither the bus nor the raster breaks. -/
structure Kept (P : Memory ν → Prop) : Prop where
  answer : ∀ {η : Type} (host : Host η) (q : BusRequest) (s : Memory ν × η),
    P s.1 → P (Bus.answer host q s).2.1
  render : ∀ {η : Type} (host : Host η) (line : UInt16) (s : Memory ν × η),
    P s.1 → P (renderLine host line s).1

namespace Kept

variable {P : Memory ν → Prop} (kept : Kept P)

include kept

omit [Processor σ] in
theorem of_mem_trail (program : BusProgram σ) {s : Memory ν × η} (h : P s.1) :
    ∀ x ∈ (program.trail (Bus.answer host) s).map Prod.fst, P x := by
  intro x mem
  obtain ⟨t, passed, rfl⟩ := List.mem_map.1 mem
  exact Dialogue.trail_induction (P := fun s : Memory ν × η => P s.1) (kept.answer host) program h t
    passed

omit [Processor σ] in
theorem run (program : BusProgram σ) {s : Memory ν × η} (h : P s.1) :
    P (program.run (Bus.answer host) s).2.1 :=
  Dialogue.run_induction (P := fun s : Memory ν × η => P s.1) (kept.answer host) program h

theorem carryOut {s : σ × Memory ν × η} (h : P s.2.1) (e : Event) :
    P (carryOut host s e).2.1 := by
  cases e with
  | clock => exact kept.run host _ h
  | render line => exact kept.render host line s.2 h
  | interrupt level reason => exact kept.run (s := (s.2.1, host.notice reason s.2.2)) host _ h

theorem carryOutAll (events : List Event) {s : σ × Memory ν × η} (h : P s.2.1) :
    P (carryOutAll host events s).2.1 := by
  induction events generalizing s with
  | nil => exact h
  | cons e events ih => exact ih (kept.carryOut host h e)

theorem of_mem_callTrail {s : σ × Memory ν × η} (h : P s.2.1) (e : Event) :
    ∀ x ∈ callTrail host s e, P x := by
  cases e with
  | clock => exact kept.of_mem_trail host _ h
  | render line =>
    have rendered := kept.render host line s.2 h
    intro x mem
    simp only [callTrail, List.mem_cons, List.not_mem_nil, or_false] at mem
    rcases mem with rfl | rfl
    · exact h
    · exact rendered
  | interrupt level reason =>
    exact kept.of_mem_trail (s := (s.2.1, host.notice reason s.2.2)) host _ h

theorem of_mem_callsTrail (events : List Event) {s : σ × Memory ν × η} (h : P s.2.1) :
    ∀ x ∈ callsTrail host events s, P x := by
  induction events generalizing s with
  | nil =>
    intro x mem
    rw [List.mem_singleton.1 mem]
    exact h
  | cons e events ih =>
    intro x mem
    rcases List.mem_append.1 mem with now | later
    · exact kept.of_mem_callTrail host h e x now
    · exact ih (kept.carryOut host h e) x later

theorem runFrame (m : Machine σ ν) (h : η) (start : P m.memory) :
    P (runFrame host m h).1.memory := by
  rw [runFrame_eq_frameCalls]
  exact kept.carryOutAll host _ start

theorem of_mem_frameTrail (m : Machine σ ν) (h : η) (start : P m.memory) :
    ∀ x ∈ frameTrail host m h, P x :=
  kept.of_mem_callsTrail host _ start

end Kept

theorem kept_cartridge (c : Cartridge) : Kept (ν := ν) fun x => x.cartridge = c where
  answer host q s same := by rw [Bus.cartridge_answer, same]
  render host line s same := same

/-- The slot stays as it is: a request inserts nothing and takes nothing out. -/
def Operation.KeepsSlot : Operation → Prop
  | .request r => r.KeepsSlot
  | _ => True

instance (op : Operation) : Decidable op.KeepsSlot := by
  cases op <;> unfold Operation.KeepsSlot <;> infer_instance

section Operation

variable (m : Machine σ ν) (h : η)

theorem cartridge_runFrame : (runFrame host m h).1.memory.cartridge = m.memory.cartridge :=
  (kept_cartridge m.memory.cartridge).runFrame host m h rfl

theorem cartridge_stepFrame : (stepFrame host m h).2.1.memory.cartridge = m.memory.cartridge :=
  cartridge_runFrame (pictureHost host m.held) m (Picture.empty, h)

theorem cartridge_perform_of_keepsSlot {op : Operation} (keeps : op.KeepsSlot) :
    (op.perform host m h).2.1.memory.cartridge.unmarked = m.memory.cartridge.unmarked := by
  cases op with
  | request r => exact (cartridge_perform host m h r).trans (r.onCartridge_of_keepsSlot _ keeps)
  | reset =>
    exact congrArg Cartridge.unmarked (cartridge_drive host.released m h Processor.reset)
  | runFrame => exact congrArg Cartridge.unmarked (cartridge_runFrame host m h)
  | stepFrame => exact congrArg Cartridge.unmarked (cartridge_stepFrame host m h)
  | read address lanes => exact congrArg Cartridge.unmarked (Bus.cartridge_read host lanes h)
  | write address lanes value =>
    exact congrArg Cartridge.unmarked (Bus.cartridge_write host lanes value h)
  | _ => rfl

theorem cartridge_of_mem_trail {op : Operation} (keeps : op.KeepsSlot) :
    ∀ x ∈ op.trail host m h, x.cartridge.unmarked = m.memory.cartridge.unmarked := by
  have kept := kept_cartridge (ν := ν) m.memory.cartridge
  have around : ∀ x ∈ [m.memory, (op.perform host m h).2.1.memory],
      x.cartridge.unmarked = m.memory.cartridge.unmarked := by
    intro x mem
    simp only [List.mem_cons, List.not_mem_nil, or_false] at mem
    rcases mem with rfl | rfl
    · rfl
    · exact cartridge_perform_of_keepsSlot host m h keeps
  have within {l : List (Memory ν)} (same : ∀ x ∈ l, x.cartridge = m.memory.cartridge) :
      ∀ x ∈ l, x.cartridge.unmarked = m.memory.cartridge.unmarked :=
    fun x mem => congrArg Cartridge.unmarked (same x mem)
  cases op with
  | reset => exact within (kept.of_mem_trail host.released _ rfl)
  | runFrame => exact within (kept.of_mem_frameTrail host m h rfl)
  | stepFrame => exact within (kept.of_mem_frameTrail (pictureHost host m.held) m _ rfl)
  | _ => exact around

end Operation

theorem cartridge_of_mem_moments {steps : List (Host η × Operation)}
    (keep : ∀ step ∈ steps, step.2.KeepsSlot) (s : Machine σ ν × η) :
    ∀ x ∈ moments steps s, x.cartridge.unmarked = s.1.memory.cartridge.unmarked := by
  induction steps generalizing s with
  | nil =>
    intro x mem
    rw [List.mem_singleton.1 mem]
  | cons step steps ih =>
    obtain ⟨host, op⟩ := step
    have keeps : op.KeepsSlot := keep (host, op) (by simp)
    intro x mem
    rcases List.mem_append.1 mem with now | later
    · exact cartridge_of_mem_trail host s.1 s.2 keeps x now
    · rw [ih (fun step mem => keep step (by simp [mem])) _ x later]
      exact cartridge_perform_of_keepsSlot host s.1 s.2 keeps

theorem runSteps_mem_moments (steps : List (Host η × Operation)) (s : Machine σ ν × η) :
    (runSteps steps s).2.1.memory ∈ moments steps s := by
  induction steps generalizing s with
  | nil => exact List.mem_singleton.2 rfl
  | cons step steps ih => exact List.mem_append_right _ (ih _)

section SameCartridge

variable {x y : Memory ν} (same : x.cartridge.unmarked = y.cartridge.unmarked) {η' : Type}
  (host' : Host η') (h : η) (h' : η') {address : UInt32}
  (mapped : Region.decode address x.cartridge.size = .cartridge)

include same

omit [VideoUnit ν] in
theorem word_eq_of_cartridge (offset : Nat) : x.cartridge.word offset = y.cartridge.word offset :=
  congrArg (fun c => c.word offset) same

include mapped

omit [VideoUnit ν] in
theorem decode_eq_of_cartridge : Region.decode address y.cartridge.size = .cartridge := by
  have size : x.cartridge.size = y.cartridge.size := congrArg (fun c => c.size) same
  rwa [← size]

theorem read_eq_of_cartridge (lanes : Lanes) :
    (Bus.read host address lanes x h).1 = (Bus.read host' address lanes y h').1 := by
  rw [Bus.read_cartridge host lanes h mapped,
    Bus.read_cartridge host' lanes h' (decode_eq_of_cartridge same mapped),
    word_eq_of_cartridge same]

omit [VideoUnit ν] in
theorem fetch_eq_of_cartridge :
    (Bus.fetch host x.cartridge x.workRam address h).1 =
      (Bus.fetch host' y.cartridge y.workRam address h').1 := by
  rw [Bus.fetch_cartridge host h mapped,
    Bus.fetch_cartridge host' h' (decode_eq_of_cartridge same mapped), word_eq_of_cartridge same]

end SameCartridge

/-- As long as nothing is inserted or taken out, the cartridge stays as it is, its mark apart, and
an address of the cartridge shows the same word at any two moments of the run, to the processor and
to the video unit. -/
theorem cartridge_is_permanent {steps : List (Host η × Operation)}
    (keep : ∀ step ∈ steps, step.2.KeepsSlot) (m : Machine σ ν) (h : η) :
    (runSteps steps (m, h)).2.1.memory.cartridge.unmarked = m.memory.cartridge.unmarked ∧
    (∀ x ∈ moments steps (m, h), x.cartridge.size = m.memory.cartridge.size ∧
      ∀ offset, x.cartridge.byte offset = m.memory.cartridge.byte offset) ∧
    (∀ x ∈ moments steps (m, h), ∀ y ∈ moments steps (m, h), ∀ address,
      Region.decode address x.cartridge.size = .cartridge →
      ∀ (η' : Type) (hostX hostY : Host η') (hX hY : η'),
        (∀ lanes, (Bus.read hostX address lanes x hX).1 =
          (Bus.read hostY address lanes y hY).1) ∧
        (Bus.fetch hostX x.cartridge x.workRam address hX).1 =
          (Bus.fetch hostY y.cartridge y.workRam address hY).1) := by
  have constant := cartridge_of_mem_moments keep (m, h)
  refine ⟨constant _ (runSteps_mem_moments steps (m, h)), fun x passed => ?_, ?_⟩
  · exact ⟨congrArg (fun c => c.size) (constant x passed),
      fun offset => congrArg (fun c => c.byte offset) (constant x passed)⟩
  · intro x passedX y passedY address mapped η' hostX hostY hX hY
    have same : x.cartridge.unmarked = y.cartridge.unmarked :=
      (constant x passedX).trans (constant y passedY).symm
    exact ⟨fun lanes => read_eq_of_cartridge hostX same hostY hX hY mapped lanes,
      fetch_eq_of_cartridge hostX same hostY hX hY mapped⟩

/-- A cartridge marked writeable, written to, and then kept through a frame, a refused insertion and
a configuration. -/
theorem cartridge_is_permanent_though_writeable :
    let m : Machine Cpu Vdp := {
      cpu := {}
      memory := {
        cartridge := { buffer := #[0x4E, 0x71], size := 2, writeable := true }
        video := Vdp.initial } }
    let steps : List (Host Unit × Operation) := [
      (Host.idle, .write 0 .both 0xFFFF),
      (Host.idle, .runFrame),
      (Host.idle, .request (.mount "tape" #[0x60, 0xFE])),
      (Host.idle, .request (.applyConfig {}))]
    (∀ step ∈ steps, step.2.KeepsSlot) ∧
      (runSteps steps (m, ())).2.1.memory.cartridge.unmarked = m.memory.cartridge.unmarked := by
  intro m steps
  have keep : ∀ step ∈ steps, step.2.KeepsSlot := by
    intro step mem
    simp only [steps, List.mem_cons, List.not_mem_nil, or_false] at mem
    rcases mem with rfl | rfl | rfl | rfl <;> decide
  exact ⟨keep, (cartridge_is_permanent keep m ()).1⟩

end Machine
end Genesis
