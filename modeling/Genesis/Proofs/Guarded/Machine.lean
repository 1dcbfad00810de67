import Genesis.Proofs.Guarded.Frame
import Genesis.Proofs.Machine.Operation

/-!
# The console under guard

Every operation on the console, carried out with all its checks. A run of operations under guard is
the run itself (`runs_meet_no_fault`): whatever is installed, configured, pressed, read and written,
no index leaves its array, nothing is divided by zero and no count overflows.
-/

namespace Genesis
namespace Guarded

open Genesis.Machine (Request Operation Outcome cartridgeSlot)

variable {η : Type}

def resetMachine (host : Host η) (m : Machine Cpu Vdp) (h : η) :
    Guarded (Machine Cpu Vdp × η) := do
  let (cpu, memory, h) ← drive host.released (reset m.cpu) (m.memory, h)
  return ({ m with cpu, memory }, h)

def mapped (c : Cartridge) : Guarded (Array UInt8) := do
  range c.size Cartridge.capacity
  return c.mapped

def installRom (host : Host η) (image : Array UInt8) (m : Machine Cpu Vdp) (h : η) :
    Guarded (Except MachineError Unit × Machine Cpu Vdp × η) := do
  if image.size ≤ Cartridge.capacity then range image.size Cartridge.capacity
  return Machine.installRom host image m h

def mount (host : Host η) (id : String) (image : Array UInt8) (m : Machine Cpu Vdp) (h : η) :
    Guarded (Except MachineError Unit × Machine Cpu Vdp × η) :=
  if id = cartridgeSlot.id then do
    match ← installRom host image m h with
    | (.ok (), m, h) =>
      let s ← resetMachine host m h
      return (.ok (), s)
    | (.error e, m, h) => return (.error e, m, h)
  else return (.error (.unknownMountPoint id), m, h)

def request (host : Host η) (m : Machine Cpu Vdp) (h : η) :
    Request → Guarded (Except MachineError Unit × Machine Cpu Vdp × η)
  | .installRom image => installRom host image m h
  | .mount id image => mount host id image m h
  | r => return r.perform host m h

/-- Carry out an operation. The settings, the held buttons and the power-on state of the video unit
are only stored. -/
def operation (host : Host η) (m : Machine Cpu Vdp) (h : η) :
    Operation → Guarded (Outcome × Machine Cpu Vdp × η)
  | .request r => do
    let (verdict, m, h) ← request host m h r
    return (.verdict verdict, m, h)
  | .reset => do
    let s ← resetMachine host m h
    return (.silent, s)
  | .runFrame => do
    let s ← runFrame host (fun s h => .ok (host.scanline s h)) m h
    return (.silent, s)
  | .stepFrame => do
    let (f, m, h) ← stepFrame host m h
    return (.frame (some f), m, h)
  | .read address lanes => do
    let (word, memory, h) ← read host address lanes m.memory h
    return (.word word, { m with memory }, h)
  | .write address lanes value => do
    let (memory, h) ← write host address lanes value m.memory h
    return (.silent, { m with memory }, h)
  | .fetch address => do
    let (word, h) ← fetch host m.memory.cartridge m.memory.workRam address h
    return (.word word, m, h)
  | op => return op.perform host m h

def runSteps : List (Host η × Operation) → Machine Cpu Vdp × η →
    Guarded (List Outcome × Machine Cpu Vdp × η)
  | [], s => return ([], s)
  | (host, op) :: steps, (m, h) => do
    let (outcome, s) ← operation host m h op
    let (outcomes, s) ← runSteps steps s
    return (outcome :: outcomes, s)

variable (host : Host η) (m : Machine Cpu Vdp) (h : η)

@[simp] theorem resetMachine_eq : resetMachine host m h = .ok (Machine.reset host m h) := by
  rw [resetMachine, reset_eq, drive_eq]
  rfl

theorem mapped_eq (c : Cartridge) : mapped c = .ok c.mapped := by
  rw [mapped, range_of_le c.size_le_capacity]
  rfl

@[simp] theorem installRom_eq (image : Array UInt8) :
    installRom host image m h = .ok (Machine.installRom host image m h) := by
  unfold installRom
  split
  · rename_i fits
    rw [range_of_le fits]
    rfl
  · rfl

@[simp] theorem mount_eq (id : String) (image : Array UInt8) :
    mount host id image m h = .ok (Machine.mount host id image m h) := by
  unfold mount Machine.mount
  split
  · rw [installRom_eq, ok_bind]
    obtain ⟨result, m, h⟩ := Machine.installRom host image m h
    cases result with
    | ok _ =>
      dsimp only
      rw [resetMachine_eq]
      rfl
    | error e => rfl
  · rfl

@[simp] theorem request_eq (r : Request) : request host m h r = .ok (r.perform host m h) := by
  cases r with
  | installRom image => exact installRom_eq host m h image
  | mount id image => exact mount_eq host m h id image
  | _ => rfl

theorem operation_eq (op : Operation) : operation host m h op = .ok (op.perform host m h) := by
  cases op with
  | request r =>
    rw [operation, request_eq]
    rfl
  | reset =>
    rw [operation, resetMachine_eq]
    rfl
  | runFrame =>
    rw [operation, ((shows_directly host).runFrame_eq m trivial).1]
    rfl
  | stepFrame =>
    obtain ⟨f, complete, stepped⟩ := stepFrame_eq host m h
    rw [operation, stepped, Operation.perform]
    generalize Machine.stepFrame host m h = r at complete ⊢
    obtain ⟨frame, m, h⟩ := r
    cases complete
    rfl
  | read address lanes =>
    rw [operation, read_eq]
    rfl
  | write address lanes value =>
    rw [operation, write_eq]
    rfl
  | fetch address =>
    rw [operation, fetch_eq]
    rfl
  | _ => rfl

/-- A run under guard is the run: no operation of it ever meets a fault, whatever the console, the
hosts, the images, the settings, the addresses and the values. Neither do the queries that only look
at a cartridge or a clock budget. -/
theorem runs_meet_no_fault :
    (∀ (steps : List (Host η × Operation)) (m : Machine Cpu Vdp) (h : η),
      runSteps steps (m, h) = .ok (Machine.runSteps steps (m, h))) ∧
    (∀ c, mapped c = .ok c.mapped) ∧
    (∀ t pal, unitsPerLine t pal = .ok (t.unitsPerLine pal) ∧
      budgetPerLine t pal = .ok (t.clocksPerLine pal)) := by
  refine ⟨fun steps => ?_, mapped_eq, fun t pal => ⟨unitsPerLine_eq t pal, budgetPerLine_eq t pal⟩⟩
  induction steps with
  | nil => exact fun _ _ => rfl
  | cons step steps ih =>
    intro m h
    obtain ⟨host, op⟩ := step
    rw [runSteps, operation_eq, ok_bind, Machine.runSteps_cons]
    -- Only what the operation returns matters for the rest of the run.
    generalize op.perform host m h = r
    obtain ⟨outcome, m, h⟩ := r
    dsimp only
    rw [ih m h]
    rfl

end Guarded
end Genesis
