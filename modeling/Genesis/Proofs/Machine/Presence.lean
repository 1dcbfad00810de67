import Genesis.Proofs.Machine.Permanence

/-!
# Whether an image is in the slot

A console does not record that an image was inserted: it counts the mapped bytes. So what it tells
after a run is what was inserted or taken out last, except that an empty image counts as none
(`isMounted_tells_last_change`).
-/

namespace Genesis
namespace Machine

/-- What happens to the slot. -/
inductive SlotChange where
  | inserted (image : Array UInt8)
  | ejected
deriving DecidableEq

/-- How many bytes are mapped after a change. -/
def SlotChange.size : SlotChange → Nat
  | inserted image => image.size
  | ejected => 0

/-- What an operation with this outcome did to the slot; a refused one did nothing. -/
def Operation.slotChange? : Operation → Outcome → Option SlotChange
  | .request (.installRom image), .verdict (.ok ()) => some (.inserted image)
  | .request (.mount _ image), .verdict (.ok ()) => some (.inserted image)
  | .request (.unmount _), .verdict (.ok ()) => some .ejected
  | _, _ => none

def lastChange? (history : List (Operation × Outcome)) : Option SlotChange :=
  history.reverse.findSome? fun step => step.1.slotChange? step.2

theorem lastChange?_cons (op : Operation) (outcome : Outcome)
    (history : List (Operation × Outcome)) :
    lastChange? ((op, outcome) :: history) = (lastChange? history).or (op.slotChange? outcome) := by
  simp only [lastChange?, List.reverse_cons, List.findSome?_append, List.findSome?_singleton]

theorem isMounted_eq_true_iff {σ ν : Type} (id : String) (m : Machine σ ν) :
    isMounted id m = true ↔ id = "cartridge" ∧ 0 < m.memory.cartridge.size := by
  simp [isMounted, cartridgeSlot]

theorem slotChange?_of_refused (r : Request) (e : MachineError) :
    (Operation.request r).slotChange? (.verdict (.error e)) = none := by
  cases r <;> rfl

/-- A request that is not faulty changes the slot as its outcome says. -/
theorem size_onCartridge_of_sound {r : Request} (sound : ¬ r.Faulty) (c : Cartridge) :
    (r.onCartridge c).size =
      (((Operation.request r).slotChange? (.verdict (.ok ()))).map
        SlotChange.size).getD c.size := by
  cases r with
  | installRom image =>
    have inserts : (Request.installRom image).inserted? = some image := if_pos (Nat.not_lt.1 sound)
    exact Cartridge.size_of_install? (Request.install?_of_inserted? c inserts)
  | mount id image =>
    have slot : id = "cartridge" := Decidable.not_not.1 fun other => sound (.inl other)
    have fits : image.size ≤ Cartridge.capacity := Nat.not_lt.1 fun large => sound (.inr large)
    have inserts : (Request.mount id image).inserted? = some image := if_pos ⟨slot, fits⟩
    exact Cartridge.size_of_install? (Request.install?_of_inserted? c inserts)
  | unmount id =>
    have slot : id = "cartridge" := Decidable.not_not.1 sound
    rw [slot, Request.onCartridge_unmount]
    rfl
  | _ => rfl

variable {σ ν η : Type} [Processor σ] [VideoUnit ν]

/-- How many bytes are mapped after an operation can be told from its outcome. -/
theorem size_perform (host : Host η) (m : Machine σ ν) (h : η) (op : Operation) :
    (op.perform host m h).2.1.memory.cartridge.size =
      ((op.slotChange? (op.perform host m h).1).map SlotChange.size).getD
        m.memory.cartridge.size := by
  have kept (keeps : op.KeepsSlot) :
      (op.perform host m h).2.1.memory.cartridge.size = m.memory.cartridge.size := by
    have size := congrArg Cartridge.size (cartridge_perform_of_keepsSlot host m h keeps)
    exact size
  cases op with
  | request r =>
    change (r.perform host m h).2.1.memory.cartridge.size =
      (((Operation.request r).slotChange? (.verdict (r.perform host m h).1)).map
        SlotChange.size).getD m.memory.cartridge.size
    rcases answers_perform host m h r with ⟨-, e, refused, same⟩ | ⟨sound, accepted⟩
    · rw [refused, same, slotChange?_of_refused]
      rfl
    · have size := congrArg Cartridge.size (cartridge_perform host m h r)
      rw [accepted]
      exact size.trans (size_onCartridge_of_sound sound _)
  | _ => exact kept trivial

theorem size_runSteps (steps : List (Host η × Operation)) (s : Machine σ ν × η) :
    (runSteps steps s).2.1.memory.cartridge.size =
      ((lastChange? ((steps.map Prod.snd).zip (runSteps steps s).1)).map SlotChange.size).getD
        s.1.memory.cartridge.size := by
  induction steps generalizing s with
  | nil => rfl
  | cons step steps ih =>
    obtain ⟨host, op⟩ := step
    obtain ⟨m, h⟩ := s
    rw [runSteps_cons, List.map_cons, List.zip_cons_cons, lastChange?_cons]
    dsimp only
    rw [ih, size_perform]
    cases lastChange? ((steps.map Prod.snd).zip (runSteps steps (op.perform host m h).2).1) <;> rfl

/-- An insertion that succeeds leaves the bytes of its image in the one slot there is. -/
theorem size_mount_of_ok {host : Host η} {id : String} {image : Array UInt8} {m : Machine σ ν}
    {h : η} (accepted : (mount host id image m h).1 = .ok ()) :
    id = "cartridge" ∧ (mount host id image m h).2.1.memory.cartridge.size = image.size := by
  constructor
  · refine Decidable.not_not.1 fun other => ?_
    rw [mount_of_other host m h other] at accepted
    cases accepted
  · have told := size_perform host m h (.request (.mount id image))
    simpa only [Operation.perform, Request.perform, accepted, Operation.slotChange?,
      Option.map_some, Option.getD_some, SlotChange.size] using told

/-- After any run of a new console the slot counts as full exactly if the last change was the
insertion of an image with at least one byte, and no other slot ever does. So an insertion that
succeeds is followed by a full slot unless its image is empty. -/
theorem isMounted_tells_last_change (host : Host η) (cpu : σ) (video : ν) (h : η)
    (steps : List (Host η × Operation)) (id : String) :
    let run := runSteps steps (build host cpu video h)
    let last := lastChange? ((steps.map Prod.snd).zip run.1)
    (isMounted id run.2.1 = true ↔
      id = "cartridge" ∧ ∃ image, last = some (.inserted image) ∧ 0 < image.size) ∧
    ∀ (host : Host η) (image : Array UInt8),
      let mounted := mount host id image run.2.1 run.2.2
      mounted.1 = .ok () → (isMounted id mounted.2.1 = true ↔ 0 < image.size) := by
  intro run last
  constructor
  · have size : run.2.1.memory.cartridge.size = (last.map SlotChange.size).getD 0 :=
      size_runSteps steps (build host cpu video h)
    rw [isMounted_eq_true_iff, size]
    rcases last with _ | image | _ <;> simp [SlotChange.size]
  · intro host image mounted accepted
    obtain ⟨slot, size⟩ := size_mount_of_ok accepted
    rw [isMounted_eq_true_iff, size]
    exact and_iff_right slot

/-- An insertion after another one and two refusals. -/
theorem isMounted_tells_last_change_past_refusal :
    let steps := [(Host.idle, Operation.request (.mount "cartridge" #[0x60])),
      (Host.idle, .request (.mount "tape" #[])), (Host.idle, .request (.unmount "tape"))]
    let run := runSteps steps (build (ν := Vdp) Host.idle ({} : Cpu) Vdp.initial ())
    (mount Host.idle "cartridge" #[0x4E, 0x71] run.2.1 run.2.2).1 = .ok () ∧
      isMounted "cartridge"
        (mount Host.idle "cartridge" #[0x4E, 0x71] run.2.1 run.2.2).2.1 = true := by
  intro steps run
  have accepted : (mount Host.idle "cartridge" #[0x4E, 0x71] run.2.1 run.2.2).1 = .ok () := by
    have fits : ¬ 4 * 1024 * 1024 < (#[0x4E, 0x71] : Array UInt8).size := by decide
    obtain ⟨c, -, accepted⟩ := mount_of_fits Host.idle run.2.1 run.2.2 fits
    rw [accepted]
  have told := (isMounted_tells_last_change Host.idle ({} : Cpu) Vdp.initial () steps "cartridge").2
    Host.idle #[0x4E, 0x71] accepted
  exact ⟨accepted, told.2 (by decide)⟩

/-- So an insertion that succeeds need not be seen. -/
theorem empty_image_is_not_mounted :
    ¬ ∀ (steps : List (Host Unit × Operation)) (id : String),
      let run := runSteps steps (build (ν := Vdp) Host.idle ({} : Cpu) Vdp.initial ())
      let last := lastChange? ((steps.map Prod.snd).zip run.1)
      isMounted id run.2.1 = true ↔ id = "cartridge" ∧ ∃ image, last = some (.inserted image) := by
  intro claim
  have told := claim [(Host.idle, .request (.mount "cartridge" #[]))] "cartridge"
  have mounted := told.2 ⟨rfl, #[], rfl⟩
  revert mounted
  decide

end Machine
end Genesis
