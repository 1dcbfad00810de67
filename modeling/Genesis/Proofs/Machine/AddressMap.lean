import Genesis.Proofs.Machine.Presence
import Genesis.Proofs.Region

/-!
# The address map of a console

The map looks the cartridge up first, so the hardware stays within reach only because an image of
more than four megabytes is never inserted. A run maps what it inserted last, and that was small
enough (`size_le_of_lastChange?`).
-/

namespace Genesis
namespace Machine

variable {σ ν η : Type} [Processor σ] [VideoUnit ν]

section Request

variable (host : Host η) (m : Machine σ ν) (h : η) {r : Request}

theorem slotChange?_perform_of_faulty (faulty : r.Faulty) :
    (Operation.request r).slotChange? ((Operation.request r).perform host m h).1 = none := by
  change (Operation.request r).slotChange? (.verdict (r.perform host m h).1) = none
  rcases answers_perform host m h r with ⟨-, e, refused, -⟩ | ⟨sound, -⟩
  · rw [refused, slotChange?_of_refused]
  · exact absurd faulty sound

theorem slotChange?_perform_of_sound (sound : ¬ r.Faulty) :
    (Operation.request r).slotChange? ((Operation.request r).perform host m h).1 =
      (Operation.request r).slotChange? (.verdict (.ok ())) := by
  change (Operation.request r).slotChange? (.verdict (r.perform host m h).1) = _
  rcases answers_perform host m h r with ⟨faulty, -⟩ | ⟨-, accepted⟩
  · exact absurd faulty sound
  · rw [accepted]

end Request

theorem size_le_of_slotChange? {host : Host η} {m : Machine σ ν} {h : η} {op : Operation}
    {image : Array UInt8}
    (inserts : op.slotChange? (op.perform host m h).1 = some (.inserted image)) :
    image.size ≤ Cartridge.capacity := by
  cases op with
  | request r =>
    by_cases faulty : r.Faulty
    · rw [slotChange?_perform_of_faulty host m h faulty] at inserts
      cases inserts
    · rw [slotChange?_perform_of_sound host m h faulty] at inserts
      cases r with
      | installRom _ =>
        cases inserts
        exact Nat.not_lt.1 faulty
      | mount _ _ =>
        cases inserts
        exact Nat.not_lt.1 fun large => faulty (.inr large)
      | _ => cases inserts
  | _ => cases inserts

theorem lastChange?_nil : lastChange? [] = none := rfl

theorem lastChange?_runSteps_cons (host : Host η) (op : Operation)
    (steps : List (Host η × Operation)) (s : Machine σ ν × η) :
    lastChange? ((((host, op) :: steps).map Prod.snd).zip (runSteps ((host, op) :: steps) s).1) =
      (lastChange? ((steps.map Prod.snd).zip (runSteps steps (op.perform host s.1 s.2).2).1)).or
        (op.slotChange? (op.perform host s.1 s.2).1) := by
  obtain ⟨m, h⟩ := s
  rw [runSteps_cons, List.map_cons, List.zip_cons_cons, lastChange?_cons]

theorem size_le_of_lastChange? {steps : List (Host η × Operation)} {s : Machine σ ν × η}
    {image : Array UInt8}
    (last : lastChange? ((steps.map Prod.snd).zip (runSteps steps s).1) = some (.inserted image)) :
    image.size ≤ Cartridge.capacity := by
  induction steps generalizing s with
  | nil => cases last
  | cons step steps ih =>
    rw [lastChange?_runSteps_cons, Option.or_eq_some_iff] at last
    rcases last with later | ⟨-, now⟩
    · exact ih later
    · exact size_le_of_slotChange? now

/-- After any run of a new console the mapped bytes are those of the image inserted last, if it was
not taken out, and there are at most four megabytes of them. So the cartridge is selected by the
addresses below their number and by no other. An address from four megabytes on selects the same
with any cartridge and with none, each byte of the sound processor's memory is selected by one
address and so is each register of the three pad ports. -/
theorem cartridge_never_shadows_hardware (host : Host η) (cpu : σ) (video : ν) (h : η)
    (steps : List (Host η × Operation)) :
    let run := runSteps steps (build host cpu video h)
    let mapped := run.2.1.memory.cartridge.size
    mapped = ((lastChange? ((steps.map Prod.snd).zip run.1)).map SlotChange.size).getD 0 ∧
    mapped ≤ 0x400000 ∧
    ∀ address : UInt32,
      let a := address.toNat % 0x1000000
      let region := Region.decode address mapped
      (region = .cartridge ↔ a < mapped) ∧
      (0x400000 ≤ a → ∀ other ≤ 0x400000, region = Region.decode address other) ∧
      (∀ offset : Fin 0x2000, region = .z80Ram offset ↔ a = 0xA00000 + offset.val) ∧
      (∀ port : Fin 3, region = .padData port ↔ a = 0xA10002 + 2 * port.val) ∧
      ∀ port : Fin 3, region = .padControl port ↔ a = 0xA10008 + 2 * port.val := by
  intro run mapped
  have size : mapped =
      ((lastChange? ((steps.map Prod.snd).zip run.1)).map SlotChange.size).getD 0 :=
    size_runSteps steps (build host cpu video h)
  have fits : mapped ≤ Cartridge.capacity := by
    rw [size]
    cases last : lastChange? ((steps.map Prod.snd).zip run.1) with
    | none => exact Nat.zero_le _
    | some change =>
      cases change with
      | inserted image => exact size_le_of_lastChange? last
      | ejected => exact Nat.zero_le _
  refine ⟨size, fits, fun address => ⟨Region.decode_eq_cartridge_iff address mapped, ?_,
    Region.decode_eq_z80Ram_iff fits address, Region.decode_eq_padData_iff fits address,
    Region.decode_eq_padControl_iff fits address⟩⟩
  intro high other otherFits
  rw [Region.decode_of_capacity_le fits address high,
    Region.decode_of_capacity_le otherFits address high]

/-- An image of exactly four megabytes is inserted, and a larger one is then refused. Seen through
the highest mirror of the map, the image ends below four megabytes, nothing is selected there, and
the sound processor's memory still ends where it does without a cartridge. -/
theorem cartridge_never_shadows_hardware_at_full_capacity :
    let full : Array UInt8 := Array.replicate 0x400000 0xFF
    let steps := [(Host.idle, Operation.request (.mount "cartridge" full)),
      (Host.idle, .request (.installRom (full.push 0xFF)))]
    let run := runSteps steps (build (ν := Vdp) Host.idle ({} : Cpu) Vdp.initial ())
    let mapped := run.2.1.memory.cartridge.size
    mapped = 0x400000 ∧ Region.decode 0xFF3FFFFF mapped = .cartridge ∧
      Region.decode 0xFF400000 mapped = .invalid ∧
      Region.decode 0xFFA01FFF mapped = .z80Ram 0x1FFF := by
  intro full
  have fullSize : full.size = 0x400000 := Array.size_replicate
  have sound : ¬ (Request.mount "cartridge" full).Faulty := by
    rintro (other | large)
    · exact other rfl
    · omega
  have faulty : (Request.installRom (full.push 0xFF)).Faulty := by
    change 4 * 1024 * 1024 < (full.push 0xFF).size
    rw [Array.size_push]
    omega
  -- Only the size of the image matters from here on.
  clear_value full
  have law := cartridge_never_shadows_hardware Host.idle ({} : Cpu) Vdp.initial ()
    [(Host.idle, Operation.request (.mount "cartridge" full)),
      (Host.idle, .request (.installRom (full.push 0xFF)))]
  dsimp only at law ⊢
  obtain ⟨size, -, map⟩ := law
  rw [lastChange?_runSteps_cons, lastChange?_runSteps_cons,
    slotChange?_perform_of_faulty _ _ _ faulty, slotChange?_perform_of_sound _ _ _ sound] at size
  simp only [List.map_nil, List.zip_nil_left, lastChange?_nil, Option.none_or,
    Operation.slotChange?, Option.map_some, Option.getD_some, SlotChange.size, fullSize] at size
  rw [size] at map ⊢
  refine ⟨rfl, (map 0xFF3FFFFF).1.2 (by decide), ?_,
    ((map 0xFFA01FFF).2.2.1 0x1FFF).2 (by decide)⟩
  exact ((map 0xFF400000).2.1 (by decide) 0 (by decide)).trans (by decide)

end Machine
end Genesis
