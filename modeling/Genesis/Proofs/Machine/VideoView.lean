import Genesis.Proofs.Machine.Permanence

/-!
# The memory that the video unit sees

The processor's reads go through the address map and the video unit's fetches through comparisons of
their own. Both find the same word in the cartridge and in work RAM (`fetch?_eq_sharedWord?`), and
the video unit finds nothing anywhere else. Neither access leaves a trace, so in a run one can stand
for the other (`video_view_agrees`).
-/

namespace Genesis

namespace Region

def isShared : Region → Bool
  | cartridge | workRam => true
  | _ => false

theorem fixed_eq_workRam_iff (a : Nat) : fixed a = workRam ↔ 0xE00000 ≤ a := by
  have io : ioBlock a ≠ workRam := by
    unfold ioBlock
    grind
  have video : videoBlock a ≠ workRam := by
    unfold videoBlock
    grind
  unfold fixed
  grind

end Region

/-- The word that the processor and the video unit share at an address, if they share it. -/
def Memory.sharedWord? {ν : Type} (m : Memory ν) (address : UInt32) : Option UInt16 :=
  match Region.decode address m.cartridge.size with
  | .cartridge => some (m.cartridge.word (address.toNat % 0x1000000))
  | .workRam => some (m.workRam.word address)
  | _ => none

namespace Lanes

theorem and_high_or_and_low (word : UInt16) :
    (word &&& high.mask) ||| (word &&& low.mask) = word := by
  rw [← wordOf_highByte_lowByte word, wordOf_and_mask, wordOf_and_mask]
  simp [wordOf, hasHigh, hasLow]

end Lanes

namespace Bus

variable {ν η : Type} {m : Memory ν} {address : UInt32}

theorem isSome_sharedWord? :
    (m.sharedWord? address).isSome = (Region.decode address m.cartridge.size).isShared := by
  unfold Memory.sharedWord?
  cases Region.decode address m.cartridge.size <;> rfl

/-- The comparisons of the video unit and the address map agree on every address. -/
theorem fetch?_eq_sharedWord? :
    fetch? m.cartridge m.workRam address = m.sharedWord? address := by
  have above := ramStart_le_reduce_iff address
  by_cases mapped : address.toNat % 0x1000000 < m.cartridge.size
  · have region := (Region.decode_eq_cartridge_iff address m.cartridge.size).2 mapped
    simp [fetch?, Memory.sharedWord?, region, Cartridge.contains, mapped]
  · have region : Region.decode address m.cartridge.size =
        Region.fixed (address.toNat % 0x1000000) := if_neg mapped
    by_cases ram : 0xE00000 ≤ address.toNat % 0x1000000
    · have work := (Region.fixed_eq_workRam_iff _).2 ram
      simp [fetch?, Memory.sharedWord?, region, work, Cartridge.contains, mapped, above, ram,
        Ram.word]
    · have noRam := mt (Region.fixed_eq_workRam_iff _).1 ram
      have noCartridge := Region.fixed_ne_cartridge (address.toNat % 0x1000000)
      have none : m.sharedWord? address = none := by
        rw [Memory.sharedWord?, region]
        cases h : Region.fixed (address.toNat % 0x1000000) with
        | cartridge => exact absurd h noCartridge
        | workRam => exact absurd h noRam
        | _ => rfl
      simp [fetch?, none, Cartridge.contains, mapped, above, ram]

section Shared

variable (host : Host η) (h : η) {word : UInt16}

theorem read_of_shared [VideoUnit ν] (lanes : Lanes) (shared : m.sharedWord? address = some word) :
    read host address lanes m h = (word &&& lanes.mask, m, h) := by
  unfold Memory.sharedWord? at shared
  cases region : Region.decode address m.cartridge.size with
  | cartridge =>
    rw [region] at shared
    rw [read_cartridge host lanes h region, Option.some.inj shared]
  | workRam =>
    rw [region] at shared
    rw [read_workRam host lanes h region, Option.some.inj shared]
  | _ => simp [region] at shared

theorem fetch_of_shared (shared : m.sharedWord? address = some word) :
    fetch host m.cartridge m.workRam address h = (word, h) := by
  rw [fetch, fetch?_eq_sharedWord?, shared]

theorem fetch_fst_eq_sharedWord :
    (fetch host m.cartridge m.workRam address h).1 = (m.sharedWord? address).getD 0 := by
  rw [fetch, fetch?_eq_sharedWord?]
  cases m.sharedWord? address <;> rfl

theorem getD_sharedWord? [VideoUnit ν] :
    (m.sharedWord? address).getD 0 =
      if (Region.decode address m.cartridge.size).isShared then (read host address .both m h).1
      else 0 := by
  rw [← isSome_sharedWord?]
  cases found : m.sharedWord? address with
  | none => rfl
  | some word =>
    rw [read_of_shared host h .both found, Lanes.and_mask_both]
    rfl

/-- Whatever the video unit does, each of its fetches gets what the memory shares. -/
theorem fetched_of_mem_transcript {α : Type} (program : VideoProgram α) {word : UInt16}
    (exchanged : ⟨.fetch address, word⟩ ∈
      program.transcript (answerVideo host m.cartridge m.workRam) h) :
    word = (m.sharedWord? address).getD 0 := by
  induction program generalizing h with
  | done a => exact absurd exchanged List.not_mem_nil
  | ask q next ih =>
    rcases List.mem_cons.1 exchanged with now | later
    · obtain ⟨rfl, same⟩ := Sigma.mk.inj now
      rw [eq_of_heq same]
      exact fetch_fst_eq_sharedWord host h
    · exact ih _ _ later

end Shared

end Bus

namespace Machine

variable {σ ν η : Type} [Processor σ] [VideoUnit ν]

theorem runSteps_append (before after : List (Host η × Operation)) (s : Machine σ ν × η) :
    runSteps (before ++ after) s =
      ((runSteps before s).1 ++ (runSteps after (runSteps before s).2).1,
        (runSteps after (runSteps before s).2).2) := by
  induction before generalizing s with
  | nil => rfl
  | cons step before ih =>
    obtain ⟨host, op⟩ := step
    rw [List.cons_append, runSteps_cons, ih, runSteps_cons, List.cons_append]

theorem runSteps_insert (after : List (Host η × Operation)) {before : List (Host η × Operation)}
    {s : Machine σ ν × η} {host : Host η} {op : Operation} {outcome : Outcome}
    (silent : op.perform host (runSteps before s).2.1 (runSteps before s).2.2 =
      (outcome, (runSteps before s).2)) :
    runSteps (before ++ (host, op) :: after) s =
      ((runSteps before s).1 ++ outcome :: (runSteps after (runSteps before s).2).1,
        (runSteps (before ++ after) s).2) := by
  rw [runSteps_append, runSteps_append, runSteps_cons, silent]

section Shared

variable {m : Machine σ ν} {address : UInt32} {word : UInt16} (host : Host η) (h : η)

theorem perform_read_of_shared (lanes : Lanes) (shared : m.memory.sharedWord? address = some word) :
    (Operation.read address lanes).perform host m h = (.word (word &&& lanes.mask), m, h) := by
  simp only [Operation.perform, Bus.read_of_shared host h lanes shared]

theorem perform_fetch_of_shared (shared : m.memory.sharedWord? address = some word) :
    (Operation.fetch address).perform host m h = (.word word, m, h) := by
  simp only [Operation.perform, Bus.fetch_of_shared host h shared]

end Shared

/-- The video unit's view of the memory is the processor's where both reach it, and empty elsewhere.
At an address of the cartridge or of work RAM a fetch gets the word that the processor reads there,
in one access or lane by lane, and neither changes anything; at any other address it gets zero. So
at any point of a run a read and a fetch can stand for each other or be left out, the two agree at
every moment that the run passes through, and so does each fetch of a transfer with the memory that
the transfer is started in. -/
theorem video_view_agrees :
    (∀ (host : Host η) (m : Memory ν) (h : η) (address : UInt32),
      if (Region.decode address m.cartridge.size).isShared then
        (Bus.fetch host m.cartridge m.workRam address h).1 = (Bus.read host address .both m h).1 ∧
        (Bus.fetch host m.cartridge m.workRam address h).1 =
          (Bus.read host address .high m h).1 ||| (Bus.read host address .low m h).1 ∧
        (Bus.fetch host m.cartridge m.workRam address h).2 = h ∧
        ∀ lanes, (Bus.read host address lanes m h).2 = (m, h)
      else (Bus.fetch host m.cartridge m.workRam address h).1 = 0) ∧
    (∀ (before after : List (Host η × Operation)) (s : Machine σ ν × η) (host host' : Host η)
      (address : UInt32),
      let m := (runSteps before s).2.1.memory
      (Region.decode address m.cartridge.size).isShared = true →
      runSteps (before ++ (host, .read address .both) :: after) s =
        runSteps (before ++ (host', .fetch address) :: after) s ∧
      (runSteps (before ++ (host', .fetch address) :: after) s).2 =
        (runSteps (before ++ after) s).2 ∧
      ∀ lanes, (runSteps (before ++ (host, .read address lanes) :: after) s).2 =
        (runSteps (before ++ after) s).2) ∧
    (∀ (steps : List (Host η × Operation)) (s : Machine σ ν × η), ∀ m ∈ moments steps s,
      ∀ (address : UInt32) (η' : Type) (host host' : Host η') (h h' : η'),
      (Bus.fetch host m.cartridge m.workRam address h).1 =
        if (Region.decode address m.cartridge.size).isShared then
          (Bus.read host' address .both m h').1
        else 0) ∧
    ∀ (host host' : Host η) (m : Memory ν) (h h' : η) (value : UInt16) (address : UInt32)
      (word : UInt16),
      ⟨.fetch address, word⟩ ∈ (VideoUnit.writeControl value m.video).transcript
        (Bus.answerVideo host m.cartridge m.workRam) h →
      word =
        if (Region.decode address m.cartridge.size).isShared then
          (Bus.read host' address .both m h').1
        else 0 := by
  refine ⟨fun host m h address => ?_, fun before after s host host' address shared => ?_,
    fun steps s m _ address η' host host' h h' => ?_,
    fun host host' m h h' value address word exchanged => ?_⟩
  · rw [← Bus.isSome_sharedWord?]
    cases found : m.sharedWord? address with
    | none =>
      rw [Bus.fetch_fst_eq_sharedWord, found]
      rfl
    | some word =>
      have read (lanes : Lanes) := Bus.read_of_shared host h lanes found
      rw [Bus.fetch_of_shared host h found]
      refine ⟨?_, ?_, rfl, fun lanes => congrArg Prod.snd (read lanes)⟩
      · rw [read, Lanes.and_mask_both]
      · rw [read, read, Lanes.and_high_or_and_low]
  · rw [← Bus.isSome_sharedWord?] at shared
    obtain ⟨word, found⟩ := Option.isSome_iff_exists.1 shared
    have read (lanes : Lanes) := runSteps_insert after
      (perform_read_of_shared host (runSteps before s).2.2 lanes found)
    have fetch := runSteps_insert after
      (perform_fetch_of_shared host' (runSteps before s).2.2 found)
    refine ⟨?_, by rw [fetch], fun lanes => by rw [read]⟩
    rw [read, fetch, Lanes.and_mask_both]
  · rw [Bus.fetch_fst_eq_sharedWord, Bus.getD_sharedWord? host' h']
  · rw [Bus.fetched_of_mem_transcript host h _ exchanged, Bus.getD_sharedWord? host' h']

/-- The last mapped byte of a cartridge, whose word ends behind the image; a byte of the sound
processor's memory, which only the processor finds; and a transfer from the cartridge. -/
theorem video_view_agrees_at_last_byte :
    let video : Vdp := {
      registers := (((Bank.fill 24 0).put? 1 0x10).put? 15 2).put? 19 1
      code := 1
      latched := true }
    let cartridge : Cartridge := { buffer := #[0x4E, 0x71, 0x60, 0xFE], size := 3 }
    let m : Memory Vdp := { cartridge, z80Ram := (Bank.fill 0x2000 0).put 0 0x5A, video }
    let s : Machine Cpu Vdp × Unit := ({ cpu := {}, memory := m }, ())
    let fetch (address : UInt32) := (Bus.fetch Host.idle m.cartridge m.workRam address ()).1
    let read (address : UInt32) (lanes : Lanes) := (Bus.read Host.idle address lanes m ()).1
    fetch 2 = 0x60FE ∧ read 2 .high ||| read 2 .low = 0x60FE ∧
      read 0xA00000 .high = 0x5A00 ∧ fetch 0xA00000 = 0 ∧
      runSteps [(Host.idle, .read 2 .both), (Host.idle, .runFrame)] s =
        runSteps [(Host.idle, .fetch 2), (Host.idle, .runFrame)] s ∧
      fetch 0 = read 0 .both ∧ (0x4E71 : UInt16) = read 0 .both := by
  intro video cartridge m s fetch read
  obtain ⟨views, runs, moments, transfers⟩ := video_view_agrees (σ := Cpu) (ν := Vdp) (η := Unit)
  have last := views Host.idle m () 2
  rw [if_pos (by decide)] at last
  have sound := views Host.idle m () 0xA00000
  rw [if_neg (by decide)] at sound
  have word : fetch 2 = 0x60FE := by decide
  have exchanged (workRam : Ram) : (VideoUnit.writeControl 0x0080 video).transcript
      (Bus.answerVideo Host.idle cartridge workRam) () =
        [⟨.note (.transferStart 0 0 1 0x21), ()⟩, ⟨.fetch 0, 0x4E71⟩] := by
    dsimp only [video, cartridge]
    with_unfolding_all rfl
  have started := transfers Host.idle Host.idle m () () 0x0080 0 0x4E71
    ((exchanged m.workRam).symm ▸ .tail _ (.head _))
  rw [if_pos (by decide)] at started
  have now := moments [] s m (List.mem_singleton.2 rfl) 0 Unit Host.idle Host.idle () ()
  rw [if_pos (by decide)] at now
  exact ⟨word, last.2.1.symm.trans word, by decide, sound,
    (runs [] [(Host.idle, .runFrame)] s Host.idle Host.idle 2 (by decide)).1, now, started⟩

end Machine
end Genesis
