import Genesis.Proofs.Bus.Access
import Genesis.Proofs.Dialogue
import Genesis.Proofs.Machine.Refusal
import Genesis.Cpu.Execution
import Genesis.Vdp.Raster

/-!
# What earlier cartridges leave behind

Installing an image overwrites the start of the buffer only. So the mapped bytes are those of the
last image, but the word at its last offset takes in one byte more, which may come from an earlier
image. The last image alone decides what is read just if that byte is zero
(`last_insertion_decides_reads_iff`).
-/

namespace Genesis

/-- The same cartridge, not marked as writeable. -/
def Cartridge.unmarked (c : Cartridge) : Cartridge := { c with writeable := false }

/-- The word at an offset of an image that the byte `past` follows. -/
def imageWord (image : Array UInt8) (offset : Nat) (past : UInt8) : UInt16 :=
  wordOf (image.getD offset 0) (image.getD (offset + 1) past)

section ImageWord

variable {image : Array UInt8} {offset : Nat}

/-- Installing an image leaves the byte behind it as it was. -/
theorem Cartridge.word_of_install? {c c' : Cartridge} (installed : c.install? image = some c')
    (inside : offset < image.size) :
    c'.word offset = imageWord image offset (c.byte image.size) := by
  have low : c'.byte (offset + 1) = image.getD (offset + 1) (c.byte image.size) := by
    rw [Cartridge.byte_of_install? installed]
    by_cases next : offset + 1 < image.size
    · simp [Array.getD, next]
    · have last : offset + 1 = image.size := by omega
      simp [Array.getD, last]
  rw [Cartridge.word, imageWord, low, Cartridge.byte_of_install? installed, if_pos inside]

theorem getD_eq_getD_iff (inside : offset < image.size) (x y : UInt8) :
    image.getD (offset + 1) x = image.getD (offset + 1) y ↔ (offset + 1 = image.size → x = y) := by
  by_cases next : offset + 1 < image.size
  · have more : offset + 1 ≠ image.size := by omega
    simp [Array.getD, next, more]
  · have last : offset + 1 = image.size := by omega
    simp [Array.getD, last]

theorem imageWord_eq_iff (inside : offset < image.size) (x y : UInt8) :
    imageWord image offset x = imageWord image offset y ↔ (offset + 1 = image.size → x = y) := by
  rw [← getD_eq_getD_iff inside]
  constructor
  · intro same
    simpa [imageWord] using congrArg lowByte same
  · intro same
    rw [imageWord, same, imageWord]

theorem imageWord_and_mask_eq_iff (inside : offset < image.size) (lanes : Lanes) (x y : UInt8) :
    imageWord image offset x &&& lanes.mask = imageWord image offset y &&& lanes.mask ↔
      (offset + 1 = image.size → lanes.hasLow → x = y) := by
  have low := getD_eq_getD_iff inside x y
  simp only [Lanes.and_mask_eq_iff, imageWord, highByte_wordOf, lowByte_wordOf, low]
  constructor
  · exact fun same last requested => same.2 requested last
  · exact fun same => ⟨fun _ => trivial, fun requested last => same last requested⟩

end ImageWord

namespace Bus

variable {ν η : Type} (host : Host η) {address : UInt32} {m : Memory ν} (h : η)

theorem fetch_cartridge (hd : Region.decode address m.cartridge.size = .cartridge) :
    fetch host m.cartridge m.workRam address h =
      (m.cartridge.word (address.toNat % 0x1000000), h) := by
  rw [Region.decode_eq_cartridge_iff] at hd
  simp [fetch, fetch?, Cartridge.contains, hd]

section Installed

variable {c : Cartridge} {image : Array UInt8}
  (installed : c.install? image = some m.cartridge.unmarked)

include installed

theorem decode_installed :
    Region.decode address m.cartridge.size = .cartridge ↔
      address.toNat % 0x1000000 < image.size := by
  have size := Cartridge.size_of_install? installed
  rw [Region.decode_eq_cartridge_iff, ← size]
  rfl

variable (inside : address.toNat % 0x1000000 < image.size)

include inside

theorem read_installed [VideoUnit ν] (lanes : Lanes) :
    (read host address lanes m h).1 =
      imageWord image (address.toNat % 0x1000000) (c.byte image.size) &&& lanes.mask := by
  have word := Cartridge.word_of_install? installed inside
  have selected := (decode_installed installed).2 inside
  exact (congrArg Prod.fst (read_cartridge host lanes h selected)).trans
    (congrArg (· &&& lanes.mask) word)

theorem fetch_installed :
    (fetch host m.cartridge m.workRam address h).1 =
      imageWord image (address.toNat % 0x1000000) (c.byte image.size) := by
  have word := Cartridge.word_of_install? installed inside
  exact (congrArg Prod.fst (fetch_cartridge host h ((decode_installed installed).2 inside))).trans
    word

end Installed

end Bus

namespace Machine

namespace Request

/-- The image that a request puts into the slot, unless it is refused. -/
def inserted? : Request → Option (Array UInt8)
  | installRom image => if image.size ≤ Cartridge.capacity then some image else none
  | mount id image =>
    if id = "cartridge" ∧ image.size ≤ Cartridge.capacity then some image else none
  | unmount _ | setTiming _ | applyConfig _ | loadConfig _ => none

def KeepsSlot (r : Request) : Prop := r.inserted? = none ∧ r ≠ unmount "cartridge"

instance (r : Request) : Decidable r.KeepsSlot := inferInstanceAs (Decidable (_ ∧ _))

def onCartridge (c : Cartridge) (r : Request) : Cartridge :=
  match r.inserted? with
  | some image => (c.install? image).getD c
  | none => if r = unmount "cartridge" then c.eject else c

/-- The byte at an offset of the buffer after a request, where it was `x` before. -/
def byteAfter (offset : Nat) (x : UInt8) (r : Request) : UInt8 :=
  match r.inserted? with
  | some image => image.getD offset x
  | none => x

variable {r : Request} {image : Array UInt8}

theorem size_le_of_inserted? (inserts : r.inserted? = some image) :
    image.size ≤ Cartridge.capacity := by
  cases r with
  | installRom other => grind [inserted?]
  | mount id other => grind [inserted?]
  | _ => cases inserts

theorem install?_of_inserted? (c : Cartridge) (inserts : r.inserted? = some image) :
    c.install? image = some (r.onCartridge c) := by
  have fits := size_le_of_inserted? inserts
  have accepted := mt (Cartridge.install?_eq_none_iff c image).1 (Nat.not_lt.2 fits)
  obtain ⟨c', installed⟩ := Option.ne_none_iff_exists'.1 accepted
  simp only [onCartridge, inserts, installed, Option.getD_some]

theorem onCartridge_of_keepsSlot (c : Cartridge) (keeps : r.KeepsSlot) : r.onCartridge c = c := by
  simp only [onCartridge, keeps.1, keeps.2, if_false]

theorem unmarked_onCartridge (c : Cartridge) (r : Request) :
    (r.onCartridge c).unmarked = r.onCartridge c.unmarked := by
  cases inserts : r.inserted? with
  | none =>
    simp only [onCartridge, inserts]
    split <;> rfl
  | some image =>
    simp only [onCartridge, inserts, Cartridge.install?]
    split <;> rfl

theorem onCartridge_unmount (c : Cartridge) :
    (unmount "cartridge").onCartridge c = c.eject := by
  simp only [onCartridge, inserted?, if_true]

theorem byte_onCartridge (c : Cartridge) (r : Request) (offset : Nat) :
    (r.onCartridge c).byte offset = byteAfter offset (c.byte offset) r := by
  cases inserts : r.inserted? with
  | none =>
    simp only [onCartridge, byteAfter, inserts]
    split <;> rfl
  | some image =>
    have installed := install?_of_inserted? c inserts
    rw [Cartridge.byte_of_install? installed]
    simp only [byteAfter, inserts]
    by_cases inside : offset < image.size <;> simp [Array.getD, inside]

end Request

/-- The byte that requests leave at an offset of the buffer, where it was `x` before: that of the
last image that reaches so far. -/
def leftOver (requests : List Request) (offset : Nat) (x : UInt8) : UInt8 :=
  requests.foldl (Request.byteAfter offset) x

theorem byte_foldl_onCartridge (requests : List Request) (c : Cartridge) (offset : Nat) :
    (requests.foldl (fun c r => r.onCartridge c) c).byte offset =
      leftOver requests offset (c.byte offset) := by
  induction requests generalizing c with
  | nil => rfl
  | cons r requests ih =>
    rw [List.foldl_cons, ih, Request.byte_onCartridge]
    rfl

theorem foldl_onCartridge_of_keepsSlot {requests : List Request}
    (keep : ∀ r ∈ requests, r.KeepsSlot) (c : Cartridge) :
    requests.foldl (fun c r => r.onCartridge c) c = c := by
  induction requests with
  | nil => rfl
  | cons r requests ih =>
    rw [List.foldl_cons, Request.onCartridge_of_keepsSlot c (keep r (by simp))]
    exact ih fun r mem => keep r (by simp [mem])

variable {σ ν η : Type} [VideoUnit ν] (host : Host η) (m : Machine σ ν) (h : η)

/-- No program of the processor can change the cartridge. -/
theorem cartridge_drive (program : σ → BusProgram σ) :
    (drive host program m h).1.memory.cartridge = m.memory.cartridge := by
  have keeps (q : BusRequest) (s : Memory ν × η) (same : s.1.cartridge = m.memory.cartridge) :
      (Bus.answer host q s).2.1.cartridge = m.memory.cartridge := by
    rw [Bus.cartridge_answer, same]
  exact Dialogue.run_induction keeps (program m.cpu) rfl

section Settings

omit [VideoUnit ν]

theorem memory_setTiming (t : Timing) : (setTiming t m).2.memory = m.memory := by
  unfold setTiming
  split <;> rfl

/-- Of the memory, a configuration reaches the mark of the cartridge alone. -/
theorem memory_applyConfig (c : Configuration) :
    ∃ writeable, (applyConfig c m).2.memory = m.memory.mark writeable := by
  by_cases bad : BadBudget c
  · obtain ⟨d, refused⟩ := applyConfig_of_badBudget c m bad
    exact ⟨m.memory.cartridge.writeable, by rw [refused]; rfl⟩
  · exact ⟨c.romWriteable, by rw [applyConfig_of_good c m bad]; rfl⟩

theorem memory_loadConfig (text : String) :
    ∃ writeable, (loadConfig text m).2.memory = m.memory.mark writeable := by
  unfold loadConfig
  split
  · exact ⟨m.memory.cartridge.writeable, rfl⟩
  · exact memory_applyConfig m _

end Settings

variable [Processor σ]

omit [Processor σ] [VideoUnit ν] in
theorem cartridge_installRom (image : Array UInt8) :
    (installRom host image m h).2.1.memory.cartridge =
      (Request.installRom image).onCartridge m.memory.cartridge := by
  by_cases large : 4 * 1024 * 1024 < image.size
  · have inserts : (Request.installRom image).inserted? = none := if_neg (Nat.not_le.2 large)
    obtain ⟨h', refused⟩ := installRom_of_large host m h large
    rw [refused, Request.onCartridge_of_keepsSlot _ ⟨inserts, by simp⟩]
  · have inserts : (Request.installRom image).inserted? = some image := if_pos (Nat.not_lt.1 large)
    obtain ⟨c, installed, accepted⟩ := installRom_of_fits host m h large
    rw [Request.install?_of_inserted? _ inserts] at installed
    rw [accepted, Option.some.inj installed]

theorem cartridge_mount (id : String) (image : Array UInt8) :
    (mount host id image m h).2.1.memory.cartridge =
      (Request.mount id image).onCartridge m.memory.cartridge := by
  by_cases slot : id = "cartridge"
  · subst slot
    by_cases large : 4 * 1024 * 1024 < image.size
    · have inserts : (Request.mount "cartridge" image).inserted? = none :=
        if_neg fun fits => absurd fits.2 (Nat.not_le.2 large)
      obtain ⟨h', refused⟩ := mount_of_large host m h large
      rw [refused, Request.onCartridge_of_keepsSlot _ ⟨inserts, by simp⟩]
    · have inserts : (Request.mount "cartridge" image).inserted? = some image :=
        if_pos ⟨rfl, Nat.not_lt.1 large⟩
      obtain ⟨c, installed, accepted⟩ := mount_of_fits host m h large
      rw [Request.install?_of_inserted? _ inserts] at installed
      rw [accepted, Option.some.inj installed]
      exact cartridge_drive host.released _ h Processor.reset
  · have inserts : (Request.mount id image).inserted? = none := if_neg fun fits => slot fits.1
    rw [mount_of_other host m h slot, Request.onCartridge_of_keepsSlot _ ⟨inserts, by simp⟩]

omit [Processor σ] [VideoUnit ν] in
theorem cartridge_unmount (id : String) :
    (unmount id m).2.memory.cartridge = (Request.unmount id).onCartridge m.memory.cartridge := by
  by_cases slot : id = "cartridge"
  · subst slot
    rw [unmount_slot, Request.onCartridge_unmount]
  · have keeps : (Request.unmount id).KeepsSlot := ⟨rfl, by simpa using slot⟩
    rw [unmount_of_other m slot, Request.onCartridge_of_keepsSlot _ keeps]

theorem cartridge_perform (r : Request) :
    (r.perform host m h).2.1.memory.cartridge.unmarked =
      r.onCartridge m.memory.cartridge.unmarked := by
  rw [← Request.unmarked_onCartridge]
  cases r with
  | installRom image => exact congrArg Cartridge.unmarked (cartridge_installRom host m h image)
  | mount id image => exact congrArg Cartridge.unmarked (cartridge_mount host m h id image)
  | unmount id => exact congrArg Cartridge.unmarked (cartridge_unmount m id)
  | setTiming t => exact congrArg (fun x => x.cartridge.unmarked) (memory_setTiming m t)
  | applyConfig c =>
    obtain ⟨writeable, same⟩ := memory_applyConfig m c
    exact congrArg (fun x => x.cartridge.unmarked) same
  | loadConfig text =>
    obtain ⟨writeable, same⟩ := memory_loadConfig m text
    exact congrArg (fun x => x.cartridge.unmarked) same

def performAll (requests : List Request) (s : Machine σ ν × η) : Machine σ ν × η :=
  requests.foldl (fun s r => (r.perform host s.1 s.2).2) s

theorem cartridge_performAll (requests : List Request) (s : Machine σ ν × η) :
    (performAll host requests s).1.memory.cartridge.unmarked =
      requests.foldl (fun c r => r.onCartridge c) s.1.memory.cartridge.unmarked := by
  induction requests generalizing s with
  | nil => rfl
  | cons r requests ih =>
    rw [List.foldl_cons, ← cartridge_perform host s.1 s.2 r]
    exact ih _

/-- After an insertion, requests that leave the slot alone make no difference; what was there before
decides about the byte behind the image. -/
theorem installed_performAll (before : List Request) {after : List Request} {insertion : Request}
    {image : Array UInt8} (inserts : insertion.inserted? = some image)
    (keep : ∀ r ∈ after, r.KeepsSlot) (s : Machine σ ν × η) :
    ∃ c : Cartridge,
      c.install? image =
        some (performAll host (before ++ insertion :: after) s).1.memory.cartridge.unmarked ∧
      c.byte image.size = leftOver before image.size (s.1.memory.cartridge.byte image.size) := by
  refine ⟨before.foldl (fun c r => r.onCartridge c) s.1.memory.cartridge.unmarked, ?_, ?_⟩
  · rw [cartridge_performAll, List.foldl_append, List.foldl_cons,
      foldl_onCartridge_of_keepsSlot keep]
    exact Request.install?_of_inserted? _ inserts
  · exact byte_foldl_onCartridge before _ image.size

/-- Reads of the cartridge after some requests, the last insertion among them: the image that it
inserts and one byte that may be left over. A console built for this image alone reads a zero
instead, so the two agree just where that makes no difference. -/
theorem last_insertion_decides_reads_iff (host : Host η) (m : Machine σ ν) (h : η) (cpu : σ)
    (video : ν) (before : List Request) {after : List Request} {insertion : Request}
    {image : Array UInt8} (inserts : insertion.inserted? = some image)
    (keep : ∀ r ∈ after, r.KeepsSlot) :
    let used := (performAll host (before ++ insertion :: after) (m, h)).1.memory
    let alone := (performAll host [.installRom image] (build host cpu video h)).1.memory
    let left := leftOver before image.size (m.memory.cartridge.byte image.size)
    ∀ address, Region.decode address used.cartridge.size = .cartridge →
      let offset := address.toNat % 0x1000000
      Region.decode address alone.cartridge.size = .cartridge ∧
      (∀ lanes h,
        let here := (Bus.read host address lanes used h).1
        let there := (Bus.read host address lanes alone h).1
        here = imageWord image offset left &&& lanes.mask ∧
          there = imageWord image offset 0 &&& lanes.mask ∧
          (here = there ↔ (offset + 1 = image.size → lanes.hasLow → left = 0))) ∧
      (∀ h,
        let here := (Bus.fetch host used.cartridge used.workRam address h).1
        let there := (Bus.fetch host alone.cartridge alone.workRam address h).1
        here = imageWord image offset left ∧ there = imageWord image offset 0 ∧
          (here = there ↔ (offset + 1 = image.size → left = 0))) := by
  intro used alone left address region offset
  obtain ⟨c, installed, dirty⟩ := installed_performAll host before inserts keep (m, h)
  have inside : offset < image.size := (Bus.decode_installed installed).1 region
  have single : (Request.installRom image).inserted? = some image :=
    if_pos (Request.size_le_of_inserted? inserts)
  have nothing : ∀ r ∈ ([] : List Request), r.KeepsSlot := by simp
  obtain ⟨c', installed', clean⟩ :=
    installed_performAll host [] single nothing (build host cpu video h)
  replace dirty : c.byte image.size = left := dirty
  replace clean : c'.byte image.size = 0 := clean
  refine ⟨(Bus.decode_installed installed').2 inside, ?_, ?_⟩
  · intro lanes h here there
    have used_word : here = imageWord image offset left &&& lanes.mask := by
      rw [← dirty]
      exact Bus.read_installed host h installed inside lanes
    have alone_word : there = imageWord image offset 0 &&& lanes.mask := by
      rw [← clean]
      exact Bus.read_installed host h installed' inside lanes
    refine ⟨used_word, alone_word, ?_⟩
    rw [used_word, alone_word]
    exact imageWord_and_mask_eq_iff inside lanes left 0
  · intro h here there
    have used_word : here = imageWord image offset left := by
      rw [← dirty]
      exact Bus.fetch_installed host h installed inside
    have alone_word : there = imageWord image offset 0 := by
      rw [← clean]
      exact Bus.fetch_installed host h installed' inside
    refine ⟨used_word, alone_word, ?_⟩
    rw [used_word, alone_word]
    exact imageWord_eq_iff inside left 0

/-- Of four bytes that were taken out, the last is read behind three new ones. -/
theorem last_insertion_decides_reads_iff_of_shorter_image :
    let new : Machine Cpu Vdp := { cpu := {}, memory := Memory.initial Vdp.initial }
    let before := [Request.mount "cartridge" #[0xAA, 0xAA, 0xAA, 0xAA], .unmount "cartridge"]
    let after := [Request.unmount "tape", .loadConfig ""]
    let used := (performAll Host.idle
      (before ++ Request.installRom #[0x12, 0x34, 0x56] :: after) (new, ())).1.memory
    (∀ r ∈ after, r.KeepsSlot) ∧
      (Bus.read Host.idle 0 .both used ()).1 = 0x1234 ∧
      (Bus.read Host.idle 2 .both used ()).1 = 0x56AA ∧
      (Bus.read Host.idle 2 .high used ()).1 = 0x5600 := by
  intro new before after used
  have keep : ∀ r ∈ after, r.KeepsSlot := by decide
  have inserts : (Request.installRom #[0x12, 0x34, 0x56]).inserted? = some #[0x12, 0x34, 0x56] :=
    rfl
  obtain ⟨c, installed, -⟩ := installed_performAll Host.idle before inserts keep (new, ())
  have region (address : UInt32) (inside : address.toNat % 0x1000000 < 3) :
      Region.decode address used.cartridge.size = .cartridge :=
    (Bus.decode_installed installed).2 inside
  have reads := last_insertion_decides_reads_iff Host.idle new () {} Vdp.initial before inserts keep
  refine ⟨keep, ?_, ?_, ?_⟩
  · exact ((reads 0 (region 0 (by decide))).2.1 .both ()).1.trans (by decide)
  · exact ((reads 2 (region 2 (by decide))).2.1 .both ()).1.trans (by decide)
  · exact ((reads 2 (region 2 (by decide))).2.1 .high ()).1.trans (by decide)

/-- So the images before the last one can decide what is read. -/
theorem earlier_image_is_read_behind_the_last :
    ¬ ∀ (before after : List Request) (insertion : Request) (image : Array UInt8),
      insertion.inserted? = some image → (∀ r ∈ after, r.KeepsSlot) →
      let new : Machine Cpu Vdp × Unit := build Host.idle {} Vdp.initial ()
      let used := (performAll Host.idle (before ++ insertion :: after) new).1.memory
      let alone := (performAll Host.idle [.installRom image] new).1.memory
      ∀ address lanes, Region.decode address used.cartridge.size = .cartridge →
        (Bus.read Host.idle address lanes used ()).1 =
          (Bus.read Host.idle address lanes alone ()).1 := by
  intro claim
  have same := claim [.installRom #[0xAA, 0xAA, 0xAA, 0xAA]] [] (.installRom #[0x12, 0x12, 0x12]) _
    rfl (by simp) 2 .both (by decide)
  revert same
  decide

end Machine
end Genesis
