import Genesis.Machine.Lifecycle
import Genesis.Proofs.Configuration

/-!
# Refused operations

Every operation that can be refused checks its argument before it changes anything. So a refusal
leaves the console as it was, and whether an operation is refused depends on its argument alone, not
on the console (`refusal_changes_nothing`).
-/

namespace Genesis
namespace Machine

/-- An operation that can be refused. -/
inductive Request where
  | installRom (image : Array UInt8)
  | mount (id : String) (image : Array UInt8)
  | unmount (id : String)
  | setTiming (t : Timing)
  | applyConfig (c : Configuration)
  | loadConfig (text : String)
deriving DecidableEq

/-- Some divisor of a timing is zero. -/
def DividesByZero (t : Timing) : Prop := ∃ d, t.divisor d = 0

variable {σ ν η : Type}

def withSettings (m : Machine σ ν) (s : Settings) : Machine σ ν :=
  { m with setup := s.toSetup, memory := m.memory.mark s.romWriteable }

@[simp] theorem settings_withSettings (m : Machine σ ν) (s : Settings) :
    (m.withSettings s).settings = s := rfl

section Timing

variable (t : Timing) (m : Machine σ ν)

theorem zeroDivisor?_isSome_iff : t.zeroDivisor?.isSome ↔ DividesByZero t := by
  rw [Option.isSome_iff_ne_none, ne_eq, Timing.zeroDivisor?_eq_none_iff]
  simp [DividesByZero]

theorem setTiming_of_dividesByZero (zero : DividesByZero t) :
    ∃ d, setTiming t m = (.error (.zeroDivisor d), m) := by
  obtain ⟨d, found⟩ := Option.isSome_iff_exists.1 ((zeroDivisor?_isSome_iff t).2 zero)
  exact ⟨d, by simp only [setTiming, found]⟩

theorem setTiming_of_not_dividesByZero (nonzero : ¬ DividesByZero t) :
    setTiming t m = (.ok (), { m with setup := { m.setup with timing := t } }) := by
  have found : t.zeroDivisor? = none := by
    rw [← Option.not_isSome_iff_eq_none, zeroDivisor?_isSome_iff]
    exact nonzero
  simp only [setTiming, found]

end Timing

/-- A configuration whose clock budget divides by zero. -/
def BadBudget (c : Configuration) : Prop := ∃ t, c.timing = some t ∧ DividesByZero t

def Request.Faulty : Request → Prop
  | installRom image => 4 * 1024 * 1024 < image.size
  | mount id image => id ≠ "cartridge" ∨ 4 * 1024 * 1024 < image.size
  | unmount id => id ≠ "cartridge"
  | setTiming t => DividesByZero t
  | applyConfig c => BadBudget c
  | loadConfig text =>
    (¬ ∃ c, Configuration.Describes text c) ∨ ∃ c, Configuration.Describes text c ∧ BadBudget c

def Request.perform [Processor σ] [VideoUnit ν] (host : Host η) (m : Machine σ ν) (h : η) :
    Request → Except MachineError Unit × Machine σ ν × η
  | .installRom image => Machine.installRom host image m h
  | .mount id image => Machine.mount host id image m h
  | .unmount id => let (r, m) := Machine.unmount id m; (r, m, h)
  | .setTiming t => let (r, m) := Machine.setTiming t m; (r, m, h)
  | .applyConfig c => let (r, m) := Machine.applyConfig c m; (r, m, h)
  | .loadConfig text => let (r, m) := Machine.loadConfig text m; (r, m, h)

section Cartridge

variable (host : Host η) (m : Machine σ ν) (h : η) {image : Array UInt8}

theorem installRom_of_large (large : 4 * 1024 * 1024 < image.size) :
    ∃ h', installRom host image m h = (.error (.romTooLarge image.size), m, h') := by
  have refused := (Cartridge.install?_eq_none_iff m.memory.cartridge image).2 large
  refine ⟨host.notice (.cartridgeTooLarge image.size Cartridge.capacity) h, ?_⟩
  simp only [installRom, refused]

theorem installRom_of_fits (fits : ¬ 4 * 1024 * 1024 < image.size) :
    ∃ c, m.memory.cartridge.install? image = some c ∧
      installRom host image m h =
        (.ok (), { m with memory := { m.memory with cartridge := c } }, h) := by
  have accepted := mt (Cartridge.install?_eq_none_iff m.memory.cartridge image).1 fits
  obtain ⟨c, found⟩ := Option.ne_none_iff_exists'.1 accepted
  refine ⟨c, found, ?_⟩
  simp only [installRom, found]

variable [Processor σ] [VideoUnit ν]

theorem mount_of_other {id : String} (other : id ≠ "cartridge") :
    mount host id image m h = (.error (.unknownMountPoint id), m, h) := by
  simp only [mount, cartridgeSlot, other, if_false]

theorem mount_of_large (large : 4 * 1024 * 1024 < image.size) :
    ∃ h', mount host "cartridge" image m h = (.error (.romTooLarge image.size), m, h') := by
  obtain ⟨h', refused⟩ := installRom_of_large host m h large
  refine ⟨h', ?_⟩
  simp only [mount, cartridgeSlot, if_true, refused]

theorem mount_of_fits (fits : ¬ 4 * 1024 * 1024 < image.size) :
    ∃ c, m.memory.cartridge.install? image = some c ∧
      mount host "cartridge" image m h =
        (.ok (), reset host { m with memory := { m.memory with cartridge := c } } h) := by
  obtain ⟨c, found, accepted⟩ := installRom_of_fits host m h fits
  refine ⟨c, found, ?_⟩
  simp only [mount, cartridgeSlot, if_true, accepted]

omit [Processor σ] [VideoUnit ν] in
theorem unmount_of_other {id : String} (other : id ≠ "cartridge") :
    unmount id m = (.error (.unknownMountPoint id), m) := by
  simp only [unmount, cartridgeSlot, other, if_false]

omit [Processor σ] [VideoUnit ν] in
theorem unmount_slot :
    unmount "cartridge" m =
      (.ok (), { m with memory := { m.memory with cartridge := m.memory.cartridge.eject } }) := by
  simp only [unmount, cartridgeSlot, if_true]

end Cartridge

section Configuration

variable (c : Configuration) (m : Machine σ ν)

theorem applyConfig_of_badBudget (bad : BadBudget c) :
    ∃ d, applyConfig c m = (.error (.zeroDivisor d), m) := by
  obtain ⟨t, timing, zero⟩ := bad
  obtain ⟨d, refused⟩ := setTiming_of_dividesByZero t m zero
  refine ⟨d, ?_⟩
  simp only [applyConfig, timing, refused]

/-- An accepted configuration sets all its settings; without a budget of its own the old one
stays. -/
theorem applyConfig_of_good (good : ¬ BadBudget c) :
    applyConfig c m = (.ok (), m.withSettings {
      pal := c.pal, japanese := c.japanese, romWriteable := c.romWriteable
      timing := c.timing.getD m.settings.timing }) := by
  cases timing : c.timing with
  | none => simp only [applyConfig, timing]; rfl
  | some t =>
    have nonzero : ¬ DividesByZero t := fun zero => good ⟨t, timing, zero⟩
    simp only [applyConfig, timing, setTiming_of_not_dividesByZero t m nonzero]
    rfl

end Configuration

variable [Processor σ] [VideoUnit ν] (host : Host η) (m : Machine σ ν) (h : η)

/-- The result of a request: an error and the same console if the argument is faulty, and success
otherwise. -/
def Answers (m : Machine σ ν) (faulty : Prop)
    (result : Except MachineError Unit × Machine σ ν × η) : Prop :=
  (faulty ∧ ∃ e, result.1 = .error e ∧ result.2.1 = m) ∨ (¬ faulty ∧ result.1 = .ok ())

section Answers

omit [Processor σ] [VideoUnit ν]

variable {m} {faulty : Prop} {result : Except MachineError Unit × Machine σ ν × η}

theorem Answers.refused (wrong : faulty) {e : MachineError} {h' : η}
    (eq : result = (.error e, m, h')) : Answers m faulty result := by
  subst eq
  exact .inl ⟨wrong, e, rfl, rfl⟩

theorem Answers.accepted (right : ¬ faulty) {m' : Machine σ ν} {h' : η}
    (eq : result = (.ok (), m', h')) : Answers m faulty result := by
  subst eq
  exact .inr ⟨right, rfl⟩

end Answers

theorem answers_installRom (image : Array UInt8) :
    Answers m (Request.installRom image).Faulty ((Request.installRom image).perform host m h) := by
  by_cases large : 4 * 1024 * 1024 < image.size
  · obtain ⟨h', refused⟩ := installRom_of_large host m h large
    exact .refused large refused
  · obtain ⟨c, -, accepted⟩ := installRom_of_fits host m h large
    exact .accepted large accepted

theorem answers_mount (id : String) (image : Array UInt8) :
    Answers m (Request.mount id image).Faulty ((Request.mount id image).perform host m h) := by
  by_cases slot : id = "cartridge"
  · subst slot
    by_cases large : 4 * 1024 * 1024 < image.size
    · obtain ⟨h', refused⟩ := mount_of_large host m h large
      exact .refused (.inr large) refused
    · obtain ⟨c, -, accepted⟩ := mount_of_fits host m h large
      exact .accepted (fun faulty => faulty.elim (fun other => other rfl) large) accepted
  · exact .refused (.inl slot) (mount_of_other host m h slot)

theorem answers_unmount (id : String) :
    Answers m (Request.unmount id).Faulty ((Request.unmount id).perform host m h) := by
  by_cases slot : id = "cartridge"
  · subst slot
    exact .accepted (fun other => other rfl) (by rw [Request.perform, unmount_slot])
  · exact .refused slot (by rw [Request.perform, unmount_of_other m slot])

theorem answers_setTiming (t : Timing) :
    Answers m (Request.setTiming t).Faulty ((Request.setTiming t).perform host m h) := by
  by_cases zero : DividesByZero t
  · obtain ⟨d, refused⟩ := setTiming_of_dividesByZero t m zero
    exact .refused zero (by rw [Request.perform, refused])
  · have accepted := setTiming_of_not_dividesByZero t m zero
    exact .accepted zero (by rw [Request.perform, accepted])

theorem answers_applyConfig (c : Configuration) :
    Answers m (Request.applyConfig c).Faulty ((Request.applyConfig c).perform host m h) := by
  by_cases bad : BadBudget c
  · obtain ⟨d, refused⟩ := applyConfig_of_badBudget c m bad
    exact .refused bad (by rw [Request.perform, refused])
  · have accepted := applyConfig_of_good c m bad
    exact .accepted bad (by rw [Request.perform, accepted])

/-- A configuration that is read is applied as it would be without its text. -/
theorem answers_loadConfig (text : String) :
    Answers m (Request.loadConfig text).Faulty ((Request.loadConfig text).perform host m h) := by
  cases parsed : Configuration.parse text with
  | error f =>
    have refused : loadConfig text m = (.error (.badConfiguration f), m) := by
      simp only [loadConfig, parsed]
    have undescribed : ¬ ∃ c, Configuration.Describes text c := by
      rintro ⟨c, described⟩
      rw [Configuration.parse_eq_ok_iff.2 described] at parsed
      cases parsed
    exact .refused (.inl undescribed) (by rw [Request.perform, refused])
  | ok c =>
    have applied : (Request.loadConfig text).perform host m h =
        (Request.applyConfig c).perform host m h := by
      simp only [Request.perform, loadConfig, parsed]
    have faulty : (Request.loadConfig text).Faulty ↔ (Request.applyConfig c).Faulty := by
      simp [Request.Faulty, ← Configuration.parse_eq_ok_iff, parsed]
    rw [applied, propext faulty]
    exact answers_applyConfig host m h c

theorem answers_perform (r : Request) : Answers m r.Faulty (r.perform host m h) := by
  cases r with
  | installRom image => exact answers_installRom host m h image
  | mount id image => exact answers_mount host m h id image
  | unmount id => exact answers_unmount host m h id
  | setTiming t => exact answers_setTiming host m h t
  | applyConfig c => exact answers_applyConfig host m h c
  | loadConfig text => exact answers_loadConfig host m h text

/-- A refused operation changes nothing, and it is refused exactly for a faulty argument. -/
theorem refusal_changes_nothing (r : Request) :
    (∀ e, (r.perform host m h).1 = .error e → (r.perform host m h).2.1 = m) ∧
      ((∃ e, (r.perform host m h).1 = .error e) ↔ r.Faulty) := by
  rcases answers_perform host m h r with ⟨faulty, e, refused, same⟩ | ⟨sound, accepted⟩
  · exact ⟨fun _ _ => same, fun _ => faulty, fun _ => ⟨e, refused⟩⟩
  · rw [accepted]
    refine ⟨fun e error => ?_, ?_, fun faulty => absurd faulty sound⟩
    · cases error
    · rintro ⟨e, error⟩
      cases error

end Machine
end Genesis
