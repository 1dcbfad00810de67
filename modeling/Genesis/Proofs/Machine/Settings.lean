import Genesis.Proofs.Machine.Permanence

/-!
# Settings over a run

What every operation does to the settings, and so what a run does. An accepted configuration sets
the region, the variant and the writeable mark whatever they were before, but a clock budget that it
does not give stays. So it decides the settings alone just if it gives a budget or finds the
standard one (`configuration_decides_settings_iff`).
-/

namespace Genesis

/-- The settings that a configuration leads to: a clock budget that it does not give stays. -/
def Configuration.overlay (c : Configuration) (s : Settings) : Settings where
  pal := c.pal
  japanese := c.japanese
  romWriteable := c.romWriteable
  timing := c.timing.getD s.timing

namespace Machine

instance (t : Timing) : Decidable (DividesByZero t) :=
  decidable_of_iff _ (zeroDivisor?_isSome_iff t)

theorem badBudget_iff (c : Configuration) : BadBudget c ↔ ∃ t ∈ c.timing, DividesByZero t := Iff.rfl

instance (c : Configuration) : Decidable (BadBudget c) := decidable_of_iff _ (badBudget_iff c).symm

namespace Request

/-- The configuration that a request is to apply, directly or by its text. -/
def given? : Request → Option Configuration
  | applyConfig c => some c
  | loadConfig text => (Configuration.parse text).toOption
  | installRom _ | mount _ _ | unmount _ | setTiming _ => none

/-- What a request does to the settings. -/
def onSettings (s : Settings) (r : Request) : Settings :=
  match r with
  | setTiming t => if DividesByZero t then s else { s with timing := t }
  | r =>
    match r.given? with
    | some c => if BadBudget c then s else c.overlay s
    | none => s

def budget? (r : Request) : Option Timing :=
  match r with
  | setTiming t => if DividesByZero t then none else some t
  | r => r.given?.bind fun c => c.timing.filter fun t => ¬ DividesByZero t

theorem given?_eq_some_iff {r : Request} {c : Configuration} : r.given? = some c ↔
    r = applyConfig c ∨ ∃ text, r = loadConfig text ∧ Configuration.Describes text c := by
  cases r with
  | applyConfig d => simp [given?]
  | loadConfig text =>
    simp only [given?, reduceCtorEq, loadConfig.injEq, exists_eq_left', false_or,
      ← Configuration.parse_eq_ok_iff]
    cases Configuration.parse text <;> simp [Except.toOption]
  | _ => simp [given?]

theorem timing_onSettings (s : Settings) (r : Request) :
    (r.onSettings s).timing = r.budget?.getD s.timing := by
  have overlaid (c : Configuration) : (if BadBudget c then s else c.overlay s).timing =
      (c.timing.filter fun t => ¬ DividesByZero t).getD s.timing := by
    cases timing : c.timing with
    | none => simp [badBudget_iff, timing, Configuration.overlay]
    | some t => by_cases zero : DividesByZero t <;>
        simp [badBudget_iff, timing, zero, Configuration.overlay, Option.filter_some]
  cases r with
  | setTiming t => by_cases zero : DividesByZero t <;> simp [onSettings, budget?, zero]
  | applyConfig c => exact overlaid c
  | loadConfig text =>
    simp only [onSettings, budget?, given?]
    cases (Configuration.parse text).toOption with
    | none => rfl
    | some c => exact overlaid c
  | _ => rfl

end Request

def Operation.onSettings (s : Settings) : Operation → Settings
  | .request r => r.onSettings s
  | .setPal pal => { s with pal }
  | .setJapanese japanese => { s with japanese }
  | .setRomWriteable romWriteable => { s with romWriteable }
  | .reset | .powerOn | .hold _ | .runFrame | .stepFrame | .read .. | .write .. | .fetch _ => s

def Operation.budget? : Operation → Option Timing
  | .request r => r.budget?
  | _ => none

theorem Operation.timing_onSettings (s : Settings) (op : Operation) :
    (op.onSettings s).timing = op.budget?.getD s.timing := by
  cases op with
  | request r => exact r.timing_onSettings s
  | _ => rfl

/-- The clock budget after some operations on a new console: the last one that was accepted, or the
standard one. -/
def lastBudget (ops : List Operation) : Timing :=
  ops.foldl (fun t op => op.budget?.getD t) {}

namespace Request

variable {r : Request} {c : Configuration}

theorem faulty_iff_of_given (given : r.given? = some c) : r.Faulty ↔ BadBudget c := by
  rcases given?_eq_some_iff.1 given with rfl | ⟨text, rfl, described⟩
  · exact Iff.rfl
  · have parsed := Configuration.parse_eq_ok_iff.2 described
    simp [Faulty, ← Configuration.parse_eq_ok_iff, parsed]

theorem onSettings_of_given (given : r.given? = some c) (good : ¬ BadBudget c) (s : Settings) :
    r.onSettings s = c.overlay s := by
  cases r with
  | setTiming t => cases given
  | _ => simp [onSettings, given, good]

end Request

variable {σ ν η : Type}

theorem settings_congr {m m' : Machine σ ν} (setup : m'.setup = m.setup)
    (mark : m'.memory.cartridge.writeable = m.memory.cartridge.writeable) :
    m'.settings = m.settings := by
  simp only [settings, setup, mark]

section Request

variable (host : Host η) (m : Machine σ ν) (h : η)

theorem settings_drive [VideoUnit ν] (program : σ → BusProgram σ) :
    (drive host program m h).1.settings = m.settings :=
  settings_congr rfl (congrArg Cartridge.writeable (cartridge_drive host m h program))

theorem writeable_of_install? {c c' : Cartridge} {image : Array UInt8}
    (installed : c.install? image = some c') : c'.writeable = c.writeable := by
  unfold Cartridge.install? at installed
  split at installed
  · rw [← Option.some.inj installed]
  · cases installed

theorem settings_installRom (image : Array UInt8) :
    (installRom host image m h).2.1.settings = m.settings := by
  unfold installRom
  split
  next c installed => exact settings_congr rfl (writeable_of_install? installed)
  next => rfl

theorem settings_mount [Processor σ] [VideoUnit ν] (id : String) (image : Array UInt8) :
    (mount host id image m h).2.1.settings = m.settings := by
  have installed := settings_installRom host m h image
  unfold mount
  split
  · split
    next m' h' accepted =>
      rw [accepted] at installed
      exact (settings_drive host.released m' h' Processor.reset).trans installed
    next e m' h' refused =>
      rw [refused] at installed
      exact installed
  · rfl

theorem settings_unmount (id : String) : (unmount id m).2.settings = m.settings := by
  unfold unmount
  split <;> rfl

theorem settings_setTiming (t : Timing) :
    (setTiming t m).2.settings = (Request.setTiming t).onSettings m.settings := by
  by_cases zero : DividesByZero t
  · obtain ⟨d, refused⟩ := setTiming_of_dividesByZero t m zero
    rw [refused, Request.onSettings, if_pos zero]
  · rw [setTiming_of_not_dividesByZero t m zero, Request.onSettings, if_neg zero]
    rfl

theorem settings_applyConfig (c : Configuration) :
    (applyConfig c m).2.settings = (Request.applyConfig c).onSettings m.settings := by
  by_cases bad : BadBudget c
  · obtain ⟨d, refused⟩ := applyConfig_of_badBudget c m bad
    rw [refused]
    exact (if_pos bad).symm
  · rw [applyConfig_of_good c m bad]
    exact (if_neg bad).symm

theorem settings_loadConfig (text : String) :
    (loadConfig text m).2.settings = (Request.loadConfig text).onSettings m.settings := by
  cases parsed : Configuration.parse text with
  | error f => simp [loadConfig, Request.onSettings, Request.given?, parsed, Except.toOption]
  | ok c =>
    have applied := settings_applyConfig m c
    simpa [loadConfig, Request.onSettings, Request.given?, parsed, Except.toOption] using applied

theorem settings_request [Processor σ] [VideoUnit ν] (r : Request) :
    (r.perform host m h).2.1.settings = r.onSettings m.settings := by
  cases r with
  | installRom image => exact settings_installRom host m h image
  | mount id image => exact settings_mount host m h id image
  | unmount id => exact settings_unmount m id
  | setTiming t => exact settings_setTiming m t
  | applyConfig c => exact settings_applyConfig m c
  | loadConfig text => exact settings_loadConfig m text

end Request

variable [Processor σ] [VideoUnit ν]

theorem settings_runFrame (host : Host η) (m : Machine σ ν) (h : η) :
    (runFrame host m h).1.settings = m.settings := by
  have mark := congrArg Cartridge.writeable (cartridge_runFrame host m h)
  refine settings_congr ?_ mark
  rw [runFrame_eq_frameCalls]

theorem settings_perform (host : Host η) (m : Machine σ ν) (h : η) (op : Operation) :
    (op.perform host m h).2.1.settings = op.onSettings m.settings := by
  cases op with
  | request r => exact settings_request host m h r
  | reset => exact settings_drive host.released m h Processor.reset
  | runFrame => exact settings_runFrame host m h
  | stepFrame => exact settings_runFrame (pictureHost host m.held) m (Picture.empty, h)
  | read address lanes =>
    exact settings_congr rfl (congrArg Cartridge.writeable (Bus.cartridge_read host lanes h))
  | write address lanes value =>
    exact settings_congr rfl (congrArg Cartridge.writeable (Bus.cartridge_write host lanes value h))
  | _ => rfl

theorem settings_runSteps (steps : List (Host η × Operation)) (s : Machine σ ν × η) :
    (runSteps steps s).2.1.settings =
      (steps.map Prod.snd).foldl Operation.onSettings s.1.settings := by
  induction steps generalizing s with
  | nil => rfl
  | cons step steps ih =>
    obtain ⟨host, op⟩ := step
    rw [runSteps_cons, ih, settings_perform]
    rfl

theorem timing_foldl_onSettings (ops : List Operation) (s : Settings) :
    (ops.foldl Operation.onSettings s).timing =
      ops.foldl (fun t op => op.budget?.getD t) s.timing := by
  induction ops generalizing s with
  | nil => rfl
  | cons op ops ih => rw [List.foldl_cons, List.foldl_cons, ih, op.timing_onSettings]

/-- After any run of a new console, a configuration that is accepted sets all its settings; without
a budget of its own the one before it stays. On another new console it finds the standard budget
there, so the two agree just if this makes no difference. -/
theorem configuration_decides_settings_iff (host : Host η) (cpu : σ) (video : ν) (h : η)
    (steps : List (Host η × Operation)) {r : Request} {c : Configuration}
    (given : r.given? = some c) (good : ¬ BadBudget c) :
    let new := build host cpu video h
    let used := (runSteps steps new).2
    let there := r.perform host new.1 new.2
    let here := r.perform host used.1 used.2
    let before := lastBudget (steps.map Prod.snd)
    (there.1 = .ok () ∧ there.2.1.settings = {
      pal := c.pal, japanese := c.japanese, romWriteable := c.romWriteable
      timing := c.timing.getD {} }) ∧
    (here.1 = .ok () ∧ here.2.1.settings = {
      pal := c.pal, japanese := c.japanese, romWriteable := c.romWriteable
      timing := c.timing.getD before }) ∧
    (here.2.1.settings = there.2.1.settings ↔ (c.timing = none → before = {})) := by
  intro new used there here before
  have accepted (m : Machine σ ν) (h : η) : (r.perform host m h).1 = .ok () := by
    rcases answers_perform host m h r with ⟨faulty, -⟩ | ⟨-, accepted⟩
    · exact absurd ((Request.faulty_iff_of_given given).1 faulty) good
    · exact accepted
  have settings (m : Machine σ ν) (h : η) :
      (r.perform host m h).2.1.settings = c.overlay m.settings := by
    rw [settings_request, Request.onSettings_of_given given good]
  have earlier : used.1.settings.timing = before := by
    rw [settings_runSteps, timing_foldl_onSettings]
    rfl
  have kept : here.2.1.settings = {
      pal := c.pal, japanese := c.japanese, romWriteable := c.romWriteable
      timing := c.timing.getD before } := by
    rw [← earlier]
    exact settings used.1 used.2
  have standard : there.2.1.settings = {
      pal := c.pal, japanese := c.japanese, romWriteable := c.romWriteable
      timing := c.timing.getD {} } := settings new.1 new.2
  refine ⟨⟨accepted new.1 new.2, standard⟩, ⟨accepted used.1 used.2, kept⟩, ?_⟩
  rw [kept, standard]
  cases c.timing <;> simp

/-- A text that sets the region only finds an earlier budget there. -/
theorem configuration_decides_settings_iff_of_text :
    let new := build (ν := Vdp) Host.idle ({} : Cpu) Vdp.initial ()
    let steps := [(Host.idle, Operation.request (.setTiming { lines := 1 })), (Host.idle, .reset)]
    let text := "\x7b \"pal\": true \x7d"
    let used := (runSteps steps new).2
    (Request.loadConfig text).given? = some { pal := true } ∧
      ((Request.loadConfig text).perform Host.idle used.1 used.2).2.1.settings =
        { pal := true, timing := { lines := 1 } } := by
  intro new steps text used
  have given : (Request.loadConfig text).given? = some { pal := true } := by decide
  have good : ¬ BadBudget { pal := true } := by decide
  have decided :=
    configuration_decides_settings_iff Host.idle ({} : Cpu) Vdp.initial () steps given good
  exact ⟨given, decided.2.1.2⟩

/-- So a configuration can leave different settings behind. -/
theorem earlier_budget_outlives_configuration :
    ¬ ∀ (steps : List (Host Unit × Operation)) (c : Configuration), ¬ BadBudget c →
      let new := build (ν := Vdp) Host.idle ({} : Cpu) Vdp.initial ()
      (applyConfig c (runSteps steps new).2.1).2.settings = (applyConfig c new.1).2.settings := by
  intro claim
  have same := claim [(Host.idle, .request (.applyConfig { timing := some { lines := 1 } }))] {}
    (by decide)
  revert same
  decide

end Machine
end Genesis
