import Genesis.Proofs.CommandLine.Outputs
import Genesis.Proofs.Machine.Settings

/-!
# Printed configurations

A session prints the configuration that it runs with. Its text can be read, it leads to the same
settings on any console, and a session that is given this text instead of its own configuration and
switches puts out the same (`printed_configuration_reproduces_run`).
-/

namespace Genesis

/-- The configuration that leads to these settings. -/
def Settings.configuration (s : Settings) : Configuration where
  pal := s.pal
  japanese := s.japanese
  romWriteable := s.romWriteable
  timing := some s.timing

theorem Machine.configuration_eq {σ ν : Type} (m : Machine σ ν) :
    m.configuration = m.settings.configuration := rfl

namespace Machine

variable {s : Settings} (good : ¬ DividesByZero s.timing)

include good

theorem not_badBudget_configuration : ¬ BadBudget s.configuration := by
  rintro ⟨t, timing, zero⟩
  rw [← Option.some.inj timing] at zero
  exact good zero

/-- The configuration of some settings leads to them on any console. -/
theorem applyConfig_configuration {σ ν : Type} (m : Machine σ ν) :
    applyConfig s.configuration m = (.ok (), m.withSettings s) := by
  rw [applyConfig_of_good _ m (not_badBudget_configuration good)]
  rfl

end Machine

namespace CommandLine

/-- The settings of a session: those of its configuration file, if there is one, and what the
switches turn on. -/
def effective (file : Option Configuration) (a : Arguments) : Settings where
  pal := (file.getD {}).pal || a.pal
  japanese := (file.getD {}).japanese || a.japanese
  romWriteable := (file.getD {}).romWriteable
  timing := (file.getD {}).timing.getD {}

/-- The configuration that a command line names. -/
inductive Named (w : Surroundings) : Option String → Option Configuration → Prop
  | absent : Named w none none
  | file {path text c} : w (.readText path) = some text → Configuration.parse text = .ok c →
      Named w (some path) (some c)

namespace Session

section Configured

variable {file : Option Configuration} {a : Arguments} {m : Console}

theorem configured_of_good (good : ∀ c ∈ file, ¬ Machine.BadBudget c) (new : m.settings = {}) :
    configured file a.pal a.japanese m = .ok (m.withSettings (effective file a)) := by
  have same : m = m.withSettings {} := congrArg m.withSettings new
  rw [same]
  unfold configured effective
  cases file with
  | none => cases a.pal <;> cases a.japanese <;> rfl
  | some c =>
    simp only [Machine.applyConfig_of_good c _ (good c rfl), Machine.settings_withSettings]
    cases a.pal <;> cases a.japanese <;>
      simp [Machine.setPal, Machine.setJapanese, Machine.withSettings]

theorem configured_of_bad {c : Configuration} (bad : Machine.BadBudget c) :
    ∃ e, configured (some c) a.pal a.japanese m = .error e := by
  obtain ⟨d, refused⟩ := Machine.applyConfig_of_badBudget c m bad
  exact ⟨.refused (.zeroDivisor d), by simp only [configured, refused]⟩

theorem configured_eq_ok_iff (new : m.settings = {}) {m' : Console} :
    configured file a.pal a.japanese m = .ok m' ↔
      (∀ c ∈ file, ¬ Machine.BadBudget c) ∧ m' = m.withSettings (effective file a) := by
  by_cases good : ∀ c ∈ file, ¬ Machine.BadBudget c
  · rw [configured_of_good good new]
    exact ⟨fun same => ⟨good, (Except.ok.inj same).symm⟩, fun right => by rw [right.2]⟩
  · refine iff_of_false (fun ok => ?_) fun right => good right.1
    obtain ⟨c, rfl, bad⟩ : ∃ c, file = some c ∧ Machine.BadBudget c := by
      simpa using good
    obtain ⟨e, refused⟩ := configured_of_bad (a := a) (m := m) bad
    rw [refused] at ok
    cases ok

theorem effective_configuration (s : Settings) (a : Arguments) (path : String) :
    effective (some s.configuration)
      { a with config := some path, pal := false, japanese := false } = s := by
  simp [effective, Settings.configuration]

theorem not_dividesByZero_effective (good : ∀ c ∈ file, ¬ Machine.BadBudget c) :
    ¬ Machine.DividesByZero (effective file a).timing := by
  have standard : ¬ Machine.DividesByZero {} := by decide
  cases file with
  | none => exact standard
  | some c =>
    cases timing : c.timing with
    | none => simpa [effective, timing] using standard
    | some t => simpa [effective, timing] using fun zero => good c rfl ⟨t, timing, zero⟩

end Configured

section Run

variable {w : Surroundings} {clock : Nat → Nat} {a : Arguments} {filter : Log.Filter}
  {rs : List SystemRequest}

theorem yields_named_iff {config : Option String} {file : Option Configuration} :
    Yields w clock (named config) file rs ↔
      Named w config file ∧ rs = config.toList.map SystemRequest.readText := by
  cases config with
  | none =>
    rw [named, yields_pure_iff]
    constructor
    · rintro ⟨rfl, rfl⟩
      exact ⟨.absent, rfl⟩
    · rintro ⟨⟨⟩, rfl⟩
      exact ⟨rfl, rfl⟩
  | some path =>
    rw [named, map_eq_pure_bind, yields_bind_iff]
    constructor
    · rintro ⟨c, _, _, read, rest, rfl⟩
      obtain ⟨⟨text, found, parsed⟩, rfl⟩ := yields_readConfig_iff.1 read
      obtain ⟨rfl, rfl⟩ := yields_pure_iff.1 rest
      exact ⟨.file found parsed, rfl⟩
    · rintro ⟨named, rfl⟩
      cases named with | file found parsed =>
      refine ⟨_, [.readText path], [], ?_, yields_pure_iff.2 ⟨rfl, rfl⟩, rfl⟩
      exact yields_readConfig_iff.2 ⟨⟨_, found, parsed⟩, rfl⟩

theorem asks_opening {P : SystemRequest → Prop} (logs : ∀ l, P (.log l)) (spec : Option String)
    (filter : Log.Filter) : Asks P (opening spec filter) := by
  refine (asks_liftExcept (startLogger spec)).bind fun logger => ?_
  refine (asks_instant 0).bind fun now => ?_
  exact (asks_flush logs _ _).bind fun _ => asks_pure _

theorem settings_of_opening {spec : Option String} {m : Console} {filter' : Log.Filter}
    {logger : Log.Logger} (opened : Yields w clock (opening spec filter) (filter', m, logger) rs) :
    m.settings = {} := by
  obtain ⟨_, _, _, -, opened, -⟩ := yields_bind_iff.1 opened
  obtain ⟨_, _, _, -, opened, -⟩ := yields_bind_iff.1 opened
  obtain ⟨_, _, _, -, opened, -⟩ := yields_bind_iff.1 opened
  obtain ⟨ended, -⟩ := yields_pure_iff.1 opened
  obtain ⟨-, rfl, -⟩ := Prod.mk.inj ended
  rfl

/-- A session that succeeds: it opens, finds its configuration, and runs on the console that has the
effective settings. -/
theorem yields_run_iff : Yields w clock (run a filter) () rs ↔
    ∃ filter' m logger before file after,
      Yields w clock (opening a.log filter) (filter', m, logger) before ∧
      Named w a.config file ∧ (∀ c ∈ file, ¬ Machine.BadBudget c) ∧
      Yields w clock (configuredRun a filter' (m.withSettings (effective file a)) logger) () after ∧
      rs = before ++ (a.config.toList.map SystemRequest.readText ++ after) := by
  rw [run_eq]
  constructor
  · intro succeeds
    obtain ⟨⟨filter', m, logger⟩, before, _, opened, rest, rfl⟩ := yields_bind_iff.1 succeeds
    obtain ⟨file, _, _, found, apply, rfl⟩ := yields_bind_iff.1 rest
    obtain ⟨m', _, after, made, next, rfl⟩ := yields_bind_iff.1 apply
    obtain ⟨given, rfl⟩ := yields_named_iff.1 found
    obtain ⟨ready, rfl⟩ := yields_liftExcept_iff.1 made
    obtain ⟨good, rfl⟩ := (configured_eq_ok_iff (settings_of_opening opened)).1 ready
    exact ⟨filter', m, logger, before, file, after, opened, given, good, next, rfl⟩
  · rintro ⟨filter', m, logger, before, file, after, opened, found, good, h, rfl⟩
    have made := configured_of_good (a := a) good (settings_of_opening opened)
    exact opened.bind ((yields_named_iff.2 ⟨found, rfl⟩).bind
      ((yields_liftExcept_iff.2 ⟨made, rfl⟩).bind h))

theorem asks_configuredRun {P : SystemRequest → Prop} (shows : ∀ q, q.isRead = false → P q)
    (reads : P (.readBytes a.rom)) (m : Console) (logger : Log.Logger) :
    Asks P (configuredRun a filter m logger) := by
  have logs (l : Log.Line) : P (.log l) := shows _ rfl
  have rest : Asks P (insertedRun a filter m logger) := by
    refine (asks_readRom reads).bind fun image => ?_
    refine (asks_insert logs filter image m logger).bind fun inserted => ?_
    refine (asks_say logs filter _ _).bind fun _ => ?_
    refine (asks_play logs (fun _ => shows _ rfl) filter _ _ _ _ _).bind fun last => ?_
    exact asks_conclude (fun _ => shows _ rfl) (fun _ _ => shows _ rfl) _ _ last
  unfold configuredRun
  split
  · exact (asks_ask (shows _ rfl)).bind fun _ => rest
  · exact rest

theorem requests_of_printConfig (prints : a.printConfig = true) {m : Console} {logger : Log.Logger}
    (succeeds : Yields w clock (configuredRun a filter m logger) () rs) :
    ∃ after, rs = .print (m.configuration.print ++ "\n") :: after := by
  unfold configuredRun at succeeds
  rw [if_pos prints] at succeeds
  obtain ⟨_, _, after, printed, -, rfl⟩ := yields_bind_iff.1 succeeds
  obtain ⟨-, rfl⟩ := yields_ask_iff.1 printed
  exact ⟨after, rfl⟩

/-- A session whose only file is the text of the effective settings goes the same way. -/
theorem yields_run_of_text {w' : Surroundings} {path text : String} {filter' : Log.Filter}
    {m : Console} {logger : Log.Logger} {before after : List SystemRequest} {s : Settings}
    (same : ∀ q, q.isRead = false ∨ q = .readBytes a.rom → w q = w' q)
    (opened : Yields w clock (opening a.log filter) (filter', m, logger) before)
    (good : ¬ Machine.DividesByZero s.timing) (found : w' (.readText path) = some text)
    (described : Configuration.parse text = .ok s.configuration)
    (ran : Yields w clock (configuredRun a filter' (m.withSettings s) logger) () after) :
    Yields w' clock (run { a with config := some path, pal := false, japanese := false } filter) ()
      (before ++ ([.readText path] ++ after)) := by
  have opens := result_congr (asks_opening (fun _ => .inl rfl) a.log filter clock) same
  have asks : Asks (fun q => q.isRead = false ∨ q = .readBytes a.rom)
      (configuredRun a filter' (m.withSettings s) logger) :=
    asks_configuredRun (fun _ => .inl) (.inr rfl) _ logger
  have goesOn := result_congr (asks clock) same
  refine yields_run_iff.2 ⟨filter', m, logger, before, some s.configuration, after, ?_,
    .file found described, ?_, ?_, rfl⟩
  · exact ⟨opens.1.symm.trans opened.1, opens.2.symm.trans opened.2⟩
  · rintro c ⟨⟩
    exact Machine.not_badBudget_configuration good
  · rw [effective_configuration]
    exact ⟨goesOn.1.symm.trans ran.1, goesOn.2.symm.trans ran.2⟩

end Run

section Success

variable (w : Surroundings) (clock : Nat → Nat) {a : Arguments} {rom : Array UInt8}
  (fits : rom.size ≤ Cartridge.capacity) (filter : Log.Filter)

include fits

theorem exists_yields_insert (m : Console) (logger : Log.Logger) :
    ∃ m' logger' rs, Yields w clock (insert filter rom m logger) (m', logger') rs ∧
      rs.filter SystemRequest.isOutput = [] := by
  have small : ¬ 4 * 1024 * 1024 < rom.size := Nat.not_lt.2 fits
  obtain ⟨c, -, mounted⟩ := Machine.mount_of_fits Journal.host m { logger } small
  let inserted := Machine.reset Journal.host
    { m with memory := { m.memory with cartridge := c } } { logger }
  obtain ⟨rs, flushed, quiet⟩ := exists_yields_flush w clock filter inserted.2
  have yields : Yields w clock (insert filter rom m logger) (inserted.1, inserted.2.logger)
      (rs ++ []) := by
    unfold insert
    rw [Machine.cartridgeSlot, mounted]
    exact flushed.bind (yields_pure_iff.2 ⟨rfl, rfl⟩)
  exact ⟨_, _, _, yields, by rw [List.append_nil, quiet]⟩

variable (image : w (.readBytes a.rom) = some rom) (undumped : a.dump = none)

include image undumped

theorem exists_yields_insertedRun (m : Console) (logger : Log.Logger) :
    ∃ rs, Yields w clock (insertedRun a filter m logger) () rs ∧
      ∃ frames : List Frame, frames.length = a.frames.toNat ∧
        rs.filter SystemRequest.isOutput =
          frames.map .present ++ [.print s!"Ran {a.frames} frames\n"] := by
  obtain ⟨m', logger', inserted, inserts, quiet⟩ :=
    exists_yields_insert w clock fits filter m logger
  obtain ⟨lines, said, quiet'⟩ := exists_yields_logAll w clock filter
    [⟨.info, target, loaded a.rom rom.size (m'.hold a.hold)⟩]
  obtain ⟨last, played, plays, frames, length, presented⟩ := exists_yields_play w clock filter
    a.frames.toNat 1 (m'.hold a.hold) logger' none
  have concludes : Yields w clock (conclude a.frames a.dump last) ()
      [.print s!"Ran {a.frames} frames\n"] := by
    rw [undumped]
    exact yields_ask_iff.2 ⟨rfl, rfl⟩
  have yields : Yields w clock (insertedRun a filter m logger) ()
      (.readBytes a.rom ::
        (inserted ++ (lines ++ (played ++ [.print s!"Ran {a.frames} frames\n"])))) := by
    refine yields_bind_iff.2 ⟨rom, [.readBytes a.rom], _, ?_, ?_, rfl⟩
    · refine yields_ask_bind_iff.2 ⟨[], ?_, rfl⟩
      rw [image]
      exact yields_pure_iff.2 ⟨rfl, rfl⟩
    · exact inserts.bind (said.bind (plays.bind concludes))
  refine ⟨_, yields, frames, length, ?_⟩
  simp only [List.filter_cons, List.filter_append, quiet, quiet', presented, List.nil_append]
  rfl

variable {file : Option Configuration} {logger : Log.Logger}

/-- A session succeeds if its levels and its files are right; then it runs all its frames. -/
theorem exists_yields_run (levels : startLogger a.log = .ok logger) (found : Named w a.config file)
    (good : ∀ c ∈ file, ¬ Machine.BadBudget c) :
    ∃ rs, Yields w clock (run a filter) () rs ∧
      ∃ frames : List Frame, frames.length = a.frames.toNat ∧
        rs.filter SystemRequest.isOutput =
          (if a.printConfig then
            [SystemRequest.print ((effective file a).configuration.print ++ "\n")] else []) ++
          (frames.map .present ++ [.print s!"Ran {a.frames} frames\n"]) := by
  let built : Console × Journal :=
    Machine.build Journal.host {} Vdp.initial { logger := logger.setClock (clock 0) }
  let m := built.1
  let j := built.2
  obtain ⟨before, flushed, quiet⟩ := exists_yields_flush w clock
    (startFilter filter a.log) j
  have opened : Yields w clock (opening a.log filter) (startFilter filter a.log, m, j.logger)
      ([] ++ ([] ++ (before ++ []))) :=
    (yields_liftExcept_iff.2 ⟨levels, rfl⟩).bind ((yields_instant_iff.2 ⟨rfl, rfl⟩).bind
      (flushed.bind (yields_pure_iff.2 ⟨rfl, rfl⟩)))
  obtain ⟨after, runs, frames, length, presented⟩ := exists_yields_insertedRun w clock fits
    (startFilter filter a.log) image undumped (m.withSettings (effective file a)) j.logger
  have text : (m.withSettings (effective file a)).configuration =
      (effective file a).configuration := Machine.configuration_eq _
  have files : (a.config.toList.map SystemRequest.readText).filter SystemRequest.isOutput = [] := by
    cases a.config <;> rfl
  have goesOn (printed : List SystemRequest)
      (configured : Yields w clock (configuredRun a (startFilter filter a.log)
        (m.withSettings (effective file a)) j.logger) () (printed ++ after)) :=
    yields_run_iff.2 ⟨_, m, j.logger, _, file, _, opened, found, good, configured, rfl⟩
  unfold configuredRun at goesOn
  by_cases prints : a.printConfig = true
  · rw [if_pos prints] at goesOn ⊢
    refine ⟨_, goesOn [_] ((yields_ask_iff.2 ⟨rfl, rfl⟩).bind runs), frames, length, ?_⟩
    simp [List.filter_cons, quiet, files, presented, text, SystemRequest.isOutput]
  · rw [if_neg prints] at goesOn ⊢
    refine ⟨_, goesOn [] runs, frames, length, ?_⟩
    simp [quiet, files, presented]

end Success

end Session

section Program

variable {words : List String} {filter : Option String} {a : Arguments} {w : Surroundings}
  {clock : Nat → Nat}

/-- A command line finishes just if its session succeeds, with the same requests. -/
theorem program_finished_iff (asked : Arguments.parse words = .ok a) {rs : List SystemRequest} :
    (result w (program words filter clock) = .finished ∧
        requests w (program words filter clock) = rs) ↔
      Session.Yields w clock (Session.run a (Log.Filter.ofText (filter.getD ""))) () rs := by
  simp only [program, timedProgram, asked, TimedProgram.onClock_bind, result_bind, requests_bind,
    Session.Yields]
  cases result w (TimedProgram.onClock clock
    (ExceptT.run (Session.run a (Log.Filter.ofText (filter.getD ""))))) with
  | ok x => simp
  | error e => simp

/-- On another clock it finishes too, with the same outputs. -/
theorem program_finished_of_clock (asked : Arguments.parse words = .ok a)
    (finished : result w (program words filter clock) = .finished) (clock' : Nat → Nat) :
    result w (program words filter clock') = .finished ∧
      outputs w (program words filter clock') = outputs w (program words filter clock) := by
  have succeeds := (program_finished_iff asked).1 ⟨finished, rfl⟩
  have follows : Session.Follows w clock clock' Eq (Session.run a _) (Session.run a _) :=
    Session.follows_run (Log.Filter.ofText (filter.getD "")) a
  obtain ⟨_, rs, succeeds', -, same⟩ := follows _ _ succeeds
  obtain ⟨finished', made⟩ := (program_finished_iff asked).2 succeeds'
  exact ⟨finished', by rw [outputs, outputs, made, same]⟩

theorem filter_readText (config : Option String) :
    (config.toList.map SystemRequest.readText).filter (fun q => !q.isRead) = [] := by
  cases config <;> rfl

/-- What can be seen of a session that succeeds does not tell where its configuration is from. -/
theorem shown_parts (before after : List SystemRequest) (config : Option String) :
    (before ++ (config.toList.map SystemRequest.readText ++ after)).filter (fun q => !q.isRead) =
      before.filter (fun q => !q.isRead) ++ after.filter (fun q => !q.isRead) := by
  rw [List.filter_append, List.filter_append, filter_readText, List.nil_append]

theorem outputs_eq_filter_shown {α : Type} (d : SystemProgram α) :
    outputs w d = (shown w d).filter SystemRequest.isOutput := by
  rw [outputs, shown, List.filter_filter]
  exact List.filter_congr fun q _ => by cases q <;> rfl

theorem head_outputs_of_yields {filter filter' : Log.Filter} {m : Console} {logger : Log.Logger}
    {before after : List SystemRequest} {s : Settings} (prints : a.printConfig = true)
    (opened : Session.Yields w clock (Session.opening a.log filter) (filter', m, logger) before)
    (ran : Session.Yields w clock (Session.configuredRun a filter' (m.withSettings s) logger) ()
      after) :
    ((before ++ (a.config.toList.map SystemRequest.readText ++ after)).filter
      SystemRequest.isOutput).head? = some (.print (s.configuration.print ++ "\n")) := by
  have silent : before.filter SystemRequest.isOutput = [] := Session.filter_isOutput_eq_nil
    (Session.asks_opening (fun _ => rfl) a.log filter) opened
  have files : (a.config.toList.map SystemRequest.readText).filter SystemRequest.isOutput = [] := by
    cases a.config <;> rfl
  obtain ⟨rest, rfl⟩ := Session.requests_of_printConfig prints ran
  rw [List.filter_append, List.filter_append, silent, files, Machine.configuration_eq]
  rfl

/-- Surroundings that agree on one file to be read and on what can be saved agree on all that a
configured session asks. -/
theorem eq_of_common {w' : Surroundings} {rom : String}
    (image : w' (.readBytes rom) = w (.readBytes rom))
    (pictures : ∀ path frame, w' (.savePicture path frame) = w (.savePicture path frame)) :
    ∀ q, q.isRead = false ∨ q = .readBytes rom → w q = w' q := by
  intro q common
  cases q with
  | readText path => simp [SystemRequest.isRead] at common
  | readBytes path =>
    obtain rfl : path = rom := by simpa [SystemRequest.isRead] using common
    exact image.symm
  | savePicture path frame => exact (pictures path frame).symm
  | _ => rfl

/-- A session that succeeds and prints its configuration: the text is the first that it puts out; it
is read as the settings that are in effect, which are those of the session's own file with what the
switches turn on, and applying it to any console leads to them. A second session that is given the
text as its file, blanks behind it or not, and no switches, prints the same, presents the same
frames and saves the same picture, whatever the clocks of the two; on the same clock it logs the
same too. -/
theorem printed_configuration_reproduces_run (asked : Arguments.parse words = .ok a)
    (prints : a.printConfig = true)
    (finished : result w (program words filter clock) = .finished) :
    ∃ file, Named w a.config file ∧
      let used := effective file a
      let text := used.configuration.print
      (outputs w (program words filter clock)).head? = some (.print (text ++ "\n")) ∧
      Configuration.parse text = .ok used.configuration ∧
      (∀ {σ ν : Type} (m : Machine σ ν),
        Machine.applyConfig used.configuration m = (.ok (), m.withSettings used)) ∧
      (∀ m : Console, m.settings = {} →
        Session.configured file a.pal a.japanese m = .ok (m.withSettings used)) ∧
      ∀ (words' : List String) (w' : Surroundings) (path blank : String),
        Arguments.parse words' =
          .ok { a with config := some path, pal := false, japanese := false } →
        (∀ c ∈ blank.toList, Json.isSpace c) → w' (.readText path) = some (text ++ blank) →
        w' (.readBytes a.rom) = w (.readBytes a.rom) →
        (∀ path frame, w' (.savePicture path frame) = w (.savePicture path frame)) →
        (∀ clock', result w' (program words' filter clock') = .finished ∧
          outputs w' (program words' filter clock') = outputs w (program words filter clock)) ∧
        shown w' (program words' filter clock) = shown w (program words filter clock) := by
  have succeeds := (program_finished_iff asked).1 ⟨finished, rfl⟩
  obtain ⟨filter', m, logger, before, file, after, opened, given, good, ran, made⟩ :=
    Session.yields_run_iff.1 succeeds
  have nonzero : ¬ Machine.DividesByZero (effective file a).timing :=
    Session.not_dividesByZero_effective good
  refine ⟨file, given, ?_, Configuration.parse_print _, Machine.applyConfig_configuration nonzero,
    fun m new => Session.configured_of_good good new, ?_⟩
  · rw [outputs, made]
    exact head_outputs_of_yields prints opened ran
  · intro words' w' path blank asked' blanks found image pictures
    have described := Configuration.parse_eq_ok_iff.2
      (Configuration.describes_print (effective file a).configuration blanks)
    have again := Session.yields_run_of_text (eq_of_common image pictures) opened nonzero found
      described ran
    obtain ⟨finished', made'⟩ := (program_finished_iff asked').2 again
    have same : shown w' (program words' filter clock) = shown w (program words filter clock) := by
      rw [shown, shown, made', made, shown_parts]
      exact shown_parts before after (some path)
    refine ⟨fun clock' => ?_, same⟩
    obtain ⟨finishes, puts⟩ := program_finished_of_clock asked' finished' clock'
    exact ⟨finishes, by rw [puts, outputs_eq_filter_shown, same, outputs_eq_filter_shown]⟩

end Program

/-- A file that sets the clock budget, and a switch for the region. Both sessions run a frame and
present the same, though the clock of the second starts late. -/
theorem printed_configuration_reproduces_run_of_file_and_switch :
    let text := "\x7b\"timing\": \x7b\"lines\": 1\x7d\x7d"
    let image : Array UInt8 := #[0x00, 0xFF, 0x00, 0x00, 0x00, 0x00, 0x00, 0x08]
    let w := Surroundings.ofFiles (fun _ => some text) fun _ => some image
    let words := ["game.md", "--config", "old.json", "--pal", "--frames", "1", "--print-config"]
    let used : Settings := { pal := true, timing := { lines := 1 } }
    let printed := used.configuration.print ++ "\n"
    let w' := Surroundings.ofFiles (fun _ => some printed) fun _ => some image
    let words' := ["game.md", "--config", "new.json", "--frames", "1", "--print-config"]
    let clock' : Nat → Nat := fun frame => 5000000000 + 16000000 * frame
    result w (program words none) = .finished ∧ result w' (program words' none clock') = .finished ∧
      ∃ f, outputs w (program words none) = [.print printed, .present f, .print "Ran 1 frames\n"] ∧
        outputs w' (program words' none clock') =
          [.print printed, .present f, .print "Ran 1 frames\n"] := by
  intro text image w words used printed w' words' clock'
  let a : Arguments := {
    rom := "game.md", frames := 1, pal := true, config := some "old.json", printConfig := true }
  have asked : Arguments.parse words = .ok a := rfl
  have parsed : (Configuration.parse text).toOption = some { timing := some { lines := 1 } } := by
    decide +kernel
  obtain ⟨c, read⟩ : ∃ c, Configuration.parse text = .ok c := by
    cases read : Configuration.parse text with
    | ok c => exact ⟨c, rfl⟩
    | error fault => rw [read] at parsed; cases parsed
  rw [read] at parsed
  obtain rfl := Option.some.inj parsed
  have settings : effective (some { timing := some { lines := 1 } }) a = used := rfl
  have old : Named w a.config (some { timing := some { lines := 1 } }) := .file rfl read
  have good : ∀ c ∈ (some { timing := some { lines := 1 } } : Option Configuration),
      ¬ Machine.BadBudget c := by decide
  have small : image.size ≤ Cartridge.capacity := by decide
  obtain ⟨rs, succeeds, frames, length, presented⟩ := Session.exists_yields_run w (fun _ => 0) small
    (Log.Filter.ofText "") rfl rfl rfl old good
  obtain ⟨f, rfl⟩ := List.length_eq_one_iff.1 length
  obtain ⟨finished, made⟩ :
      result w (program words none) = .finished ∧ requests w (program words none) = rs :=
    (program_finished_iff asked).2 succeeds
  have puts : outputs w (program words none) =
      [.print printed, .present f, .print "Ran 1 frames\n"] := by
    have last : s!"Ran {a.frames} frames\n" = "Ran 1 frames\n" := by decide +kernel
    rw [outputs, made, presented, settings, last]
    rfl
  obtain ⟨file, given, -, -, -, -, again⟩ :=
    printed_configuration_reproduces_run asked rfl finished
  cases given with | file found read' =>
  obtain rfl := Option.some.inj found
  rw [read] at read'
  obtain rfl := Except.ok.inj read'
  have found' : w' (.readText "new.json") = some (used.configuration.print ++ "\n") := rfl
  rw [← settings] at found'
  have rom : w' (.readBytes a.rom) = w (.readBytes a.rom) := by
    simp only [w, w', Surroundings.ofFiles]
  have pictures (path : String) (frame : Frame) :
      w' (.savePicture path frame) = w (.savePicture path frame) := by
    simp only [w, w', Surroundings.ofFiles]
  have blanks : ∀ c ∈ "\n".toList, Json.isSpace c := List.all_eq_true.1 rfl
  obtain ⟨finished', same⟩ :=
    (again words' w' "new.json" "\n" rfl blanks found' rom pictures).1 clock'
  exact ⟨finished, finished', f, puts, same.trans puts⟩

end CommandLine
end Genesis
