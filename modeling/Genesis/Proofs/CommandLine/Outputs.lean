import Genesis.Proofs.CommandLine.Conversation
import Genesis.Proofs.Machine.SteppedFrame

/-!
# What a session puts out

The time decides which lines of the log are dropped, and so does what has been logged before.
Neither has a part in anything else: a session that succeeds prints, presents and saves the same on
every clock (`Session.follows_run`). The frames that it is to run never fail, and it presents them
one after the other (`Session.exists_yields_play`).
-/

namespace Genesis

namespace Machine

section Host

variable {σ ν : Type} [Processor σ] [VideoUnit ν] (m : Machine σ ν)

/-- A stepped frame always returns a frame, and the host has no part in it and the console. -/
theorem exists_stepFrame : ∃ f m', ∀ {η : Type} (host : Host η) (h : η), ∃ h',
    stepFrame host m h = (some f, m', h') := by
  have pressed (x : Button) (u : Unit) :
      ((Host.idle.holding m.held).pressed x u).1 = m.held.contains x := rfl
  let ran := runFrame (Host.idle.holding m.held).recording m ([], ())
  obtain ⟨f, assembled, -⟩ := Picture.frame?_ofLines ran.2.1
  refine ⟨f, ran.1, fun host h => ?_⟩
  obtain ⟨frame, console, -⟩ := stepFrame_recording _ m () host h pressed
  -- The frame itself is not to be run to take the result apart.
  generalize stepFrame host m h = stepped at frame console
  obtain ⟨frame?, m', h'⟩ := stepped
  obtain rfl : frame? = some f := frame.trans assembled
  obtain rfl : m' = ran.1 := console
  exact ⟨h', rfl⟩

/-- The host has no part in a reset: all buttons are released. -/
theorem reset_eq_idle {η : Type} (host : Host η) (h : η) :
    (reset host m h).1 = (reset Host.idle m ()).1 := by
  have agree : host.released.Agree (fun _ _ => True) Host.idle.released :=
    ⟨fun _ _ _ _ => ⟨rfl, trivial⟩, fun _ _ _ _ => trivial, fun _ _ _ _ => trivial⟩
  have start : Host.Beside (fun _ _ => True) (m.memory, h) (m.memory, ()) := ⟨rfl, trivial⟩
  obtain ⟨cpu, memory, -⟩ := agree.answer.run start (Processor.reset m.cpu)
  simp only [reset, drive, cpu, memory]

theorem exists_mount (id : String) (image : Array UInt8) :
    ∃ result m', ∀ {η : Type} (host : Host η) (h : η), ∃ h',
      mount host id image m h = (result, m', h') := by
  unfold mount installRom
  split
  · cases m.memory.cartridge.install? image with
    | none => exact ⟨_, _, fun host h => ⟨_, rfl⟩⟩
    | some cartridge =>
      exact ⟨.ok (), _, fun host h => ⟨_, Prod.ext rfl (Prod.ext (reset_eq_idle _ host h) rfl)⟩⟩
  · exact ⟨_, _, fun host h => ⟨_, rfl⟩⟩

end Host

end Machine

namespace CommandLine

/-- A request that leaves something behind: a text, a frame or a picture. -/
def SystemRequest.isOutput : SystemRequest → Bool
  | .print _ | .present _ | .savePicture .. => true
  | .readText _ | .readBytes _ | .log _ => false

/-- What a program prints, presents and saves, in order. -/
def outputs {α : Type} (w : Surroundings) (d : SystemProgram α) : List SystemRequest :=
  (requests w d).filter SystemRequest.isOutput

namespace Session

variable {α β γ δ : Type} {w : Surroundings} {clock clock' : Nat → Nat}

/-- What a session that asks for nothing else but to read and to log puts out. -/
theorem filter_isOutput_eq_nil {s : Session α} {x : α} {rs : List SystemRequest}
    (asks : Asks (fun q => q.isOutput = false) s) (yields : Yields w clock s x rs) :
    rs.filter SystemRequest.isOutput = [] := by
  have quiet := of_mem_requests (w := w) (asks clock)
  rw [yields.2] at quiet
  exact List.filter_eq_nil_iff.2 fun q mem => by simp [quiet q mem]

/-- If a session succeeds on the first clock, so does the other on the second, with the same outputs
and a related result. -/
def Follows (w : Surroundings) (clock clock' : Nat → Nat) (R : α → β → Prop) (s : Session α)
    (t : Session β) : Prop :=
  ∀ x rs, Yields w clock s x rs → ∃ y rs', Yields w clock' t y rs' ∧ R x y ∧
    rs.filter SystemRequest.isOutput = rs'.filter SystemRequest.isOutput

theorem follows_pure {R : α → β → Prop} {x : α} {y : β} (related : R x y) :
    Follows w clock clock' R (pure x) (pure y) := by
  intro z rs yields
  obtain ⟨rfl, rfl⟩ := yields_pure_iff.1 yields
  exact ⟨y, [], yields_pure_iff.2 ⟨rfl, rfl⟩, related, rfl⟩

theorem follows_throw {R : α → β → Prop} (e : Failure) (t : Session β) :
    Follows w clock clock' R (throw e) t :=
  fun _ _ yields => absurd yields not_yields_throw

theorem follows_liftExcept (r : Except Failure α) :
    Follows w clock clock' Eq (run.liftExcept r) (run.liftExcept r) := by
  intro x rs yields
  obtain ⟨ok, rfl⟩ := yields_liftExcept_iff.1 yields
  exact ⟨x, [], yields_liftExcept_iff.2 ⟨ok, rfl⟩, rfl, rfl⟩

theorem follows_ask (q : SystemRequest) : Follows w clock clock' Eq (ask q) (ask q) := by
  intro x rs yields
  obtain ⟨answer, rfl⟩ := yields_ask_iff.1 yields
  exact ⟨x, [q], yields_ask_iff.2 ⟨answer, rfl⟩, rfl, rfl⟩

/-- The instants may differ. -/
theorem follows_instant (frame : Nat) :
    Follows w clock clock' (fun _ _ => True) (instant frame) (instant frame) := by
  intro x rs yields
  obtain ⟨-, rfl⟩ := yields_instant_iff.1 yields
  exact ⟨clock' frame, [], yields_instant_iff.2 ⟨rfl, rfl⟩, trivial, rfl⟩

theorem Follows.bind {R : α → β → Prop} {S : γ → δ → Prop} {s : Session α} {t : Session β}
    {f : α → Session γ} {g : β → Session δ} (first : Follows w clock clock' R s t)
    (next : ∀ x y, R x y → Follows w clock clock' S (f x) (g y)) :
    Follows w clock clock' S (s >>= f) (t >>= g) := by
  intro z rs yields
  obtain ⟨x, before, after, began, ended, rfl⟩ := yields_bind_iff.1 yields
  obtain ⟨y, before', began', related, same⟩ := first x before began
  obtain ⟨z', after', ended', related', same'⟩ := next x y related z after ended
  refine ⟨z', before' ++ after', began'.bind ended', related', ?_⟩
  rw [List.filter_append, List.filter_append, same, same']

section Steps

variable (filter : Log.Filter)

theorem follows_logAll (lines lines' : List Log.Line) :
    Follows w clock clock' Eq (ExceptT.lift (TimedProgram.logAll filter lines))
      (ExceptT.lift (TimedProgram.logAll filter lines')) := by
  intro x rs yields
  have quiet (lines : List Log.Line) : Asks (fun q => q.isOutput = false)
      (ExceptT.lift (TimedProgram.logAll filter lines) : Session Unit) :=
    asks_lift (asks_logAll (fun _ => rfl) filter lines)
  have yields' : Yields w clock' (ExceptT.lift (TimedProgram.logAll filter lines')) () _ :=
    yields_lift_iff.2 ⟨rfl, rfl⟩
  exact ⟨(), _, yields', rfl, (filter_isOutput_eq_nil (quiet lines) yields).trans
    (filter_isOutput_eq_nil (quiet lines') yields').symm⟩

theorem follows_flush (j j' : Journal) :
    Follows w clock clock' (fun _ _ => True) (flush filter j) (flush filter j') :=
  (follows_logAll filter _ _).bind fun _ _ _ => follows_pure trivial

theorem follows_say (level : Log.Level) (text : String) :
    Follows w clock clock' Eq (say filter level text) (say filter level text) :=
  follows_logAll filter _ _

theorem follows_readConfig (path : String) :
    Follows w clock clock' Eq (readConfig path) (readConfig path) := by
  refine (follows_ask _).bind fun answer _ same => same ▸ ?_
  cases answer with
  | none => exact follows_throw _ _
  | some text =>
    dsimp only
    cases Configuration.parse text with
    | error fault => exact follows_throw _ _
    | ok c => exact follows_pure rfl

theorem follows_named (config : Option String) :
    Follows w clock clock' Eq (named config) (named config) := by
  cases config with
  | none => exact follows_pure rfl
  | some path =>
    rw [named, map_eq_pure_bind]
    exact (follows_readConfig path).bind fun _ _ same => follows_pure (congrArg some same)

theorem follows_readRom (path : String) :
    Follows w clock clock' Eq (readRom path) (readRom path) := by
  refine (follows_ask _).bind fun answer _ same => same ▸ ?_
  cases answer with
  | none => exact follows_throw _ _
  | some image => exact follows_pure rfl

theorem follows_insert (image : Array UInt8) (m : Console) (logger logger' : Log.Logger) :
    Follows w clock clock' (fun r r' => r.1 = r'.1) (insert filter image m logger)
      (insert filter image m logger') := by
  obtain ⟨result, m', mounts⟩ := Machine.exists_mount m Machine.cartridgeSlot.id image
  obtain ⟨j, mounted⟩ := mounts Journal.host { logger }
  obtain ⟨j', mounted'⟩ := mounts Journal.host { logger := logger' }
  rw [insert, insert, mounted, mounted']
  refine (follows_flush filter j j').bind fun _ _ _ => ?_
  cases result with
  | ok _ => exact follows_pure rfl
  | error e => exact follows_throw _ _

theorem follows_play (count number : Nat) (m : Console) (logger logger' : Log.Logger)
    (last : Option Frame) :
    Follows w clock clock' Eq (play filter count number m logger last)
      (play filter count number m logger' last) := by
  induction count generalizing number m logger logger' last with
  | zero => exact follows_pure rfl
  | succ count ih =>
    refine (follows_instant number).bind fun now now' _ => ?_
    obtain ⟨f, m', steps⟩ := Machine.exists_stepFrame m
    obtain ⟨j, stepped⟩ := steps Journal.host { logger := logger.setClock now }
    obtain ⟨j', stepped'⟩ := steps Journal.host { logger := logger'.setClock now' }
    rw [stepped, stepped']
    refine (follows_flush filter j j').bind fun _ _ _ => ?_
    refine (follows_say filter _ _).bind fun _ _ _ => ?_
    exact (follows_ask _).bind fun _ _ _ => ih _ _ _ _ _

theorem follows_conclude (frames : UInt32) (dump : Option String) (last : Option Frame) :
    Follows w clock clock' Eq (conclude frames dump last) (conclude frames dump last) := by
  unfold conclude
  split
  · exact follows_ask (.print _)
  · exact follows_throw _ _
  · refine (follows_ask _).bind fun created _ same => same ▸ ?_
    split
    · exact follows_ask (.print _)
    · exact follows_throw _ _

theorem follows_opening (spec : Option String) :
    Follows w clock clock' (fun r r' => r.1 = r'.1 ∧ r.2.1 = r'.2.1) (opening spec filter)
      (opening spec filter) := by
  refine (follows_liftExcept _).bind fun logger _ same => same ▸ ?_
  refine (follows_instant 0).bind fun _ _ _ => ?_
  exact (follows_flush _ _ _).bind fun _ _ _ => follows_pure ⟨rfl, rfl⟩

variable (a : Arguments)

theorem follows_configuredRun (m : Console) (logger logger' : Log.Logger) :
    Follows w clock clock' Eq (configuredRun a filter m logger)
      (configuredRun a filter m logger') := by
  have rest : Follows w clock clock' Eq (insertedRun a filter m logger)
      (insertedRun a filter m logger') := by
    refine (follows_readRom _).bind fun image _ same => same ▸ ?_
    refine (follows_insert filter image m logger logger').bind ?_
    rintro ⟨m, logger⟩ ⟨_, logger'⟩ rfl
    refine (follows_say filter _ _).bind fun _ _ _ => ?_
    refine (follows_play filter _ _ _ logger logger' _).bind fun last _ same => same ▸ ?_
    exact follows_conclude _ _ last
  unfold configuredRun
  split
  · exact (follows_ask (.print _)).bind fun _ _ _ => rest
  · exact rest

theorem follows_run : Follows w clock clock' Eq (run a filter) (run a filter) := by
  rw [run_eq]
  refine (follows_opening filter a.log).bind ?_
  rintro ⟨filter, m, logger⟩ ⟨_, _, logger'⟩ ⟨rfl, rfl⟩
  refine (follows_named _).bind fun file _ same => same ▸ ?_
  refine (follows_liftExcept _).bind fun m _ same => same ▸ ?_
  exact follows_configuredRun filter a m logger logger'

end Steps

section Success

variable (w clock) (filter : Log.Filter)

theorem exists_yields_logAll (lines : List Log.Line) :
    ∃ rs, Yields w clock (ExceptT.lift (TimedProgram.logAll filter lines)) () rs ∧
      rs.filter SystemRequest.isOutput = [] := by
  have yields : Yields w clock (ExceptT.lift (TimedProgram.logAll filter lines)) () _ :=
    yields_lift_iff.2 ⟨rfl, rfl⟩
  exact ⟨_, yields, filter_isOutput_eq_nil
    (asks_lift (asks_logAll (fun _ => rfl) filter lines)) yields⟩

theorem exists_yields_flush (j : Journal) :
    ∃ rs, Yields w clock (flush filter j) j.logger rs ∧
      rs.filter SystemRequest.isOutput = [] := by
  obtain ⟨rs, logged, quiet⟩ := exists_yields_logAll w clock filter j.lines.reverse
  exact ⟨rs ++ [], logged.bind (yields_pure_iff.2 ⟨rfl, rfl⟩), by rw [List.append_nil, quiet]⟩

/-- Frames that are run are presented, and nothing else comes of them. -/
theorem exists_yields_play (count number : Nat) (m : Console) (logger : Log.Logger)
    (last : Option Frame) :
    ∃ last' rs, Yields w clock (play filter count number m logger last) last' rs ∧
      ∃ frames : List Frame, frames.length = count ∧
        rs.filter SystemRequest.isOutput = frames.map .present := by
  induction count generalizing number m logger last with
  | zero => exact ⟨last, [], yields_pure_iff.2 ⟨rfl, rfl⟩, [], rfl, rfl⟩
  | succ count ih =>
    obtain ⟨f, m', steps⟩ := Machine.exists_stepFrame m
    obtain ⟨j, stepped⟩ := steps Journal.host { logger := logger.setClock (clock number) }
    obtain ⟨shown, flushed, quiet⟩ := exists_yields_flush w clock filter j
    obtain ⟨lines, said, quiet'⟩ := exists_yields_logAll w clock filter
      [⟨.debug, target, s!"Frame {number}: {f.width}x{f.height}"⟩]
    obtain ⟨last', rs, plays, frames, length, presented⟩ := ih (number + 1) m' j.logger (some f)
    have yields : Yields w clock (play filter (count + 1) number m logger last) last'
        ([] ++ (shown ++ (lines ++ ([.present f] ++ rs)))) := by
      refine Yields.bind (yields_instant_iff.2 ⟨rfl, rfl⟩) ?_
      rw [stepped]
      exact flushed.bind (said.bind (Yields.bind (yields_ask_iff.2 ⟨rfl, rfl⟩) plays))
    refine ⟨last', _, yields, f :: frames, congrArg (· + 1) length, ?_⟩
    simp only [List.nil_append, List.filter_append, quiet, quiet', presented, List.map_cons]
    rfl

end Success

end Session

end CommandLine
end Genesis
