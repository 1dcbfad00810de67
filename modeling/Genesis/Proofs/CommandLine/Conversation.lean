import Genesis.CommandLine.Session
import Genesis.Proofs.Dialogue

/-!
# Sessions in fixed surroundings

What a program of the command line ends with and which requests it makes, where every request has
one answer and a clock tells the instants. A session that succeeds is taken apart into its steps
(`yields_bind_iff`), and every step says which requests it can make. What a session does once it is
configured depends neither on its file nor on its switches (`run_eq`).
-/

namespace Genesis
namespace CommandLine

/-- One answer for every request: nothing that a session reads is changed while it runs. -/
abbrev Surroundings := (q : SystemRequest) → q.Answer

def Surroundings.ofFiles (text : String → Option String) (bytes : String → Option (Array UInt8)) :
    Surroundings
  | .readText path => text path
  | .readBytes path => bytes path
  | .print _ | .log _ | .present _ => ()
  | .savePicture .. => true

variable {α β : Type} (w : Surroundings)

def result (d : SystemProgram α) : α := (d.run (fun q u => (w q, u)) ()).1

/-- The requests that a program makes, in order. -/
def requests (d : SystemProgram α) : List SystemRequest :=
  (d.transcript (fun q u => (w q, u)) ()).map Sigma.fst

def SystemRequest.isRead : SystemRequest → Bool
  | .readText _ | .readBytes _ => true
  | .print _ | .log _ | .present _ | .savePicture .. => false

/-- What can be seen of a program: all its requests but those to read, in order. -/
def shown (d : SystemProgram α) : List SystemRequest := (requests w d).filter fun q => !q.isRead

section Program

variable {w}

theorem result_bind (d : SystemProgram α) (f : α → SystemProgram β) :
    result w (d >>= f) = result w (f (result w d)) := by
  simp only [result, Dialogue.run_bind]

theorem requests_bind (d : SystemProgram α) (f : α → SystemProgram β) :
    requests w (d >>= f) = requests w d ++ requests w (f (result w d)) := by
  simp only [requests, result, Dialogue.transcript_bind, List.map_append]

@[simp] theorem result_done (x : α) : result w (.done x) = x := rfl

@[simp] theorem requests_done (x : α) : requests w (.done x) = [] := rfl

@[simp] theorem result_query (q : SystemRequest) :
    result w (Dialogue.query (A := SystemRequest.Answer) q) = w q := rfl

@[simp] theorem requests_query (q : SystemRequest) :
    requests w (Dialogue.query (A := SystemRequest.Answer) q) = [q] := rfl

variable {P : SystemRequest → Prop} {d : SystemProgram α}

theorem of_mem_requests (asks : d.Asks P) : ∀ q ∈ requests w d, P q := by
  intro q mem
  obtain ⟨x, said, rfl⟩ := List.mem_map.1 mem
  exact asks.of_mem_transcript _ _ x said

/-- A program goes the same way where all its requests have the same answers. -/
theorem result_congr {w' : Surroundings} (asks : d.Asks P) (same : ∀ q, P q → w q = w' q) :
    result w d = result w' d ∧ requests w d = requests w' d := by
  have agree (q : SystemRequest) (u : Unit) (holds : P q) :
      ((w q, u) : q.Answer × Unit) = (w' q, u) := by rw [same q holds]
  have both := asks.run_congr agree ()
  exact ⟨congrArg Prod.fst both.1, congrArg (List.map Sigma.fst) both.2⟩

end Program

namespace TimedProgram

variable (clock : Nat → Nat)

@[simp] theorem onClock_done (x : α) : onClock clock (.done x) = .done x := rfl

theorem onClock_request (q : SystemRequest) :
    onClock clock (request q) = Dialogue.query (A := SystemRequest.Answer) q := rfl

theorem onClock_bind (d : TimedProgram α) (f : α → TimedProgram β) :
    onClock clock (d >>= f) = onClock clock d >>= fun x => onClock clock (f x) := by
  induction d with
  | done x => rfl
  | ask question next ih =>
    cases question with
    | instant frame => exact ih _
    | request q => exact congrArg (Dialogue.ask q) (funext ih)

end TimedProgram

namespace Session

open TimedProgram (onClock onClock_bind onClock_request)

section Stages

def named : Option String → Session (Option Configuration)
  | none => pure none
  | some path => some <$> readConfig path

/-- A session from its cartridge on. -/
def insertedRun (a : Arguments) (filter : Log.Filter) (m : Console) (logger : Log.Logger) :
    Session Unit := do
  let image ← readRom a.rom
  let (m, logger) ← insert filter image m logger
  let m := m.hold a.hold
  say filter .info (loaded a.rom image.size m)
  let last ← play filter a.frames.toNat 1 m logger none
  conclude a.frames a.dump last

def configuredRun (a : Arguments) (filter : Log.Filter) (m : Console) (logger : Log.Logger) :
    Session Unit := do
  if a.printConfig then
    ask (.print (m.configuration.print ++ "\n"))
  insertedRun a filter m logger

/-- A session up to its new console. -/
def opening (spec : Option String) (filter : Log.Filter) :
    Session (Log.Filter × Console × Log.Logger) := do
  let logger ← run.liftExcept (startLogger spec)
  let filter := startFilter filter spec
  let now ← instant 0
  let (m, j) := Machine.build Journal.host {} Vdp.initial { logger := logger.setClock now }
  let logger ← flush filter j
  return (filter, m, logger)

theorem run_eq (a : Arguments) (filter : Log.Filter) :
    run a filter = (do
      let (filter, m, logger) ← opening a.log filter
      let file ← named a.config
      let m ← run.liftExcept (configured file a.pal a.japanese m)
      configuredRun a filter m logger) := by
  unfold run opening named configuredRun insertedRun
  simp only [bind_assoc, pure_bind]
  cases a.config <;> rfl

end Stages

/-- On a clock a session succeeds with `x` and makes these requests. -/
def Yields (w : Surroundings) (clock : Nat → Nat) (s : Session α) (x : α)
    (rs : List SystemRequest) : Prop :=
  result w (onClock clock (ExceptT.run s)) = .ok x ∧
    requests w (onClock clock (ExceptT.run s)) = rs

section Yields

variable {w} {clock : Nat → Nat} {s : Session α} {f : α → Session β} {x : α} {y : β}
  {rs : List SystemRequest}

theorem yields_pure_iff {z : α} : Yields w clock (pure z) x rs ↔ z = x ∧ rs = [] := by
  simp [Yields, eq_comm]

theorem not_yields_throw {e : Failure} : ¬ Yields w clock (throw e : Session α) x rs := by
  rintro ⟨ended, -⟩
  cases ended

theorem yields_lift_iff {d : TimedProgram α} :
    Yields w clock (ExceptT.lift d) x rs ↔
      result w (onClock clock d) = x ∧ rs = requests w (onClock clock d) := by
  have run : ExceptT.run (ExceptT.lift d : Session α) = d >>= fun x => pure (.ok x) := rfl
  simp [Yields, run, onClock_bind, result_bind, requests_bind, eq_comm]

theorem yields_liftExcept_iff {r : Except Failure α} :
    Yields w clock (run.liftExcept r) x rs ↔ r = .ok x ∧ rs = [] := by
  have run : onClock clock (ExceptT.run (run.liftExcept r)) = .done r := rfl
  simp [Yields, run, eq_comm]

theorem yields_bind_iff : Yields w clock (s >>= f) y rs ↔
    ∃ x before after, Yields w clock s x before ∧ Yields w clock (f x) y after ∧
      rs = before ++ after := by
  rw [Yields, ExceptT.run_bind, onClock_bind, result_bind, requests_bind]
  cases ended : result w (onClock clock (ExceptT.run s)) with
  | error e => simp [Yields, ended]
  | ok x =>
    simp only [Yields, ended, Except.ok.injEq]
    constructor
    · rintro ⟨value, rfl⟩
      exact ⟨x, _, _, ⟨rfl, rfl⟩, ⟨value, rfl⟩, rfl⟩
    · rintro ⟨_, _, _, ⟨rfl, rfl⟩, ⟨value, rfl⟩, rfl⟩
      exact ⟨value, rfl⟩

theorem Yields.bind {before after : List SystemRequest} (first : Yields w clock s x before)
    (next : Yields w clock (f x) y after) : Yields w clock (s >>= f) y (before ++ after) :=
  yields_bind_iff.2 ⟨x, before, after, first, next, rfl⟩

theorem yields_instant_iff {frame now : Nat} :
    Yields w clock (instant frame) now rs ↔ clock frame = now ∧ rs = [] := by
  rw [instant, yields_lift_iff]
  rfl

theorem yields_ask_iff {q : SystemRequest} {x : q.Answer} :
    Yields w clock (ask q) x rs ↔ w q = x ∧ rs = [q] := by
  rw [ask, yields_lift_iff, onClock_request, result_query, requests_query]

theorem yields_ask_bind_iff {q : SystemRequest} {f : q.Answer → Session β} :
    Yields w clock (ask q >>= f) y rs ↔
      ∃ after, Yields w clock (f (w q)) y after ∧ rs = q :: after := by
  simp only [yields_bind_iff, yields_ask_iff]
  constructor
  · rintro ⟨_, _, after, ⟨rfl, rfl⟩, rest, rfl⟩
    exact ⟨after, rest, rfl⟩
  · rintro ⟨after, rest, rfl⟩
    exact ⟨_, _, after, ⟨rfl, rfl⟩, rest, rfl⟩

theorem yields_readConfig_iff {path : String} {c : Configuration} :
    Yields w clock (readConfig path) c rs ↔
      (∃ text, w (.readText path) = some text ∧ Configuration.parse text = .ok c) ∧
        rs = [.readText path] := by
  rw [readConfig, yields_ask_bind_iff]
  cases answer : w (.readText path) with
  | none => simp [not_yields_throw]
  | some text =>
    cases parsed : Configuration.parse text with
    | error fault => simp [parsed, not_yields_throw]
    | ok c => simp [parsed, yields_pure_iff, and_assoc]

end Yields

def Asks (P : SystemRequest → Prop) (s : Session α) : Prop :=
  ∀ clock, Dialogue.Asks P (onClock clock (ExceptT.run s))

section Asks

variable {P : SystemRequest → Prop}

theorem asks_pure (x : α) : Asks P (pure x) := fun _ => trivial

theorem asks_throw (e : Failure) : Asks P (throw e : Session α) := fun _ => trivial

theorem asks_liftExcept (r : Except Failure α) : Asks P (run.liftExcept r) := fun _ => trivial

theorem asks_instant (frame : Nat) : Asks P (instant frame) := fun _ => trivial

theorem Asks.bind {s : Session α} {f : α → Session β} (first : Asks P s)
    (next : ∀ x, Asks P (f x)) : Asks P (s >>= f) := by
  intro clock
  rw [ExceptT.run_bind, onClock_bind]
  refine Dialogue.Asks.bind (first clock) fun r => ?_
  cases r with
  | error e => trivial
  | ok x => exact next x clock

theorem asks_lift {d : TimedProgram α} (asks : ∀ clock, (onClock clock d).Asks P) :
    Asks P (ExceptT.lift d) := by
  intro clock
  have run : ExceptT.run (ExceptT.lift d : Session α) = d >>= fun x => pure (.ok x) := rfl
  rw [run, onClock_bind]
  exact Dialogue.Asks.bind (asks clock) fun _ => trivial

theorem asks_ask {q : SystemRequest} (holds : P q) : Asks P (ask q) :=
  asks_lift fun _ => ⟨holds, fun _ => trivial⟩

theorem asks_logAll (logs : ∀ l, P (.log l)) (filter : Log.Filter) (lines : List Log.Line)
    (clock : Nat → Nat) : (onClock clock (TimedProgram.logAll filter lines)).Asks P := by
  induction lines with
  | nil => trivial
  | cons l ls ih =>
    rw [TimedProgram.logAll]
    split
    · exact ⟨logs l, fun _ => ih⟩
    · exact ih

variable (logs : ∀ l, P (.log l))

include logs

theorem asks_say (filter : Log.Filter) (level : Log.Level) (text : String) :
    Asks P (say filter level text) :=
  asks_lift (asks_logAll logs filter _)

theorem asks_flush (filter : Log.Filter) (j : Journal) : Asks P (flush filter j) :=
  (asks_lift (asks_logAll logs filter _)).bind fun _ => asks_pure _

theorem asks_insert (filter : Log.Filter) (image : Array UInt8) (m : Console)
    (logger : Log.Logger) : Asks P (insert filter image m logger) := by
  refine (asks_flush logs filter _).bind fun _ => ?_
  split
  · exact asks_pure _
  · exact asks_throw _

theorem asks_play (presents : ∀ f, P (.present f)) (filter : Log.Filter) (count number : Nat)
    (m : Console) (logger : Log.Logger) (last : Option Frame) :
    Asks P (play filter count number m logger last) := by
  induction count generalizing number m logger last with
  | zero => exact asks_pure _
  | succ count ih =>
    refine (asks_instant number).bind fun now => ?_
    rcases Machine.stepFrame Journal.host m { logger := logger.setClock now } with ⟨frame?, m, j⟩
    refine (asks_flush logs filter _).bind fun _ => ?_
    cases frame? with
    | none => exact asks_throw _
    | some frame =>
      refine (asks_say logs filter _ _).bind fun _ => ?_
      exact (asks_ask (presents frame)).bind fun _ => ih _ _ _ _

omit logs

theorem asks_readRom {path : String} (reads : P (.readBytes path)) : Asks P (readRom path) := by
  refine (asks_ask reads).bind fun answer => ?_
  cases answer with
  | none => exact asks_throw _
  | some image => exact asks_pure _

theorem asks_conclude (prints : ∀ text, P (.print text)) (saves : ∀ path f, P (.savePicture path f))
    (frames : UInt32) (dump : Option String) (last : Option Frame) :
    Asks P (conclude frames dump last) := by
  unfold conclude
  split
  · exact asks_ask (prints _)
  · exact asks_throw _
  · refine (asks_ask (saves _ _)).bind fun created => ?_
    split
    · exact asks_ask (prints _)
    · exact asks_throw _

end Asks

end Session

end CommandLine
end Genesis
