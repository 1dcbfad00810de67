import Genesis.Proofs.Bus.AgreeingHosts
import Genesis.Proofs.Bus.HostState
import Genesis.Proofs.HeldButtons
import Genesis.Proofs.Machine.Permanence
import Genesis.Proofs.Picture

/-!
# Stepped frames

A stepped frame is a run frame whose host presses the held buttons and puts the lines together. Any
host that presses the same buttons leads to the same calls with the same exchanges on the bus, to
the same console, and is handed the same lines; and the frame is what these lines make
(`stepped_frame_assembles_lines`).
-/

namespace Genesis

namespace Machine

variable {σ ν η θ : Type}

def Beside (R : η → θ → Prop) (s : σ × Memory ν × η) (t : σ × Memory ν × θ) : Prop :=
  s.1 = t.1 ∧ Host.Beside R s.2 t.2

/-- A call on a component, the processor and the memory that it meets, and what it exchanges with
the bus. -/
structure Entry (σ ν : Type) where
  event : Event
  cpu : σ
  memory : Memory ν
  exchanged : List ((q : BusRequest) × q.Answer)

variable [Processor σ] [VideoUnit ν]

section Log

variable (host : Host η)

def exchanged (s : σ × Memory ν × η) : Event → List ((q : BusRequest) × q.Answer)
  | .clock => (Processor.cycle s.1).transcript (Bus.answer host) s.2
  | .render _ => []
  | .interrupt level reason =>
    (Processor.interrupt level s.1).transcript (Bus.answer host)
      (s.2.1, host.notice reason s.2.2)

def log : List Event → σ × Memory ν × η → List (Entry σ ν)
  | [], _ => []
  | e :: events, s => ⟨e, s.1, s.2.1, exchanged host s e⟩ :: log events (carryOut host s e)

theorem log_append (events more : List Event) (s : σ × Memory ν × η) :
    log host (events ++ more) s =
      log host events s ++ log host more (carryOutAll host events s) := by
  induction events generalizing s with
  | nil => rfl
  | cons e events ih => exact congrArg (List.cons _) (ih _)

/-- The calls of a frame, with all that they meet and exchange. -/
def frameLog (m : Machine σ ν) (h : η) : List (Entry σ ν) :=
  log host (frameCalls host m h) (m.cpu, m.memory, h)

end Log

section Agree

variable {R : η → θ → Prop} {host : Host η} {host' : Host θ} (agree : host.Agree R host')

include agree

theorem renderLine_agree (line : UInt16) {s : Memory ν × η} {t : Memory ν × θ}
    (start : Host.Beside R s t) :
    Host.Beside R (renderLine host line s) (renderLine host' line t) := by
  obtain ⟨m, h⟩ := s
  obtain ⟨_, k⟩ := t
  obtain ⟨rfl, start⟩ := start
  exact ⟨rfl, agree.display start _⟩

variable {s : σ × Memory ν × η} {t : σ × Memory ν × θ} (start : Beside R s t)

include start

theorem carryOut_agree (e : Event) : Beside R (carryOut host s e) (carryOut host' t e) := by
  obtain ⟨cpu, m, h⟩ := s
  obtain ⟨_, _, k⟩ := t
  obtain ⟨rfl, rfl, start⟩ := start
  cases e with
  | clock => exact agree.answer.run ⟨rfl, start⟩ _
  | render line => exact ⟨rfl, renderLine_agree agree line ⟨rfl, start⟩⟩
  | interrupt level reason => exact agree.answer.run ⟨rfl, agree.notice reason h k start⟩ _

theorem exchanged_agree (e : Event) : exchanged host s e = exchanged host' t e := by
  obtain ⟨cpu, m, h⟩ := s
  obtain ⟨_, _, k⟩ := t
  obtain ⟨rfl, rfl, start⟩ := start
  cases e with
  | clock => exact agree.answer.transcript_eq ⟨rfl, start⟩ _
  | render line => rfl
  | interrupt level reason =>
    exact agree.answer.transcript_eq ⟨rfl, agree.notice reason h k start⟩ _

theorem carryOutAll_agree (events : List Event) :
    Beside R (carryOutAll host events s) (carryOutAll host' events t) := by
  induction events generalizing s t with
  | nil => exact start
  | cons e events ih => exact ih (carryOut_agree agree start e)

theorem asksAfter_agree (clocks : Nat) (line : UInt16) :
    asksAfter host clocks line s = asksAfter host' clocks line t := by
  have rendered := carryOutAll_agree agree start (List.replicate clocks .clock ++ [.render line])
  rw [asksAfter, asksAfter, rendered.2.1]

theorem log_agree (events : List Event) : log host events s = log host' events t := by
  induction events generalizing s t with
  | nil => rfl
  | cons e events ih =>
    rw [log, log, exchanged_agree agree start e, ih (carryOut_agree agree start e), start.1,
      start.2.1]

theorem runLines_agree (clocks : Nat) (lines : List UInt16) :
    Beside R (runLines host clocks lines s.1 s.2) (runLines host' clocks lines t.1 t.2) := by
  induction lines generalizing s t with
  | nil => exact start
  | cons line lines ih =>
    have ran : Beside R (runLine host clocks line s.1 s.2) (runLine host' clocks line t.1 t.2) := by
      rw [runLine_eq, runLine_eq, asksAfter_agree agree start]
      exact carryOutAll_agree agree start _
    exact ih ran

omit start

variable {h : η} {k : θ} (related : R h k) (m : Machine σ ν)

include related

theorem frameCalls_agree : frameCalls host m h = frameCalls host' m k := by
  have start : Beside R (m.cpu, m.memory, h) (m.cpu, m.memory, k) := ⟨rfl, rfl, related⟩
  have before (clocks i : Nat) : Beside R (beforeLine host clocks (m.cpu, m.memory, h) i)
      (beforeLine host' clocks (m.cpu, m.memory, k) i) :=
    runLines_agree agree start clocks _
  have asks (clocks : Nat) : asksFrom host clocks (m.cpu, m.memory, h) =
      asksFrom host' clocks (m.cpu, m.memory, k) :=
    funext fun i => asksAfter_agree agree (before clocks i) clocks (UInt16.ofNat i)
  simp only [frameCalls, asks, (before _ _).2.1]

/-- A frame makes the same calls with either host, and they meet and exchange the same. -/
theorem frameLog_agree : frameLog host m h = frameLog host' m k := by
  rw [frameLog, frameLog, frameCalls_agree agree related m]
  exact log_agree agree ⟨rfl, rfl, related⟩ _

theorem runFrame_agree :
    (runFrame host m h).1 = (runFrame host' m k).1 ∧
      R (runFrame host m h).2 (runFrame host' m k).2 := by
  have calls := frameCalls_agree agree related m
  have start : Beside R (m.cpu, m.memory, h) (m.cpu, m.memory, k) := ⟨rfl, rfl, related⟩
  obtain ⟨cpu, memory, last⟩ := carryOutAll_agree agree start (frameCalls host' m k)
  rw [runFrame_eq_frameCalls, runFrame_eq_frameCalls, calls]
  simp only [cpu, memory]
  exact ⟨trivial, last⟩

end Agree

end Machine

section Hosts

variable {η θ : Type}

def Host.recording (host : Host θ) : Host (List Scanline × θ) where
  pressed x s := ((host.pressed x s.2).1, s.1, (host.pressed x s.2).2)
  scanline line s := (s.1 ++ [line], host.scanline line s.2)
  notice n s := (s.1, host.notice n s.2)

theorem Host.agree_recording (host : Host θ) :
    host.Agree (fun k (s : List Scanline × θ) => s.2 = k) host.recording where
  pressed := by
    rintro x _ ⟨lines, k⟩ rfl
    exact ⟨rfl, rfl⟩
  scanline := by
    rintro line _ ⟨lines, k⟩ rfl
    rfl
  notice := by
    rintro n _ ⟨lines, k⟩ rfl
    rfl

/-- The picture of a stepped frame is the one that the lines of a frame with the same buttons
make. -/
theorem Machine.agree_pictureHost (host : Host η) {held : HeldButtons} {oracle : Host θ}
    (pressed : ∀ x k, (oracle.pressed x k).1 = held.contains x) :
    (pictureHost host held).Agree (fun s t => s.1 = Picture.ofLines t.1) oracle.recording where
  pressed x h k same := ⟨(pressed x k.2).symm, same⟩
  scanline line h k same := by
    rw [Host.recording, Picture.ofLines_append_singleton, ← same]
    rfl
  notice n h k same := same

/-- The lines among what rendering gives out. -/
def scanlines (outputs : List VideoOutput) : List Scanline :=
  outputs.filterMap fun
    | .scanline s => some s
    | .note _ => none

theorem Host.keeps_recording (host : Host θ) (lines : List Scanline) :
    host.recording.Keeps fun s => s.1 = lines where
  pressed _ _ same := same
  notice _ _ same := same

theorem Host.display_recording (host : Host θ) (outputs : List VideoOutput)
    (s : List Scanline × θ) :
    (host.recording.display outputs s).1 = s.1 ++ scanlines outputs := by
  induction outputs generalizing s with
  | nil => simp [display, scanlines]
  | cons output outputs ih =>
    cases output with
    | scanline line =>
      refine (ih _).trans ?_
      simp [recording, scanlines]
    | note n => exact ih _

end Hosts

namespace Machine

variable {σ ν η : Type} [Processor σ] [VideoUnit ν]

def Entry.rendered (entry : Entry σ ν) : List Scanline :=
  match entry.event with
  | .render line => scanlines (VideoUnit.render line entry.memory.video).1
  | _ => []

section Lines

variable {θ : Type} (oracle : Host θ)

theorem lines_carryOut (e : Event) (s : σ × Memory ν × List Scanline × θ) :
    (carryOut oracle.recording s e).2.2.1 =
      s.2.2.1 ++ (Entry.mk e s.1 s.2.1 (exchanged oracle.recording s e)).rendered := by
  have keeps := oracle.keeps_recording s.2.2.1
  cases e with
  | clock =>
    have same := keeps.run (h := s.2.2) rfl s.2.1 (Processor.cycle s.1)
    exact same.trans (List.append_nil s.2.2.1).symm
  | render line => exact oracle.display_recording _ s.2.2
  | interrupt level reason =>
    have same := keeps.run (h := oracle.recording.notice reason s.2.2) rfl s.2.1
      (Processor.interrupt level s.1)
    exact same.trans (List.append_nil s.2.2.1).symm

theorem lines_carryOutAll (events : List Event) (s : σ × Memory ν × List Scanline × θ) :
    (carryOutAll oracle.recording events s).2.2.1 =
      s.2.2.1 ++ (log oracle.recording events s).flatMap Entry.rendered := by
  induction events generalizing s with
  | nil => simp [carryOutAll, log]
  | cons e events ih =>
    refine (ih _).trans ?_
    rw [lines_carryOut, log, List.flatMap_cons, List.append_assoc]

theorem lines_runFrame (m : Machine σ ν) (k : θ) :
    (runFrame oracle.recording m ([], k)).2.1 =
      (frameLog oracle.recording m ([], k)).flatMap Entry.rendered := by
  rw [runFrame_eq_frameCalls]
  exact (lines_carryOutAll oracle _ _).trans (List.nil_append _)

end Lines

theorem stepFrame_eq (host : Host η) (m : Machine σ ν) (h : η) :
    stepFrame host m h =
      let r := runFrame (pictureHost host m.held) m (Picture.empty, h)
      (r.2.1.frame?, r.1, r.2.2) := by
  unfold stepFrame
  -- The frame itself is not to be run to compare the two sides.
  generalize runFrame (pictureHost host m.held) m (Picture.empty, h) = r
  rfl

section Oracle

variable {θ : Type} (oracle : Host θ) (m : Machine σ ν) (k : θ)

theorem runFrame_recording :
    (runFrame oracle.recording m ([], k)).1 = (runFrame oracle m k).1 ∧
      (runFrame oracle.recording m ([], k)).2.2 = (runFrame oracle m k).2 ∧
      (runFrame oracle.recording m ([], k)).2.1 = (frameLog oracle m k).flatMap Entry.rendered ∧
      frameLog oracle.recording m ([], k) = frameLog oracle m k := by
  have start : (([], k) : List Scanline × θ).2 = k := rfl
  obtain ⟨console, state⟩ := runFrame_agree oracle.agree_recording start m
  have calls := (frameLog_agree oracle.agree_recording start m).symm
  exact ⟨console.symm, state, calls ▸ lines_runFrame oracle m k, calls⟩

/-- A stepped frame beside a run frame whose host presses the held buttons. -/
theorem stepFrame_recording (host : Host η) (h : η)
    (pressed : ∀ x k, (oracle.pressed x k).1 = m.held.contains x) :
    (stepFrame host m h).1 =
        (Picture.ofLines (runFrame oracle.recording m ([], k)).2.1).frame? ∧
      (stepFrame host m h).2.1 = (runFrame oracle.recording m ([], k)).1 ∧
      frameLog (pictureHost host m.held) m (Picture.empty, h) =
        frameLog oracle.recording m ([], k) := by
  have agree := agree_pictureHost host pressed
  have start : ((Picture.empty, h) : Picture × η).1 =
      Picture.ofLines (([], k) : List Scanline × θ).1 := rfl
  obtain ⟨console, picture⟩ := runFrame_agree agree start m
  simp only [stepFrame_eq]
  exact ⟨congrArg Picture.frame? picture, console, frameLog_agree agree start m⟩

end Oracle

/-- A stepped frame with some buttons held always returns a frame, put together from the lines that
a run frame hands to its host if the host presses just these buttons; these are the lines that the
video unit renders. Both lead to the same console: the same calls meet the same states and exchange
the same on the bus. The order of the buttons and their repetition make no difference. -/
theorem stepped_frame_assembles_lines (host : Host η) (m : Machine σ ν) (h : η)
    (buttons : List Button) :
    (∀ {θ : Type} (oracle : Host θ) (k : θ),
      (∀ x k, (oracle.pressed x k).1 = decide (x ∈ buttons)) →
      let start := m.hold buttons
      let stepped := stepFrame host start h
      let ran := runFrame oracle.recording start ([], k)
      (∃ f, stepped.1 = some f ∧ f.Assembles ran.2.1) ∧
      stepped.2.1 = (runFrame oracle start k).1 ∧
      ran.1 = (runFrame oracle start k).1 ∧ ran.2.2 = (runFrame oracle start k).2 ∧
      ran.2.1 = (frameLog oracle start k).flatMap Entry.rendered ∧
      frameLog (pictureHost host start.held) start (Picture.empty, h) =
        frameLog oracle start k) ∧
    ∀ buttons', (∀ x, x ∈ buttons ↔ x ∈ buttons') → m.hold buttons = m.hold buttons' := by
  constructor
  · intro θ oracle k pressed
    have answers : ∀ x k, (oracle.pressed x k).1 = (m.hold buttons).held.contains x := fun x k =>
      (pressed x k).trans (HeldButtons.contains_ofList buttons x).symm
    obtain ⟨picture, console, calls⟩ := stepFrame_recording oracle (m.hold buttons) k host h answers
    obtain ⟨console', state, lines, calls'⟩ := runFrame_recording oracle (m.hold buttons) k
    obtain ⟨f, finished, assembles⟩ :=
      Picture.frame?_ofLines (runFrame oracle.recording (m.hold buttons) ([], k)).2.1
    dsimp only
    exact ⟨⟨f, picture.trans finished, assembles⟩, console.trans console', console', state,
      lines, calls.trans calls'⟩
  · intro buttons' same
    rw [hold, hold, HeldButtons.ofList_congr same]

/-- On a console at power-on, with a host that answers for two buttons itself and counts the
questions, and with one of the buttons listed twice. -/
theorem stepped_frame_assembles_lines_of_counting_host :
    let m : Machine Cpu Vdp := { cpu := {}, memory := Memory.initial Vdp.initial }
    let oracle : Host Nat := {
      pressed := fun x asked => (x == .a || x == .start, asked + 1)
      scanline := fun _ asked => asked
      notice := fun _ asked => asked }
    let lines := (runFrame oracle.recording (m.hold [.a, .start, .a]) ([], 0)).2.1
    (∃ f, (stepFrame Host.idle (m.hold [.a, .start, .a]) ()).1 = some f ∧ f.Assembles lines) ∧
      (stepFrame Host.idle (m.hold [.a, .start, .a]) ()).2.1 =
        (runFrame oracle (m.hold [.a, .start, .a]) 0).1 ∧
      m.hold [.a, .start, .a] = m.hold [.start, .a] := by
  intro m oracle lines
  obtain ⟨frames, sets⟩ := stepped_frame_assembles_lines Host.idle m () [.a, .start, .a]
  obtain ⟨frame, console, -⟩ := frames oracle 0 fun x _ => by cases x <;> rfl
  exact ⟨frame, console, sets [.start, .a] fun x => by cases x <;> decide⟩

end Machine
end Genesis
