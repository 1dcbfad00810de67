import Genesis.Machine.Schedule
import Genesis.Scripted
import Genesis.Vdp.Raster
import Genesis.Proofs.Cpu.Calls
import Genesis.Proofs.Cpu.Interrupt
import Genesis.Proofs.Machine.Refusal
import Genesis.Proofs.Timing

/-!
# The calls of a frame

A frame is a list of calls on the processor and the video unit, carried out one after the other.
Which lines request an interrupt is not fixed in advance: each request depends on the state that the
calls before it have reached, for any processor and any video unit (`frame_follows_schedule`).
-/

namespace Genesis

/-- What passes between a console and its host. -/
inductive Message where
  | asked (x : Button) (pressed : Bool)
  | line (s : Scanline)
  | notice (n : Notice)
deriving DecidableEq

def VideoOutput.message : VideoOutput → Message
  | scanline s => .line s
  | note n => .notice n

/-- The same host, which also keeps all that it is asked and handed. -/
def Host.transcribing {η : Type} (host : Host η) : Host (List Message × η) where
  pressed x s :=
    let (pressed, h) := host.pressed x s.2
    (pressed, s.1 ++ [.asked x pressed], h)
  scanline line s := (s.1 ++ [.line line], host.scanline line s.2)
  notice n s := (s.1 ++ [.notice n], host.notice n s.2)

theorem Host.display_transcribing {η : Type} (host : Host η) (outputs : List VideoOutput)
    (s : List Message × η) :
    host.transcribing.display outputs s =
      (s.1 ++ outputs.map VideoOutput.message, host.display outputs s.2) := by
  induction outputs generalizing s with
  | nil => simp [Host.display]
  | cons o outputs ih =>
    rw [List.map_cons, List.append_cons]
    cases o <;> exact ih _

namespace Machine

/-- A call that the schedule makes on a component. -/
inductive Event where
  /-- One clock of the processor. -/
  | clock
  | render (line : UInt16)
  /-- An interrupt request; the host hears the reason first. -/
  | interrupt (level : UInt8) (reason : Notice)
deriving DecidableEq

/-- The calls of one line: its clocks, its picture, and a request if `asked`. -/
def lineEvents (clocks : Nat) (line : UInt16) (asked : Bool) : List Event :=
  List.replicate clocks .clock ++ .render line ::
    (if asked then [.interrupt 4 (.lineInterrupt line)] else [])

/-- The calls of the first `k` lines, where line `i` requests an interrupt if `asks i`. -/
def linesEvents (clocks : Nat) (asks : Nat → Bool) (k : Nat) : List Event :=
  (List.range k).flatMap fun i => lineEvents clocks (UInt16.ofNat i) (asks i)

/-- The calls of a frame, which requests an interrupt at its end if `asked`. -/
def frameEvents (clocks : Nat) (asks : Nat → Bool) (asked : Bool) : List Event :=
  linesEvents clocks asks 224 ++ (if asked then [.interrupt 6 .frameInterrupt] else [])

theorem linesEvents_succ (clocks : Nat) (asks : Nat → Bool) (k : Nat) :
    linesEvents clocks asks (k + 1) =
      linesEvents clocks asks k ++ lineEvents clocks (UInt16.ofNat k) (asks k) := by
  simp [linesEvents, List.range_succ]

theorem count_clock_lineEvents (clocks : Nat) (line : UInt16) (asked : Bool) :
    (lineEvents clocks line asked).count .clock = clocks := by
  cases asked <;> simp [lineEvents]

theorem count_clock_linesEvents (clocks : Nat) (asks : Nat → Bool) (k : Nat) :
    (linesEvents clocks asks k).count .clock = k * clocks := by
  induction k with
  | zero => simp [linesEvents]
  | succ k ih =>
    rw [linesEvents_succ, List.count_append, ih, count_clock_lineEvents, Nat.succ_mul]

theorem count_clock_frameEvents (clocks : Nat) (asks : Nat → Bool) (asked : Bool) :
    (frameEvents clocks asks asked).count .clock = 224 * clocks := by
  have lines := count_clock_linesEvents clocks asks 224
  cases asked <;> simp [frameEvents, lines]

variable {σ ν η : Type} [Processor σ] [VideoUnit ν] (host : Host η)

/-- Make one call. The host is handed what rendering a line gives out. -/
def carryOut (s : σ × Memory ν × η) : Event → σ × Memory ν × η
  | .clock => (Processor.cycle s.1).run (Bus.answer host) s.2
  | .render line =>
    let rendered := VideoUnit.render line s.2.1.video
    (s.1, { s.2.1 with video := rendered.2 }, host.display rendered.1 s.2.2)
  | .interrupt level reason =>
    (Processor.interrupt level s.1).run (Bus.answer host) (s.2.1, host.notice reason s.2.2)

def carryOutAll (events : List Event) (s : σ × Memory ν × η) : σ × Memory ν × η :=
  events.foldl (carryOut host) s

theorem carryOutAll_append (events more : List Event) (s : σ × Memory ν × η) :
    carryOutAll host (events ++ more) s = carryOutAll host more (carryOutAll host events s) :=
  List.foldl_append

/-- Whether the line interrupt is enabled once a line has been rendered. -/
def asksAfter (clocks : Nat) (line : UInt16) (s : σ × Memory ν × η) : Bool :=
  VideoUnit.lineInterruptEnabled
    (carryOutAll host (List.replicate clocks .clock ++ [.render line]) s).2.1.video

theorem runClocks_eq (n : Nat) (cpu : σ) (s : Memory ν × η) :
    runClocks host n cpu s = carryOutAll host (List.replicate n .clock) (cpu, s) := by
  induction n generalizing cpu s with
  | zero => rfl
  | succ n ih => exact ih _ _

theorem renderLine_eq (line : UInt16) (s : σ × Memory ν × η) :
    (s.1, renderLine host line s.2) = carryOutAll host [.render line] s := rfl

theorem requestInterrupt_eq (enabled : Bool) (reason : Notice) (level : UInt8)
    (s : σ × Memory ν × η) :
    requestInterrupt host enabled reason level s.1 s.2 =
      carryOutAll host (if enabled then [.interrupt level reason] else []) s := by
  cases enabled <;> rfl

theorem runLine_eq (clocks : Nat) (line : UInt16) (s : σ × Memory ν × η) :
    runLine host clocks line s.1 s.2 =
      carryOutAll host (lineEvents clocks line (asksAfter host clocks line s)) s := by
  have rendered : carryOutAll host (List.replicate clocks .clock ++ [.render line]) s =
      ((runClocks host clocks s.1 s.2).1,
        renderLine host line (runClocks host clocks s.1 s.2).2) := by
    rw [carryOutAll_append, ← runClocks_eq]
    exact (renderLine_eq host line (runClocks host clocks s.1 s.2)).symm
  have split (asked : Bool) : lineEvents clocks line asked =
      (List.replicate clocks .clock ++ [.render line]) ++
        (if asked then [.interrupt 4 (.lineInterrupt line)] else []) := by
    simp [lineEvents]
  rw [split, carryOutAll_append, asksAfter, ← requestInterrupt_eq, rendered]
  rfl

theorem runLines_append (clocks : Nat) (lines more : List UInt16) (s : σ × Memory ν × η) :
    runLines host clocks (lines ++ more) s.1 s.2 =
      runLines host clocks more (runLines host clocks lines s.1 s.2).1
        (runLines host clocks lines s.1 s.2).2 := by
  induction lines generalizing s with
  | nil => rfl
  | cons line lines ih => exact ih _

/-- The state before line `k` of a frame. -/
def beforeLine (clocks : Nat) (s : σ × Memory ν × η) (k : Nat) : σ × Memory ν × η :=
  runLines host clocks ((List.range k).map UInt16.ofNat) s.1 s.2

theorem beforeLine_succ (clocks : Nat) (s : σ × Memory ν × η) (k : Nat) :
    beforeLine host clocks s (k + 1) =
      runLine host clocks (UInt16.ofNat k) (beforeLine host clocks s k).1
        (beforeLine host clocks s k).2 := by
  rw [beforeLine, List.range_succ, List.map_append, runLines_append]
  rfl

/-- Which lines request an interrupt, by the state that each of them reaches. -/
def asksFrom (clocks : Nat) (s : σ × Memory ν × η) (k : Nat) : Bool :=
  asksAfter host clocks (UInt16.ofNat k) (beforeLine host clocks s k)

theorem beforeLine_eq (clocks : Nat) (s : σ × Memory ν × η) (k : Nat) :
    beforeLine host clocks s k =
      carryOutAll host (linesEvents clocks (asksFrom host clocks s) k) s := by
  induction k with
  | zero => rfl
  | succ k ih =>
    rw [beforeLine_succ, runLine_eq, linesEvents_succ, carryOutAll_append, ← ih]
    rfl

/-- The requests of a frame are those that the video unit enables: each line's in the state that
rendering the line leaves, the frame's in the state that the last line leaves. -/
structure FollowsEnables (clocks : Nat) (asks : Nat → Bool) (asked : Bool)
    (start : σ × Memory ν × η) : Prop where
  line : ∀ k < 224, asks k = VideoUnit.lineInterruptEnabled
    (carryOutAll host (linesEvents clocks asks k ++ List.replicate clocks .clock ++
      [.render (UInt16.ofNat k)]) start).2.1.video
  frame : asked = VideoUnit.frameInterruptEnabled
    (carryOutAll host (linesEvents clocks asks 224) start).2.1.video

/-- Some lines and then a request. The lines are any list here: on the closed list of a frame, the
checker would run the frame to compare the two sides. -/
theorem lines_then_request (lines : List UInt16) (m : Machine σ ν) (h : η) :
    (match m with
      | ⟨cpu, memory, setup, held⟩ =>
        let (cpu, s) := runLines host (clocksPerLine setup).toNat lines cpu (memory, h)
        let (cpu, memory, h) := requestInterrupt host (VideoUnit.frameInterruptEnabled s.1.video)
          .frameInterrupt frameInterruptLevel cpu s
        ((⟨cpu, memory, setup, held⟩ : Machine σ ν), h)) =
      let last := runLines host (clocksPerLine m.setup).toNat lines m.cpu (m.memory, h)
      let s := requestInterrupt host (VideoUnit.frameInterruptEnabled last.2.1.video)
        .frameInterrupt 6 last.1 last.2
      ({ m with cpu := s.1, memory := s.2.1 }, s.2.2) :=
  rfl

theorem runFrame_eq_request (m : Machine σ ν) (h : η) :
    runFrame host m h =
      let last := beforeLine host (clocksPerLine m.setup).toNat (m.cpu, m.memory, h) 224
      let s := requestInterrupt host (VideoUnit.frameInterruptEnabled last.2.1.video)
        .frameInterrupt 6 last.1 last.2
      ({ m with cpu := s.1, memory := s.2.1 }, s.2.2) := by
  have lines : frameLines = (List.range 224).map UInt16.ofNat := rfl
  simp only [beforeLine, ← lines]
  exact (runFrame.eq_def host m h).trans (lines_then_request host frameLines m h)

/-- Every frame carries out its calls, with the requests that are enabled on the way. -/
theorem runFrame_eq (m : Machine σ ν) (h : η) :
    ∃ asks asked,
      FollowsEnables host (clocksPerLine m.setup).toNat asks asked (m.cpu, m.memory, h) ∧
      runFrame host m h =
        let s := carryOutAll host (frameEvents (clocksPerLine m.setup).toNat asks asked)
          (m.cpu, m.memory, h)
        ({ m with cpu := s.1, memory := s.2.1 }, s.2.2) := by
  have frame := runFrame_eq_request host m h
  have lines := beforeLine_eq host (clocksPerLine m.setup).toNat (m.cpu, m.memory, h)
  generalize (clocksPerLine m.setup).toNat = n at frame lines ⊢
  refine ⟨asksFrom host n (m.cpu, m.memory, h), VideoUnit.frameInterruptEnabled
    (beforeLine host n (m.cpu, m.memory, h) 224).2.1.video, ⟨?_, ?_⟩, ?_⟩
  · intro k _
    rw [List.append_assoc, carryOutAll_append, ← lines]
    rfl
  · rw [← lines]
  · rw [frameEvents, carryOutAll_append, ← lines, ← requestInterrupt_eq]
    exact frame

/-- The product of the budget units and the clocks of each does not overflow. -/
theorem toNat_clocksPerLine (setup : Setup) :
    (clocksPerLine setup).toNat =
      setup.unitsPerLine.toNat * max 1 setup.timing.subCycles.toNat := by
  have fits := setup.timing.unitsPerLine_mul_le setup.pal
  have clock := (setup.timing.masterClock setup.pal).toNat_lt
  rw [clocksPerLine, UInt32.toNat_mul, Timing.toNat_atLeastOne]
  exact Nat.mod_eq_of_lt (Nat.lt_of_le_of_lt fits clock)

theorem clock_carryOutAll (events : List Event) (s : Cpu × Memory ν × η) :
    (carryOutAll host events s).1.clock = s.1.clock + UInt64.ofNat (events.count .clock) := by
  induction events generalizing s with
  | nil => simp [carryOutAll]
  | cons event events ih =>
    refine (ih _).trans ?_
    cases event with
    | clock =>
      have step : (carryOut host s .clock).1.clock = s.1.clock + 1 :=
        (Cpu.ends_cycle_clock s.1).run _ _
      rw [step, List.count_cons_self, UInt64.ofNat_add, UInt64.add_assoc, UInt64.add_comm 1]
      rfl
    | render line => simp [carryOut]
    | interrupt level reason =>
      have step : (carryOut host s (.interrupt level reason)).1.clock = s.1.clock :=
        (Cpu.ends_interrupt_clock s.1 level).run _ _
      simp [step]

omit [Processor σ] [VideoUnit ν] in
theorem toNat_clocksPerLine_of_accepted {m : Machine σ ν}
    (accepted : (setTiming m.settings.timing m).1 = .ok ()) :
    (clocksPerLine m.setup).toNat =
      m.settings.unitsPerLine.toNat * m.settings.timing.subCycles.toNat := by
  have positive : m.setup.timing.subCycles.toNat ≠ 0 := by
    intro zero
    obtain ⟨d, refused⟩ := setTiming_of_dividesByZero m.settings.timing m
      ⟨.subCycles, UInt32.toNat_inj.1 zero⟩
    rw [refused] at accepted
    cases accepted
  rw [toNat_clocksPerLine, Nat.max_eq_right (Nat.pos_of_ne_zero positive)]
  rfl

/-- A frame is its schedule: each line runs the clocks of its budget, is rendered, and requests an
interrupt just if the video unit enables it then; the request at the end follows the state that the
last line leaves. The clock counter of the 68000 counts all the clocks of the frame. -/
theorem frame_follows_schedule {ν η : Type} [VideoUnit ν] (host : Host η) :
    (∀ (σ : Type) [Processor σ] (m : Machine σ ν) (h : η),
      (setTiming m.settings.timing m).1 = .ok () →
      ∃ asks asked,
        let n := m.settings.unitsPerLine.toNat * m.settings.timing.subCycles.toNat
        FollowsEnables host n asks asked (m.cpu, m.memory, h) ∧
        runFrame host m h =
          let s := carryOutAll host (frameEvents n asks asked) (m.cpu, m.memory, h)
          ({ m with cpu := s.1, memory := s.2.1 }, s.2.2)) ∧
    (∀ (m : Machine Cpu ν) (h : η), (setTiming m.settings.timing m).1 = .ok () →
      (runFrame host m h).1.cpu.clock = m.cpu.clock + UInt64.ofNat
        (224 * (m.settings.unitsPerLine.toNat * m.settings.timing.subCycles.toNat))) := by
  constructor
  · intro σ _ m h accepted
    rw [← toNat_clocksPerLine_of_accepted accepted]
    exact runFrame_eq host m h
  · intro m h accepted
    obtain ⟨asks, asked, -, frame⟩ := runFrame_eq host m h
    have counted := clock_carryOutAll host
      (frameEvents (clocksPerLine m.setup).toNat asks asked) (m.cpu, m.memory, h)
    rw [count_clock_frameEvents, toNat_clocksPerLine_of_accepted accepted] at counted
    rw [frame, toNat_clocksPerLine_of_accepted accepted]
    exact counted

section Scripted

open Scripted

/-- What a host hears of a call on scripted components without any access to make. -/
def told (screen : Screen) : Event → List Message
  | .clock => [.notice (.remark .cpu .off "cycle")]
  | .render line =>
    .notice (.remark .video .off s!"render {line.toNat}") ::
      (screen.output line).map VideoOutput.message
  | .interrupt level reason =>
    [.notice reason, .notice (.remark .cpu .off s!"interrupt {level.toNat}")]

theorem told_lineEvents (screen : Screen) (clocks : Nat) (line : UInt16) (asked : Bool) :
    (lineEvents clocks line asked).flatMap (told screen) =
      List.replicate clocks (.notice (.remark .cpu .off "cycle")) ++
        told screen (.render line) ++
        if asked then told screen (.interrupt 4 (.lineInterrupt line)) else [] := by
  have clock : told screen .clock = [.notice (.remark .cpu .off "cycle")] := rfl
  cases asked <;>
    simp [lineEvents, List.flatMap_replicate, clock, List.flatten_replicate_singleton]

/-- Scripted components in the middle of a frame, after some clocks and a last line. -/
def scene (screen : Screen) (cycles lastLine : Nat) (heard : List Message) :
    Player × Memory Screen × List Message × Unit :=
  ({ script := [], cycles }, Memory.initial { screen with lastLine }, heard, ())

theorem carryOut_scene (screen : Screen) (cycles lastLine : Nat) (heard : List Message)
    (e : Event) :
    carryOut Host.idle.transcribing (scene screen cycles lastLine heard) e =
      scene screen (if e = .clock then cycles + 1 else cycles)
        (match e with
          | .render line => line.toNat
          | _ => lastLine)
        (heard ++ told screen e) := by
  cases e with
  | clock => rfl
  | render line =>
    have shown := Host.display_transcribing Host.idle
      (VideoUnit.render line { screen with lastLine }).1 (heard, ())
    refine Prod.ext rfl (Prod.ext rfl (Prod.ext (congrArg Prod.fst shown) rfl))
  | interrupt level reason =>
    refine Prod.ext rfl (Prod.ext rfl (Prod.ext ?_ rfl))
    exact List.append_assoc heard [.notice reason] _

theorem carryOutAll_scene (screen : Screen) (events : List Event) (cycles lastLine : Nat)
    (heard : List Message) :
    ∃ cycles' lastLine', carryOutAll Host.idle.transcribing events
        (scene screen cycles lastLine heard) =
      scene screen cycles' lastLine' (heard ++ events.flatMap (told screen)) := by
  induction events generalizing cycles lastLine heard with
  | nil => exact ⟨cycles, lastLine, by simp [carryOutAll]⟩
  | cons e events ih =>
    obtain ⟨cycles', lastLine', rest⟩ := ih _ _ (heard ++ told screen e)
    refine ⟨cycles', lastLine', ?_⟩
    rw [List.flatMap_cons, ← List.append_assoc, ← rest, ← carryOut_scene]
    rfl

theorem asks_scene {screen : Screen} {n : Nat} {asks : Nat → Bool} {asked : Bool}
    {cycles lastLine : Nat} {heard : List Message}
    (follows : FollowsEnables Host.idle.transcribing n asks asked
      (scene screen cycles lastLine heard)) :
    (∀ k < 224, asks k = (Screen.turn? screen.lineInterrupts k).getD false) ∧
      asked = screen.frameInterrupt := by
  constructor
  · intro k inside
    obtain ⟨c, l, before⟩ := carryOutAll_scene screen
      (linesEvents n asks k ++ List.replicate n .clock) cycles lastLine heard
    rw [follows.line k inside, carryOutAll_append, before]
    have number : (UInt16.ofNat k).toNat = k := by
      rw [UInt16.toNat_ofNat']
      omega
    change (Screen.turn? screen.lineInterrupts (UInt16.ofNat k).toNat).getD false = _
    rw [number]
  · obtain ⟨c, l, last⟩ := carryOutAll_scene screen (linesEvents n asks 224) cycles lastLine heard
    rw [follows.frame, last]
    rfl

end Scripted

/-- The default budget at fifty frames a second: the clock counter of the 68000, and all that a host
hears from scripted components that enable the interrupt on even lines and at the end. -/
theorem frame_follows_schedule_at_fifty :
    let m : Machine Cpu Vdp :=
      { cpu := {}, memory := Memory.initial Vdp.initial, setup := { pal := true } }
    let screen : Scripted.Screen := {
      lines := [some ⟨2, 2, 1, 0x00FF00⟩], lineInterrupts := [true, false]
      frameInterrupt := true, probe := [] }
    let scripted : Machine Scripted.Player Scripted.Screen :=
      { cpu := { script := [] }, memory := Memory.initial screen, setup := { pal := true } }
    let green (line : UInt16) : Scanline :=
      { line, pixels := #[0x00FF00, 0x00FF00], width := 2, height := 1 }
    let lineMessages (k : Nat) : List Message :=
      List.replicate 66 (.notice (.remark .cpu .off "cycle")) ++
      [.notice (.remark .video .off s!"render {k}"), .line (green (UInt16.ofNat k))] ++
      if k % 2 = 0 then
        [.notice (.lineInterrupt (UInt16.ofNat k)), .notice (.remark .cpu .off "interrupt 4")]
      else []
    (setTiming m.settings.timing m).1 = .ok () ∧
      (runFrame Host.idle m ()).1.cpu.clock = 14784 ∧
      (runFrame Host.idle.transcribing scripted ([], ())).2.1 =
        (List.range 224).flatMap lineMessages ++
          [.notice .frameInterrupt, .notice (.remark .cpu .off "interrupt 6")] := by
  intro m screen scripted green lineMessages
  have accepted : (setTiming m.settings.timing m).1 = .ok () := rfl
  refine ⟨accepted, ((frame_follows_schedule Host.idle).2 m () accepted).trans (by decide), ?_⟩
  obtain ⟨asks, asked, follows, frame⟩ :=
    (frame_follows_schedule Host.idle.transcribing).1 Scripted.Player scripted ([], ()) rfl
  have sixtySix : scripted.settings.unitsPerLine.toNat *
      scripted.settings.timing.subCycles.toNat = 66 := by decide
  rw [sixtySix] at follows frame
  have start : (scripted.cpu, scripted.memory, ([] : List Message), ()) = scene screen 0 0 [] := rfl
  rw [start] at follows frame
  obtain ⟨lines, rfl⟩ := asks_scene follows
  obtain ⟨c, l, all⟩ := carryOutAll_scene screen (frameEvents 66 asks screen.frameInterrupt) 0 0 []
  rw [frame, all]
  have line (k : Nat) (inside : k ∈ List.range 224) :
      (lineEvents 66 (UInt16.ofNat k) (asks k)).flatMap (told screen) = lineMessages k := by
    have below : k < 224 := List.mem_range.1 inside
    have number : (UInt16.ofNat k).toNat = k := by
      rw [UInt16.toNat_ofNat']
      omega
    have shown : told screen (.render (UInt16.ofNat k)) =
        [.notice (.remark .video .off s!"render {k}"), .line (green (UInt16.ofNat k))] := by
      have pixels : Array.replicate 2 0x00FF00 = (#[0x00FF00, 0x00FF00] : Array UInt32) := rfl
      simp [told, number, Scripted.Screen.output, Scripted.Screen.turn?, screen, Nat.mod_one, green,
        VideoOutput.message, pixels]
    have four : told screen (.interrupt 4 (.lineInterrupt (UInt16.ofNat k))) =
        [.notice (.lineInterrupt (UInt16.ofNat k)),
          .notice (.remark .cpu .off "interrupt 4")] := rfl
    rw [told_lineEvents, lines k below, shown, four]
    rcases Nat.mod_two_eq_zero_or_one k with even | odd
    · simp [lineMessages, Scripted.Screen.turn?, screen, even]
    · simp [lineMessages, Scripted.Screen.turn?, screen, odd]
  have all' : (linesEvents 66 asks 224).flatMap (told screen) =
      (List.range 224).flatMap lineMessages := by
    rw [linesEvents, List.flatMap_assoc, List.flatMap_def, List.flatMap_def,
      List.map_congr_left line]
  simp only [scene, List.nil_append, frameEvents, List.flatMap_append, all']
  rfl

end Machine
end Genesis
