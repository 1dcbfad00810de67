import Genesis.Proofs.Machine.HiddenState
import Genesis.Proofs.Machine.SteppedFrame
import Genesis.Proofs.Vdp.LineBuffer

/-!
# The lines of a frame

A frame hands out what each of its lines renders in the state that the processor has left just then
(`Machine.lines_of_frame`). The video processor renders one line each time, so the host is handed
224 lines from top to bottom, whatever the processor writes between them and within them; and a
line buffer that the frame goes through makes no difference
(`Machine.frame_shows_backdrop_lines`).
-/

namespace Genesis

theorem BufferedVdp.hides_buffer : VideoUnit.Hides BufferedVdp.vdp where
  readData _ := rfl
  writeData _ _ := rfl
  readStatus _ := rfl
  writeControl value b := by
    have all : (fun vdp => BufferedVdp.vdp { b with vdp }) <$> VideoUnit.writeControl value b.vdp =
        VideoUnit.writeControl value b.vdp := id_map _
    exact all.symm.trans (comp_map _ _ _)
  render line b := Prod.ext (b.render_eq line).1.symm (b.render_eq line).2.symm
  lineInterruptEnabled _ := rfl
  frameInterruptEnabled _ := rfl

namespace Machine

variable {σ ν η : Type} [Processor σ] [VideoUnit ν] (host : Host η)

/-- The video unit as line `k` meets it, after the lines before and the clocks of its own. -/
def videoAt (clocks : Nat) (s : σ × Memory ν × η) (k : Nat) : ν :=
  let before := beforeLine host clocks s k
  (runClocks host clocks before.1 before.2).2.1.video

theorem render_not_mem_request (asked : Bool) (level : UInt8) (reason : Notice) (line : UInt16) :
    Event.render line ∉ (if asked then [.interrupt level reason] else [] : List Event) := by
  cases asked <;> simp

theorem rendered_log_eq_nil {events : List Event} (silent : ∀ line, .render line ∉ events)
    (s : σ × Memory ν × η) : (log host events s).flatMap Entry.rendered = [] := by
  induction events generalizing s with
  | nil => rfl
  | cons e events ih =>
    have rest := ih (fun line mem => silent line (List.mem_cons_of_mem e mem)) (carryOut host s e)
    rw [log, List.flatMap_cons, rest, List.append_nil]
    cases e with
    | clock | interrupt => rfl
    | render line => exact absurd List.mem_cons_self (silent line)

theorem rendered_lineEvents (clocks : Nat) (line : UInt16) (asked : Bool) (s : σ × Memory ν × η) :
    (log host (lineEvents clocks line asked) s).flatMap Entry.rendered =
      scanlines (VideoUnit.render line (runClocks host clocks s.1 s.2).2.1.video).1 := by
  have waiting : ∀ l, Event.render l ∉ List.replicate clocks Event.clock := by simp
  have request := render_not_mem_request asked 4 (.lineInterrupt line)
  rw [lineEvents, log_append, List.flatMap_append, rendered_log_eq_nil host waiting,
    List.nil_append, log, List.flatMap_cons, rendered_log_eq_nil host request, List.append_nil,
    runClocks_eq]
  rfl

theorem rendered_linesEvents (clocks : Nat) (s : σ × Memory ν × η) (k : Nat) :
    (log host (linesEvents clocks (asksFrom host clocks s) k) s).flatMap Entry.rendered =
      (List.range k).flatMap fun i =>
        scanlines (VideoUnit.render (UInt16.ofNat i) (videoAt host clocks s i)).1 := by
  induction k with
  | zero => rfl
  | succ k ih =>
    rw [linesEvents_succ, log_append, List.flatMap_append, ih, ← beforeLine_eq,
      rendered_lineEvents, List.range_succ, List.flatMap_append]
    simp only [List.flatMap_singleton, videoAt]

/-- A frame hands out what its lines render, each in the state that it meets. -/
theorem lines_of_frame (m : Machine σ ν) (h : η) :
    (runFrame host.recording m ([], h)).2.1 =
      (List.range 224).flatMap fun k =>
        scanlines (VideoUnit.render (UInt16.ofNat k)
          (videoAt host (clocksPerLine m.setup).toNat (m.cpu, m.memory, h) k)).1 := by
  obtain ⟨-, -, lines, -⟩ := runFrame_recording host m h
  rw [lines, frameLog, frameCalls, frameEvents, log_append, List.flatMap_append,
    rendered_log_eq_nil host (render_not_mem_request _ 6 .frameInterrupt), List.append_nil,
    rendered_linesEvents]

theorem lines_of_vdp_frame (m : Machine σ Vdp) (h : η) :
    (runFrame host.recording m ([], h)).2.1 =
      (List.range 224).map fun k =>
        (videoAt host (clocksPerLine m.setup).toNat (m.cpu, m.memory, h) k).scanline
          (UInt16.ofNat k) := by
  rw [lines_of_frame, List.map_eq_flatMap]
  rfl

/-- Whatever the processor does between the lines of a frame and within them, the host is handed 224
lines from top to bottom. Each is as wide as register 12 has it at that moment and one opaque
colour from end to end: black, or the entry that register 7 selects. Nothing else of the state
decides a line, and neither does a buffer that the lines go through, whatever it holds at the start
of the frame and whatever the lines leave in it. -/
theorem frame_shows_backdrop_lines (m : Machine σ Vdp) (h : η) :
    let ran := runFrame host.recording m ([], h)
    let met := videoAt host (clocksPerLine m.setup).toNat (m.cpu, m.memory, h)
    ran.1 = (runFrame host m h).1 ∧ ran.2.2 = (runFrame host m h).2 ∧
    ran.2.1.length = 224 ∧
    (∀ k < 224, ∃ s, ran.2.1[k]? = some s ∧ (met k).ShowsLine k s) ∧
    (∀ buffer : LineBuffer,
      let buffered :=
        runFrame host (m.mapMemory (Memory.mapVideo fun vdp => BufferedVdp.mk vdp buffer)) h
      runFrame host m h = (buffered.1.mapMemory (Memory.mapVideo BufferedVdp.vdp), buffered.2)) ∧
    ∀ (b c : BufferedVdp) (line : UInt16), b.vdp.SameBackdrop c.vdp →
      ∃ s, (VideoUnit.render line b.vdp).1 = [.scanline s] ∧
        (VideoUnit.render line b).1 = [.scanline s] ∧
        (VideoUnit.render line c).1 = [.scanline s] := by
  obtain ⟨console, state, -⟩ := runFrame_recording host m h
  have lines := lines_of_vdp_frame host m h
  refine ⟨console, state, ?_, ?_, ?_, ?_⟩
  · rw [lines, List.length_map, List.length_range]
  · intro k inside
    have number : (UInt16.ofNat k).toNat = k :=
      UInt16.toNat_ofNat_of_lt (Nat.lt_trans inside (by decide))
    rw [lines, List.getElem?_map, List.getElem?_range inside]
    exact ⟨_, rfl, Vdp.showsLine_scanline _ number⟩
  · intro buffer
    exact BufferedVdp.hides_buffer.mapVideo.runFrame_mapMemory host
      (m.mapMemory (Memory.mapVideo fun vdp => BufferedVdp.mk vdp buffer)) h
  · intro b c line same
    refine ⟨b.vdp.scanline line, rfl, (b.render_eq line).1, ?_⟩
    rw [same.scanline_eq]
    exact (c.render_eq line).1

/-- On a console at power-on, and for two states of the video processor that differ in command,
latch, scroll memory and buffer. -/
theorem frame_shows_backdrop_lines_of_idle_host :
    let m : Machine Cpu Vdp := { cpu := {}, memory := Memory.initial Vdp.initial }
    let registers : Bank UInt8 24 := (Bank.fill 24 0).put 1 0x40
    let b : BufferedVdp := { vdp := { registers, code := 1, address := 6 } }
    let c : BufferedVdp := {
      vdp := { registers, vsram := Bank.fill 40 5, latched := true }, buffer := Bank.fill 320 7 }
    (∃ s, (runFrame Host.idle.recording m ([], ())).2.1[223]? = some s ∧
      s.line.toNat = 223 ∧ s.height = 224) ∧
      b.vdp ≠ c.vdp ∧ b.buffer ≠ c.buffer ∧
      ∃ s, (VideoUnit.render 0 b).1 = [.scanline s] ∧ (VideoUnit.render 0 c).1 = [.scanline s] := by
  intro m registers b c
  obtain ⟨-, -, -, shown, -, alike⟩ := frame_shows_backdrop_lines Host.idle m ()
  obtain ⟨last, handed, shows⟩ := shown 223 (by decide)
  obtain ⟨s, -, rendered, rendered'⟩ := alike b c 0 ⟨rfl, rfl, rfl, rfl⟩
  refine ⟨⟨last, handed, shows.line, shows.height⟩, fun same => ?_, fun same => ?_, s, rendered,
    rendered'⟩
  · exact absurd (congrArg Vdp.code same) (by decide)
  · exact absurd (congrArg (fun buffer => buffer.get 0) same) (by decide)

end Machine
end Genesis
