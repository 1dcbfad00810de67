import Genesis.Bus
import Genesis.Proofs.Dialogue

/-!
# Hosts that agree

What the console does depends on its host through the answers about buttons alone. So two hosts that
give the same answers from related states, and stay related when they are handed lines and notices,
lead every access on the bus to the same result (`Host.Agree.answer`).
-/

namespace Genesis

variable {η θ : Type}

/-- From related states two hosts press the same buttons, and whatever they are asked or handed
keeps their states related. -/
structure Host.Agree (R : η → θ → Prop) (host : Host η) (host' : Host θ) : Prop where
  pressed : ∀ x h k, R h k →
    (host.pressed x h).1 = (host'.pressed x k).1 ∧ R (host.pressed x h).2 (host'.pressed x k).2
  scanline : ∀ s h k, R h k → R (host.scanline s h) (host'.scanline s k)
  notice : ∀ n h k, R h k → R (host.notice n h) (host'.notice n k)

def Host.Beside {ν : Type} (R : η → θ → Prop) (s : Memory ν × η) (t : Memory ν × θ) : Prop :=
  s.1 = t.1 ∧ R s.2 t.2

namespace Host.Agree

variable {R : η → θ → Prop} {host : Host η} {host' : Host θ} (agree : host.Agree R host')
  {h : η} {k : θ} (start : R h k)

include agree start

theorem report (notices : List Notice) : R (host.report notices h) (host'.report notices k) := by
  induction notices generalizing h k with
  | nil => exact start
  | cons n notices ih => exact ih (agree.notice n h k start)

theorem display (outputs : List VideoOutput) :
    R (host.display outputs h) (host'.display outputs k) := by
  induction outputs generalizing h k with
  | nil => exact start
  | cons output outputs ih =>
    cases output with
    | scanline s => exact ih (agree.scanline s h k start)
    | note n => exact ih (agree.notice n h k start)

theorem released (buttons : List (Button × UInt8)) :
    (Pad.released host.pressed buttons h).1 = (Pad.released host'.pressed buttons k).1 ∧
      R (Pad.released host.pressed buttons h).2 (Pad.released host'.pressed buttons k).2 := by
  induction buttons generalizing h k with
  | nil => exact ⟨rfl, start⟩
  | cons button buttons ih =>
    obtain ⟨same, next⟩ := agree.pressed button.1 h k start
    obtain ⟨bits, last⟩ := ih next
    exact ⟨by simp only [Pad.released, same, bits], last⟩

theorem readPad (pads : Bank Pad 3) (port : Fin 3) (lanes : Lanes) :
    (Bus.readPad host pads port lanes h).1 = (Bus.readPad host' pads port lanes k).1 ∧
      R (Bus.readPad host pads port lanes h).2 (Bus.readPad host' pads port lanes k).2 := by
  unfold Bus.readPad
  split
  · split
    · obtain ⟨bits, next⟩ := agree.released start (pads.get port).asked
      simp only [Pad.read, bits]
      exact ⟨trivial, agree.report next _⟩
    · exact ⟨rfl, start⟩
  · exact ⟨rfl, start⟩

theorem answerVideo (cartridge : Cartridge) (workRam : Ram) (q : VideoRequest) :
    (Bus.answerVideo host cartridge workRam q h).1 =
        (Bus.answerVideo host' cartridge workRam q k).1 ∧
      R (Bus.answerVideo host cartridge workRam q h).2
        (Bus.answerVideo host' cartridge workRam q k).2 := by
  cases q with
  | note n => exact ⟨rfl, agree.notice n h k start⟩
  | fetch address =>
    simp only [Bus.answerVideo, Bus.fetch]
    split
    · exact ⟨rfl, start⟩
    · exact ⟨rfl, agree.notice _ h k start⟩

variable {ν : Type} [VideoUnit ν] (address : UInt32) (lanes : Lanes) (m : Memory ν)

theorem readWord :
    (Bus.readWord host address lanes m h).1 = (Bus.readWord host' address lanes m k).1 ∧
      Beside R (Bus.readWord host address lanes m h).2
        (Bus.readWord host' address lanes m k).2 := by
  unfold Bus.readWord
  cases Region.decode address m.cartridge.size with
  | z80Ram offset =>
    dsimp only
    cases Bus.z80Cell? offset lanes with
    | some cell => exact ⟨rfl, rfl, start⟩
    | none => exact ⟨rfl, rfl, agree.notice _ h k start⟩
  | padData port =>
    obtain ⟨value, next⟩ := agree.readPad start m.pads port lanes
    exact ⟨value, rfl, next⟩
  | videoData | videoControl => exact ⟨rfl, rfl, agree.report start _⟩
  | invalid => exact ⟨rfl, rfl, agree.notice _ h k start⟩
  | _ => exact ⟨rfl, rfl, start⟩

theorem write (value : UInt16) :
    Beside R (Bus.write host address lanes value m h)
      (Bus.write host' address lanes value m k) := by
  unfold Bus.write Bus.writeWord
  cases Region.decode (Bus.reduce address) m.cartridge.size with
  | z80Ram offset =>
    dsimp only
    cases Bus.z80Cell? offset lanes with
    | some cell => exact ⟨rfl, start⟩
    | none => exact ⟨rfl, agree.notice _ h k start⟩
  | padData port | padControl port => cases lanes <;> exact ⟨rfl, start⟩
  | videoData => exact ⟨rfl, agree.report start _⟩
  | videoControl =>
    have served : Dialogue.Agree R (Bus.answerVideo host m.cartridge m.workRam)
        (Bus.answerVideo host' m.cartridge m.workRam) :=
      fun q h k start => agree.answerVideo start m.cartridge m.workRam q
    obtain ⟨video, next⟩ := served.run start (VideoUnit.writeControl value m.video)
    exact ⟨congrArg (fun video => { m with video }) video, next⟩
  | cartridge | invalid => exact ⟨rfl, agree.notice _ h k start⟩
  | _ => exact ⟨rfl, start⟩

omit start in
/-- The bus answers the same and stays the same, whichever of the two hosts is behind it. -/
theorem answer : Dialogue.Agree (Beside (ν := ν) R) (Bus.answer host) (Bus.answer host') := by
  rintro q ⟨m, h⟩ ⟨_, k⟩ ⟨rfl, start⟩
  cases q with
  | read address lanes =>
    obtain ⟨word, next⟩ := agree.readWord start (Bus.reduce address) lanes m
    exact ⟨congrArg (· &&& lanes.mask) word, next⟩
  | write address lanes value => exact ⟨rfl, agree.write start address lanes m value⟩
  | note n => exact ⟨rfl, rfl, agree.notice n h k start⟩

end Host.Agree
end Genesis
