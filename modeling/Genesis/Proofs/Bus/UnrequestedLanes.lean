import Genesis.Proofs.Bus.Access
import Genesis.Proofs.Vdp.PortBytes

/-!
# Unrequested lanes of a write

Every device but the video unit takes only the requested bytes of a word. The video unit is given
the whole word, so there the other byte matters whenever it leaves a trace in the state
(`requested_lanes_suffice_iff`).
-/

namespace Genesis
namespace Bus

variable {ν η : Type} (host : Host η) {address : UInt32} {lanes : Lanes} {m : Memory ν}

/-- Outside the video ports, a write leaves the same whenever the requested bytes are the same. -/
theorem write_eq_of_requested [VideoUnit ν] {w x : UInt16} (h : η)
    (notData : Region.decode address m.cartridge.size ≠ .videoData)
    (notControl : Region.decode address m.cartridge.size ≠ .videoControl)
    (high : lanes.hasHigh → highByte w = highByte x) (low : lanes.hasLow → lowByte w = lowByte x) :
    (write host address lanes w m h).1 = (write host address lanes x m h).1 := by
  cases region : Region.decode address m.cartridge.size with
  | videoData => exact absurd region notData
  | videoControl => exact absurd region notControl
  | workRam =>
    rw [write_workRam host lanes w h region, write_workRam host lanes x h region]
    cases lanes <;> simp_all [writeWorkRam, Lanes.hasHigh, Lanes.hasLow]
  | z80Ram offset =>
    rw [write_z80Ram host lanes w h region, write_z80Ram host lanes x h region]
    cases lanes <;> simp_all [z80Cell?, ofLane, Lanes.hasHigh, Lanes.hasLow]
  | padData port =>
    rw [write_padData host lanes w h region, write_padData host lanes x h region]
    cases lanes <;> simp_all [Lanes.hasLow]
  | padControl port =>
    rw [write_padControl host lanes w h region, write_padControl host lanes x h region]
    cases lanes <;> simp_all [Lanes.hasLow]
  | _ =>
    rw [write_of_unwritable host lanes w h (by simp [region]),
      write_of_unwritable host lanes x h (by simp [region])]

/-- Whether the requested bytes of a write decide what it leaves behind. -/
def LanesSuffice (m : Memory Vdp) (address : UInt32) : Lanes → Prop
  | .both => True
  | .low =>
    match Region.decode address m.cartridge.size with
    | .videoData => ¬ m.video.KeepsHighByte
    | .videoControl => m.video.latched = true
    | _ => True
  | .high =>
    match Region.decode address m.cartridge.size with
    | .videoData => ¬ m.video.KeepsLowByte
    | .videoControl => False
    | _ => True

theorem with_video_inj (m : Memory ν) {v v' : ν} :
    ({ m with video := v } : Memory ν) = { m with video := v' } ↔ v = v' := by
  constructor
  · exact congrArg Memory.video
  · rintro rfl
    rfl

/-- The exact condition under which the bytes of the lanes that a write does not request are
irrelevant. -/
theorem requested_lanes_suffice_iff (m : Memory Vdp) (h : η) (address : UInt32) (lanes : Lanes) :
    (∀ w x, w &&& lanes.mask = x &&& lanes.mask →
      (write host address lanes w m h).1 = (write host address lanes x m h).1) ↔
      LanesSuffice m address lanes := by
  cases lanes with
  | both =>
    refine iff_of_true (fun w x same => ?_) trivial
    rw [Lanes.and_mask_both, Lanes.and_mask_both] at same
    rw [same]
  | low =>
    simp only [Lanes.and_mask_low_iff, LanesSuffice]
    cases region : Region.decode address m.cartridge.size with
    | videoData =>
      simp only [write_videoData host .low _ h region, with_video_inj]
      exact m.video.low_byte_suffices_iff
    | videoControl =>
      simp only [write_videoControl host .low _ h region, with_video_inj]
      exact m.video.low_byte_completes_iff _ h
    | _ =>
      refine iff_of_true (fun w x low => ?_) trivial
      exact write_eq_of_requested host h (by simp [region]) (by simp [region])
        (fun high => absurd high (by decide)) (fun _ => low)
  | high =>
    simp only [Lanes.and_mask_high_iff, LanesSuffice]
    cases region : Region.decode address m.cartridge.size with
    | videoData =>
      simp only [write_videoData host .high _ h region, with_video_inj]
      exact m.video.high_byte_suffices_iff
    | videoControl =>
      simp only [write_videoControl host .high _ h region, with_video_inj]
      exact iff_of_false (m.video.high_byte_never_completes _ h) id
    | _ =>
      refine iff_of_true (fun w x high => ?_) trivial
      exact write_eq_of_requested host h (by simp [region]) (by simp [region]) (fun _ => high)
        (fun low => absurd low (by decide))

/-- A register write on the low lane takes the number of the register from the other lane. -/
theorem unrequested_lane_selects_register :
    ¬ ∀ (m : Memory Vdp) (address : UInt32) (lanes : Lanes) (w x : UInt16),
      w &&& lanes.mask = x &&& lanes.mask →
        (write Host.idle address lanes w m ()).1 = (write Host.idle address lanes x m ()).1 := by
  intro claim
  have same := claim (Memory.initial Vdp.initial) 0xC00004 .low 0x8E02 0x8F02 (by decide)
  have register := congrArg (fun m => m.video.register 15) same
  revert register
  decide

end Bus
end Genesis
