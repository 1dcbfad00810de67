import Genesis.Bus
import Genesis.Proofs.Dialogue

/-!
# The host's state behind the bus

The bus reaches the host through questions about buttons and through notices only. So a property of
the host's state that outlives both outlives every access and every program that runs on the bus.
-/

namespace Genesis

variable {η : Type}

/-- A property of the host's state that neither a question about a button nor a notice ends. -/
structure Host.Keeps (host : Host η) (P : η → Prop) : Prop where
  pressed : ∀ x h, P h → P (host.pressed x h).2
  notice : ∀ n h, P h → P (host.notice n h)

namespace Host.Keeps

variable {host : Host η} {P : η → Prop} (keeps : host.Keeps P) {h : η} (start : P h)

include keeps start

theorem report (notices : List Notice) : P (host.report notices h) := by
  induction notices generalizing h with
  | nil => exact start
  | cons n notices ih => exact ih (keeps.notice n h start)

theorem released (buttons : List (Button × UInt8)) : P (Pad.released host.pressed buttons h).2 := by
  induction buttons generalizing h with
  | nil => exact start
  | cons button buttons ih => exact ih (keeps.pressed button.1 h start)

theorem readPad (pads : Bank Pad 3) (port : Fin 3) (lanes : Lanes) :
    P (Bus.readPad host pads port lanes h).2 := by
  unfold Bus.readPad
  split
  · split
    · exact keeps.report (keeps.released start _) _
    · exact start
  · exact start

theorem answerVideo (cartridge : Cartridge) (workRam : Ram) (q : VideoRequest) :
    P (Bus.answerVideo host cartridge workRam q h).2 := by
  cases q with
  | note n => exact keeps.notice n h start
  | fetch address =>
    simp only [Bus.answerVideo, Bus.fetch]
    split
    · exact start
    · exact keeps.notice _ h start

variable {ν : Type} [VideoUnit ν] (address : UInt32) (lanes : Lanes) (m : Memory ν)

theorem read : P (Bus.read host address lanes m h).2.2 := by
  unfold Bus.read Bus.readWord
  cases Region.decode (Bus.reduce address) m.cartridge.size with
  | z80Ram offset =>
    dsimp only
    cases Bus.z80Cell? offset lanes with
    | some cell => exact start
    | none => exact keeps.notice _ h start
  | padData port => exact keeps.readPad start m.pads port lanes
  | videoData | videoControl => exact keeps.report start _
  | invalid => exact keeps.notice _ h start
  | _ => exact start

theorem write (value : UInt16) : P (Bus.write host address lanes value m h).2 := by
  unfold Bus.write Bus.writeWord
  cases Region.decode (Bus.reduce address) m.cartridge.size with
  | z80Ram offset =>
    dsimp only
    cases Bus.z80Cell? offset lanes with
    | some cell => exact start
    | none => exact keeps.notice _ h start
  | padData port | padControl port => cases lanes <;> exact start
  | videoData => exact keeps.report start _
  | videoControl =>
    have served : P ((VideoUnit.writeControl value m.video).run
        (Bus.answerVideo host m.cartridge m.workRam) h).2 :=
      Dialogue.run_induction (P := P)
        (fun q h start => keeps.answerVideo start m.cartridge m.workRam q) _ start
    exact served
  | cartridge | invalid => exact keeps.notice _ h start
  | _ => exact start

theorem answer (q : BusRequest) : P (Bus.answer host q (m, h)).2.2 := by
  cases q with
  | read address lanes => exact keeps.read start address lanes m
  | write address lanes value => exact keeps.write start address lanes m value
  | note n => exact keeps.notice n h start

theorem run {α : Type} (d : BusProgram α) : P (d.run (Bus.answer host) (m, h)).2.2 :=
  Dialogue.run_induction (P := fun s : Memory ν × η => P s.2)
    (fun q s start => keeps.answer start s.1 q) d start

end Host.Keeps
end Genesis
