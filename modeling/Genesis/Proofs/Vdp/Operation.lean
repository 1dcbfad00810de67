import Genesis.Proofs.Vdp.Store

/-!
# Runs of the video processor

The video processor as its surroundings see it: six operations in any order. A property that every
store keeps is kept by a transfer of any length, and so by the control word that starts it.
-/

namespace Genesis
namespace Vdp

section Transfer

variable {σ : Type} (answer : (q : VideoRequest) → σ → q.Answer × σ) {P : Vdp → Prop}

/-- What every store keeps, a transfer from the console's memory keeps. -/
theorem run_transferWords_induction (keeps : ∀ v word, P v → P (store word v)) (n : Nat)
    (source : UInt32) {v : Vdp} (h : P v) (s : σ) :
    P ((transferWords n source v).run answer s).1 := by
  induction n generalizing source v s with
  | zero => exact h
  | succ n ih =>
    simp only [transferWords, VideoProgram.fetch, VideoProgram.note, Dialogue.query_bind,
      Dialogue.run_ask]
    split
    · exact ih _ (keeps v _ h) _
    · exact ih _ (keeps v _ h) _

/-- What every copied byte keeps, a copy within the video memory keeps. -/
theorem copyBytes_induction
    (keeps : ∀ v x, P v → P (advance { v with vram := v.vram.write v.address x })) (n : Nat)
    (source : UInt16) {v : Vdp} (h : P v) : P (copyBytes n source v) := by
  induction n generalizing source v with
  | zero => exact h
  | succ n ih => exact ih _ (keeps v _ h)

/-- What stores, copied bytes and arming a fill keep, any transfer keeps. -/
theorem run_startTransfer_induction (stores : ∀ v word, P v → P (store word v))
    (copies : ∀ v x, P v → P (advance { v with vram := v.vram.write v.address x }))
    (arms : ∀ v, P v → P { v with fillArmed := true }) {v : Vdp} (h : P v) (s : σ) :
    P ((startTransfer v).run answer s).1 := by
  unfold startTransfer
  cases v.transferKind with
  | bus => exact run_transferWords_induction answer stores _ _ h _
  | fill => exact arms v h
  | copy => exact copyBytes_induction copies _ _ h

end Transfer

theorem latched_run_startTransfer {σ : Type} (answer : (q : VideoRequest) → σ → q.Answer × σ)
    (v : Vdp) (s : σ) : ((startTransfer v).run answer s).1.latched = v.latched :=
  run_startTransfer_induction answer (P := fun w => w.latched = v.latched)
    (fun w word h => (latched_store word w).trans h) (fun _ _ h => h) (fun _ h => h) rfl s

theorem latched_repeatByte (x : UInt8) (n : Nat) (v : Vdp) :
    (repeatByte x n v).latched = v.latched := by
  induction n generalizing v with
  | zero => rfl
  | succ n ih => exact ih _

/-- Answers of a memory to a transfer. -/
def answerFrom (memory : UInt32 → UInt16) : (q : VideoRequest) → Unit → q.Answer × Unit
  | .fetch address, h => (memory address, h)
  | .note _, h => ((), h)

inductive Operation where
  | control (word : UInt16) (memory : UInt32 → UInt16)
  | data (word : UInt16)
  | readData
  | readStatus
  | render (line : UInt16)
  | powerOn

def Operation.perform (v : Vdp) : Operation → Vdp
  | .control word memory => ((VideoUnit.writeControl word v).run (answerFrom memory) ()).1
  | .data word => (VideoUnit.writeData word v).value
  | .readData => (VideoUnit.readData v).value.2
  | .readStatus => (VideoUnit.readStatus v).value.2
  | .render line => (VideoUnit.render line v).2
  | .powerOn => (VideoUnit.powerOn v).value

def after (ops : List Operation) (v : Vdp) : Vdp := ops.foldl Operation.perform v

@[simp] theorem after_nil (v : Vdp) : after [] v = v := rfl

@[simp] theorem after_cons (op : Operation) (ops : List Operation) (v : Vdp) :
    after (op :: ops) v = after ops (op.perform v) := rfl

theorem latched_writeData (word : UInt16) (v : Vdp) : (writeData word v).value.latched = false := by
  simp only [writeData]
  split
  · simp [fill, latched_repeatByte]
  · simp

end Vdp
end Genesis
