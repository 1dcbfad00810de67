import Genesis.Proofs.Vdp.ControlWords
import Genesis.Proofs.Vdp.PortBytes
import Mathlib.Data.List.Induction

/-!
# The status register and the raster

Two flags of the status register follow the raster: one tells that the last line of the picture has
been rendered and not been reported, the other that it is the line rendered last. Only rendering, a
status read and power-on reach them (`raster_perform`), so both can be told from the history of the
operations (`status_tells_raster`), and a picture is reported at most once.
-/

namespace Genesis
namespace Vdp

/-- The two flags that follow the raster: the one that a status read clears, and the one that the
next line clears. -/
def raster (v : Vdp) : Bool × Bool := (v.framePending, v.inBlank)

@[simp] theorem raster_store (word : UInt16) (v : Vdp) : (v.store word).raster = v.raster := by
  unfold store
  split <;> rfl

theorem raster_fill (word : UInt16) (v : Vdp) : (v.fill word).raster = v.raster := by
  rw [fill_with]
  rfl

theorem raster_writeData (word : UInt16) (v : Vdp) :
    (writeData word v).value.raster = v.raster := by
  rw [value_writeData]
  split
  · exact raster_fill word _
  · exact raster_store word _

theorem raster_transferred (memory : UInt32 → UInt16) (v : Vdp) :
    (v.transferred memory).raster = v.raster := by
  unfold transferred
  split
  · exact run_startTransfer_induction _ (P := fun w => w.raster = v.raster)
      (fun w word same => (raster_store word w).trans same) (fun _ _ same => same)
      (fun _ same => same) rfl ()
  · rfl

theorem raster_taken (word : UInt16) (memory : UInt32 → UInt16) (v : Vdp) (reading : Reading) :
    (v.taken word memory reading).raster = v.raster := by
  cases reading with
  | register index value =>
    simp only [taken, setRegister]
    split <;> rfl
  | firstHalf => rfl
  | secondHalf => exact raster_transferred memory (v.withSecondHalf word)

theorem raster_afterLine (line : UInt16) (v : Vdp) :
    (v.afterLine line).raster = (v.framePending || decide (line = 223), decide (line = 223)) := by
  have last : line + 1 = screenHeight ↔ line = 223 := by
    unfold screenHeight
    constructor
    · intro h
      grind
    · rintro rfl
      rfl
  unfold afterLine
  by_cases h : line = 223
  · rw [if_pos (last.2 h), h]
    simp [raster]
  · rw [if_neg (mt last.1 h)]
    simp [raster, h]

/-- What an operation does to the flags. -/
def rasterAfter (flags : Bool × Bool) : Operation → Bool × Bool
  | .render line => (flags.1 || decide (line = 223), decide (line = 223))
  | .readStatus => (false, flags.2)
  | .powerOn => (false, false)
  | .control .. | .data _ | .readData => flags

theorem raster_perform (op : Operation) (v : Vdp) :
    (op.perform v).raster = rasterAfter v.raster op := by
  cases op with
  | control word memory =>
    rw [perform_control]
    exact raster_taken word memory v _
  | data word => exact raster_writeData word v
  | render line => exact raster_afterLine line v
  | readData | readStatus | powerOn => rfl

def Operation.line? : Operation → Option UInt16
  | .render line => some line
  | .control .. | .data _ | .readData | .readStatus | .powerOn => none

def rendered (ops : List Operation) : List UInt16 := ops.filterMap Operation.line?

def Operation.restarts : Operation → Bool
  | .powerOn => true
  | .control .. | .data _ | .readData | .readStatus | .render _ => false

/-- Nothing that came before is reported after it. -/
def Operation.settlesReport : Operation → Bool
  | .readStatus | .powerOn => true
  | .control .. | .data _ | .readData | .render _ => false

/-- The operations after the last one with the given property, or all if there is none. -/
def since (mark : Operation → Bool) (ops : List Operation) : List Operation :=
  (ops.reverse.takeWhile fun op => !mark op).reverse

@[simp] theorem rendered_nil : rendered [] = [] := rfl

theorem rendered_append_singleton (ops : List Operation) (op : Operation) :
    rendered (ops ++ [op]) = rendered ops ++ op.line?.toList := by
  cases h : op.line? <;> simp [rendered, h]

theorem since_append_singleton (mark : Operation → Bool) (ops : List Operation) (op : Operation) :
    since mark (ops ++ [op]) = if mark op then [] else since mark ops ++ [op] := by
  cases h : mark op <;> simp [since, h]

/-- The flags by the lines of a history: the last line is among those since the last report, and it
is the last one since power-on. -/
def rasterOf (ops : List Operation) : Bool × Bool :=
  (decide (223 ∈ rendered (since Operation.settlesReport ops)),
    decide ((rendered (since Operation.restarts ops)).getLast? = some 223))

theorem rasterOf_append_singleton (ops : List Operation) (op : Operation) :
    rasterOf (ops ++ [op]) = rasterAfter (rasterOf ops) op := by
  simp only [rasterOf, since_append_singleton]
  cases op with
  | render line =>
    simp [Operation.settlesReport, Operation.restarts, rendered_append_singleton, Operation.line?,
      rasterAfter, eq_comm]
  | _ =>
    simp [Operation.settlesReport, Operation.restarts, rendered_append_singleton, Operation.line?,
      rasterAfter]

theorem raster_after (ops : List Operation) : (after ops initial).raster = rasterOf ops := by
  induction ops using List.reverseRecOn with
  | nil => rfl
  | append_singleton ops op ih =>
    have last : after (ops ++ [op]) initial = op.perform (after ops initial) := by simp [after]
    rw [last, raster_perform, ih, rasterOf_append_singleton]

theorem status_eq (v : Vdp) :
    v.status =
      0x3600 + (if v.raster.1 then 0x0080 else 0) + (if v.raster.2 then 0x0008 else 0) := by
  unfold status raster
  cases v.framePending <;> cases v.inBlank <;> rfl

def Operation.status? (v : Vdp) : Operation → Option UInt16
  | .readStatus => some (VideoUnit.readStatus v).value.1
  | .control .. | .data _ | .readData | .render _ | .powerOn => none

def statuses : List Operation → Vdp → List UInt16
  | [], _ => []
  | op :: ops, v => (op.status? v).toList ++ statuses ops (op.perform v)

/-- A status word reports a picture. -/
def reportsFrame (status : UInt16) : Bool := status &&& 0x0080 != 0

theorem reportsFrame_status (v : Vdp) : reportsFrame v.status = v.raster.1 := by
  unfold reportsFrame status raster
  cases v.framePending <;> cases v.inBlank <;> rfl

theorem report_step (op : Operation) (v : Vdp) :
    (op.status? v).toList.countP reportsFrame + (rasterAfter v.raster op).1.toNat ≤
      op.line?.toList.count 223 + v.raster.1.toNat := by
  cases op with
  | readStatus =>
    have shown : reportsFrame (VideoUnit.readStatus v).value.1 = v.raster.1 := reportsFrame_status v
    cases h : v.raster.1 <;>
      simp [Operation.status?, Operation.line?, rasterAfter, shown, h]
  | render line =>
    by_cases last : line = 223 <;> cases h : v.raster.1 <;>
      simp [Operation.status?, Operation.line?, rasterAfter, last, h]
  | _ => simp [Operation.status?, Operation.line?, rasterAfter]

/-- There are no more reports than pictures, the one at the start included. -/
theorem countP_statuses_le (ops : List Operation) (v : Vdp) :
    (statuses ops v).countP reportsFrame ≤ (rendered ops).count 223 + v.raster.1.toNat := by
  induction ops generalizing v with
  | nil => simp [statuses]
  | cons op ops ih =>
    have rest := ih (op.perform v)
    have first := report_step op v
    have lines : rendered (op :: ops) = op.line?.toList ++ rendered ops := by
      cases h : op.line? <;> simp [rendered, h]
    rw [raster_perform] at rest
    rw [statuses, lines, List.countP_append, List.count_append]
    omega

/-- After any operations a status read shows whether the last line has been rendered since the last
status read or power-on, and whether it is the line rendered last since power-on. Control words,
with whatever transfer they start, and data words leave the status as it is. So in any run there are
no more reports of a picture than times that its last line was rendered. -/
theorem status_tells_raster (ops : List Operation) :
    (VideoUnit.readStatus (after ops initial)).value.1 =
      0x3600 + (if 223 ∈ rendered (since Operation.settlesReport ops) then 0x0080 else 0) +
        (if (rendered (since Operation.restarts ops)).getLast? = some 223 then 0x0008 else 0) ∧
    (∀ v word memory, ((Operation.control word memory).perform v).status = status v) ∧
    (∀ v word, ((Operation.data word).perform v).status = status v) ∧
    (∀ v, (Operation.readData.perform v).status = status v) ∧
    ∀ v, (statuses ops v).countP reportsFrame ≤
      (rendered ops).count 223 + v.framePending.toNat := by
  have same {op : Operation} {v : Vdp} (h : rasterAfter v.raster op = v.raster) :
      (op.perform v).status = v.status := by
    rw [status_eq, status_eq, raster_perform, h]
  refine ⟨?_, fun _ _ _ => same rfl, fun _ _ => same rfl, fun _ => same rfl,
    countP_statuses_le ops⟩
  show (after ops initial).status = _
  rw [status_eq, raster_after]
  simp only [rasterOf, decide_eq_true_eq]

end Vdp
end Genesis
