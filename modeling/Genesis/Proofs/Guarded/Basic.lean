import Genesis.Bank
import Genesis.Dialogue

/-!
# Computations that stop at a fault

A guarded computation looks before it indexes, divides or adds: an index outside its array, a
divisor of zero or a result that does not fit stops it. One that reaches its end has met none of
them, so to show that a component never meets any, its guarded form is proved equal to the component
itself.
-/

namespace Genesis

/-- What stops a guarded computation. -/
inductive Fault where
  | outOfBounds (index size : Nat)
  | divisionByZero
  | overflow
  /-- A picture that has lost a line is never finished. -/
  | lostLine
deriving DecidableEq

abbrev Guarded := Except Fault

namespace Guarded

variable {α β σ : Type} {n : Nat}

@[simp] theorem ok_bind (a : α) (f : α → Guarded β) : (Except.ok a : Guarded α) >>= f = f a := rfl

@[simp] theorem pure_eq_ok (a : α) : (pure a : Guarded α) = .ok a := rfl

/-- Let a result through if a condition holds. -/
def require (p : Prop) [Decidable p] (fault : Fault) (a : α) : Guarded α :=
  if p then .ok a else .error fault

theorem require_eq_ok_iff {p : Prop} [Decidable p] {fault : Fault} {a b : α} :
    require p fault a = .ok b ↔ p ∧ a = b := by
  unfold require
  split <;> simp [*]

theorem require_of {p : Prop} [Decidable p] {fault : Fault} {a : α} (h : p) :
    require p fault a = .ok a :=
  require_eq_ok_iff.2 ⟨h, rfl⟩

section Arrays

def index (i n : Nat) : Guarded (Fin n) :=
  if h : i < n then .ok ⟨i, h⟩ else .error (.outOfBounds i n)

def range (stop size : Nat) : Guarded Unit := require (stop ≤ size) (.outOfBounds stop size) ()

def peek (b : Bank α n) (i : Nat) : Guarded α := do return b.get (← index i n)

def poke (b : Bank α n) (i : Nat) (x : α) : Guarded (Bank α n) := do return b.put (← index i n) x

theorem index_of_eq {i : Nat} (j : Fin n) (same : i = j.val) : index i n = .ok j := by
  subst same
  exact dif_pos j.isLt

theorem range_of_le {stop size : Nat} (h : stop ≤ size) : range stop size = .ok () :=
  require_of h

theorem peek_of_eq (b : Bank α n) {i : Nat} (j : Fin n) (same : i = j.val) :
    peek b i = .ok (b.get j) := by
  rw [peek, index_of_eq j same]
  rfl

theorem poke_of_eq (b : Bank α n) {i : Nat} (j : Fin n) (same : i = j.val) (x : α) :
    poke b i x = .ok (b.put j x) := by
  rw [poke, index_of_eq j same]
  rfl

example : peek (Bank.fill 24 (0 : UInt8)) 24 = .error (.outOfBounds 24 24) := rfl

theorem peek_ram (ram : Ram) {i : Nat} (address : UInt16) (same : i = address.toNat) :
    peek ram i = .ok (ram.read address) :=
  peek_of_eq ram address.toFin same

theorem poke_ram (ram : Ram) {i : Nat} (address : UInt16) (same : i = address.toNat) (x : UInt8) :
    poke ram i x = .ok (ram.write address x) :=
  poke_of_eq ram address.toFin same x

end Arrays

section Arithmetic

def add16 (a b : UInt16) : Guarded UInt16 :=
  require (a.toNat + b.toNat < 65536) .overflow (a + b)

def add (a b : UInt32) : Guarded UInt32 :=
  require (a.toNat + b.toNat < 4294967296) .overflow (a + b)

def sub (a b : UInt32) : Guarded UInt32 := require (b.toNat ≤ a.toNat) .overflow (a - b)

def mul (a b : UInt32) : Guarded UInt32 :=
  require (a.toNat * b.toNat < 4294967296) .overflow (a * b)

def div (a b : UInt32) : Guarded UInt32 := require (b ≠ 0) .divisionByZero (a / b)

/-- A number of cells; 32 bits are enough for every array of the console. -/
def count (n : Nat) : Guarded Nat := require (n < 4294967296) .overflow n

theorem add16_of_lt {a b : UInt16} (h : a.toNat + b.toNat < 65536) : add16 a b = .ok (a + b) :=
  require_of h

theorem add_of_lt {a b : UInt32} (h : a.toNat + b.toNat < 4294967296) : add a b = .ok (a + b) :=
  require_of h

theorem sub_of_le {a b : UInt32} (h : b.toNat ≤ a.toNat) : sub a b = .ok (a - b) := require_of h

theorem mul_of_lt {a b : UInt32} (h : a.toNat * b.toNat < 4294967296) : mul a b = .ok (a * b) :=
  require_of h

example : mul 65536 65536 = .error .overflow := rfl

theorem div_of_ne {a b : UInt32} (h : b ≠ 0) : div a b = .ok (a / b) := require_of h

theorem count_of_lt {n : Nat} (h : n < 4294967296) : count n = .ok n := require_of h

end Arithmetic

section Dialogue

variable {Q : Type} {A : Q → Type}

abbrev Program (Q : Type) (A : Q → Type) := ExceptT Fault (Dialogue Q A)

@[simp] theorem liftM_ok (a : α) :
    (liftM (Except.ok a : Guarded α) : Program Q A α) = pure a := rfl

/-- Answer every question under guard. -/
def answering (answer : (q : Q) → σ → Guarded (A q × σ)) : Dialogue Q A α → σ → Guarded (α × σ)
  | .done a, s => .ok (a, s)
  | .ask q next, s => do
    let (x, s) ← answer q s
    answering answer (next x) s

def run (answer : (q : Q) → σ → Guarded (A q × σ)) (p : Program Q A α) (s : σ) :
    Guarded (α × σ) := do
  let (result, s) ← answering answer p.run s
  let a ← result
  return (a, s)

theorem answering_eq {guarded : (q : Q) → σ → Guarded (A q × σ)}
    {answer : (q : Q) → σ → A q × σ} (sound : ∀ q s, guarded q s = .ok (answer q s))
    (d : Dialogue Q A α) (s : σ) : answering guarded d s = .ok (d.run answer s) := by
  induction d generalizing s with
  | done a => rfl
  | ask q next ih =>
    rw [answering, sound q s]
    exact ih _ _

theorem run_liftM {guarded : (q : Q) → σ → Guarded (A q × σ)}
    {answer : (q : Q) → σ → A q × σ} (sound : ∀ q s, guarded q s = .ok (answer q s))
    (d : Dialogue Q A α) (s : σ) :
    run guarded (liftM d : Program Q A α) s = .ok (d.run answer s) := by
  have lifted : (liftM d : Program Q A α).run = d >>= fun a => pure (.ok a) :=
    (bind_pure_comp Except.ok d).symm
  rw [run, lifted, answering_eq sound, Dialogue.run_bind]
  rfl

end Dialogue

end Guarded
end Genesis
