/-!
# Banks of cells

Every memory and register file is a bank: a fixed number of cells, indexed so that no access can
miss. `get_put` is the only fact about a bank that its users need.
-/

namespace Genesis

/-- A memory of `n` cells. -/
@[ext] structure Bank (α : Type) (n : Nat) where
  cells : Vector α n
deriving DecidableEq

namespace Bank

variable {α : Type} {n : Nat}

def fill (n : Nat) (x : α) : Bank α n := ⟨Vector.replicate n x⟩

def get (b : Bank α n) (i : Fin n) : α := b.cells[i.1]

def put (b : Bank α n) (i : Fin n) (x : α) : Bank α n := ⟨b.cells.set i.1 x i.2⟩

/-- Cell `i`, if there is one. -/
def get? (b : Bank α n) (i : Nat) : Option α := if h : i < n then some (b.get ⟨i, h⟩) else none

def put? (b : Bank α n) (i : Nat) (x : α) : Bank α n := if h : i < n then b.put ⟨i, h⟩ x else b

@[simp] theorem get_fill (x : α) (i : Fin n) : (fill n x).get i = x := by
  simp [get, fill]

theorem get_put (b : Bank α n) (i j : Fin n) (x : α) :
    (b.put i x).get j = if i = j then x else b.get j := by
  obtain ⟨i, hi⟩ := i
  obtain ⟨j, hj⟩ := j
  simp only [get, put, Vector.getElem_set, Fin.mk.injEq]

@[simp] theorem get_put_self (b : Bank α n) (i : Fin n) (x : α) : (b.put i x).get i = x := by
  simp [get_put]

theorem get_put_ne (b : Bank α n) {i j : Fin n} (h : i ≠ j) (x : α) :
    (b.put i x).get j = b.get j := by
  simp [get_put, h]

theorem ext_get {b c : Bank α n} (h : ∀ i, b.get i = c.get i) : b = c := by
  apply Bank.ext
  apply Vector.ext
  intro i hi
  simpa [get] using h ⟨i, hi⟩

@[simp] theorem put_put (b : Bank α n) (i : Fin n) (x y : α) :
    (b.put i x).put i y = b.put i y := by
  apply ext_get
  intro j
  simp only [get_put]
  split <;> rfl

@[simp] theorem put_get (b : Bank α n) (i : Fin n) : b.put i (b.get i) = b := by
  apply ext_get
  intro j
  rw [get_put]
  split
  · rename_i h
    rw [h]
  · rfl

theorem put_inj (b : Bank α n) (i : Fin n) {x y : α} : b.put i x = b.put i y ↔ x = y := by
  constructor
  · intro h
    simpa using congrArg (fun b => b.get i) h
  · rintro rfl
    rfl

end Bank

/-- Sixty-four kilobytes, one byte for each sixteen-bit address. -/
abbrev Ram := Bank UInt8 UInt16.size

namespace Ram

def zero : Ram := Bank.fill UInt16.size 0

def read (r : Ram) (address : UInt16) : UInt8 := r.get address.toFin

def write (r : Ram) (address : UInt16) (value : UInt8) : Ram := r.put address.toFin value

@[simp] theorem read_zero (address : UInt16) : zero.read address = 0 := by
  simp [zero, read]

theorem read_write (r : Ram) (a b : UInt16) (x : UInt8) :
    (r.write a x).read b = if a = b then x else r.read b := by
  simp only [read, write, Bank.get_put, UInt16.toFin_inj]

theorem ext_read {r s : Ram} (h : ∀ address, r.read address = s.read address) : r = s := by
  apply Bank.ext_get
  intro i
  exact h ⟨⟨i⟩⟩

end Ram
end Genesis
