import Genesis.Dialogue

/-!
# What a dialogue ends with

Facts about a dialogue that do not depend on what it is told: `Ends` bounds the results by induction
on the questions, and a property of the state that every answer keeps is kept by the whole run. Two
ways of answering that agree on related states have the same conversation (`Agree`), and so have two
that give the same answers to all questions that can come up (`Asks`).
-/

namespace Genesis
namespace Dialogue

variable {Q : Type} {A : Q → Type} {α β σ τ : Type}

/-- Every result satisfies `P`, whatever the questions are answered. -/
def Ends (P : α → Prop) : Dialogue Q A α → Prop
  | done a => P a
  | ask _ next => ∀ x, (next x).Ends P

theorem Ends.bind {P : α → Prop} {R : β → Prop} {d : Dialogue Q A α} {f : α → Dialogue Q A β}
    (h : d.Ends P) (next : ∀ a, P a → (f a).Ends R) : (d >>= f).Ends R := by
  induction d with
  | done a => exact next a h
  | ask q more ih => exact fun x => ih x (h x)

theorem Ends.mono {P R : α → Prop} {d : Dialogue Q A α} (h : d.Ends P)
    (weaker : ∀ a, P a → R a) : d.Ends R := by
  induction d with
  | done a => exact weaker a h
  | ask q more ih => exact fun x => ih x (h x)

theorem ends_of_forall {P : α → Prop} (always : ∀ a, P a) (d : Dialogue Q A α) : d.Ends P := by
  induction d with
  | done a => exact always a
  | ask q more ih => exact ih

theorem Ends.run {P : α → Prop} {d : Dialogue Q A α} (h : d.Ends P)
    (answer : (q : Q) → σ → A q × σ) (s : σ) : P (d.run answer s).1 := by
  induction d generalizing s with
  | done a => exact h
  | ask q more ih => exact ih _ (h _) _

theorem run_map (answer : (q : Q) → σ → A q × σ) (f : α → β) (d : Dialogue Q A α) (s : σ) :
    (f <$> d).run answer s = (f (d.run answer s).1, (d.run answer s).2) := by
  rw [map_eq_pure_bind, run_bind]
  rfl

/-- What every answer keeps, a run keeps. -/
theorem run_induction {answer : (q : Q) → σ → A q × σ} {P : σ → Prop}
    (keeps : ∀ q s, P s → P (answer q s).2) (d : Dialogue Q A α) {s : σ} (h : P s) :
    P (d.run answer s).2 := by
  induction d generalizing s with
  | done a => exact h
  | ask q more ih => exact ih _ (keeps q s h)

/-- The questions of a run in order, each with the answer it gets. -/
def transcript (answer : (q : Q) → σ → A q × σ) : Dialogue Q A α → σ → List ((q : Q) × A q)
  | done _, _ => []
  | ask q next, s =>
    let r := answer q s
    ⟨q, r.1⟩ :: transcript answer (next r.1) r.2

@[simp] theorem transcript_done (answer : (q : Q) → σ → A q × σ) (a : α) (s : σ) :
    transcript answer (done a) s = [] := rfl

@[simp] theorem transcript_ask (answer : (q : Q) → σ → A q × σ) (q : Q)
    (next : A q → Dialogue Q A α) (s : σ) :
    transcript answer (ask q next) s =
      ⟨q, (answer q s).1⟩ :: transcript answer (next (answer q s).1) (answer q s).2 := rfl

theorem transcript_bind (answer : (q : Q) → σ → A q × σ) (d : Dialogue Q A α)
    (f : α → Dialogue Q A β) (s : σ) :
    transcript answer (d >>= f) s =
      transcript answer d s ++ transcript answer (f (run answer d s).1) (run answer d s).2 := by
  induction d generalizing s with
  | done a => rfl
  | ask q more ih => exact congrArg (List.cons _) (ih _ _)

/-- Two ways of answering give related states the same answers and keep them related. -/
def Agree (R : σ → τ → Prop) (answer : (q : Q) → σ → A q × σ) (answer' : (q : Q) → τ → A q × τ) :
    Prop :=
  ∀ q s t, R s t → (answer q s).1 = (answer' q t).1 ∧ R (answer q s).2 (answer' q t).2

namespace Agree

variable {R : σ → τ → Prop} {answer : (q : Q) → σ → A q × σ} {answer' : (q : Q) → τ → A q × τ}
  (agree : Agree R answer answer') {s : σ} {t : τ} (start : R s t)

include agree start

theorem run (d : Dialogue Q A α) :
    (d.run answer s).1 = (d.run answer' t).1 ∧ R (d.run answer s).2 (d.run answer' t).2 := by
  induction d generalizing s t with
  | done a => exact ⟨rfl, start⟩
  | ask q more ih =>
    obtain ⟨same, next⟩ := agree q s t start
    rw [run_ask, run_ask, ← same]
    exact ih _ next

theorem transcript_eq (d : Dialogue Q A α) : d.transcript answer s = d.transcript answer' t := by
  induction d generalizing s t with
  | done a => rfl
  | ask q more ih =>
    obtain ⟨same, next⟩ := agree q s t start
    rw [transcript_ask, transcript_ask, ← same, ih _ next]

end Agree

/-- Every question satisfies `P`, whatever those before it are answered. -/
def Asks (P : Q → Prop) : Dialogue Q A α → Prop
  | done _ => True
  | ask q next => P q ∧ ∀ x, (next x).Asks P

namespace Asks

variable {P : Q → Prop} {d : Dialogue Q A α}

theorem bind {f : α → Dialogue Q A β} (h : d.Asks P) (next : ∀ a, (f a).Asks P) :
    (d >>= f).Asks P := by
  induction d with
  | done a => exact next a
  | ask q more ih => exact ⟨h.1, fun x => ih x (h.2 x)⟩

theorem of_mem_transcript (h : d.Asks P) (answer : (q : Q) → σ → A q × σ) (s : σ) :
    ∀ x ∈ d.transcript answer s, P x.1 := by
  induction d generalizing s with
  | done a => simp
  | ask q more ih =>
    rw [transcript_ask, List.forall_mem_cons]
    exact ⟨h.1, ih _ (h.2 _) _⟩

theorem run_congr (h : d.Asks P) {answer answer' : (q : Q) → σ → A q × σ}
    (same : ∀ q s, P q → answer q s = answer' q s) (s : σ) :
    d.run answer s = d.run answer' s ∧ d.transcript answer s = d.transcript answer' s := by
  induction d generalizing s with
  | done a => exact ⟨rfl, rfl⟩
  | ask q more ih =>
    rw [run_ask, run_ask, transcript_ask, transcript_ask, same q s h.1]
    have rest := ih (answer' q s).1 (h.2 _) (answer' q s).2
    exact ⟨rest.1, congrArg (List.cons _) rest.2⟩

end Asks

end Dialogue
end Genesis
