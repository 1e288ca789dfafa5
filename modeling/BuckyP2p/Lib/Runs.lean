import Mathlib.Data.List.Basic
import Mathlib.Logic.Function.Basic

/-!
# BuckyP2p.Lib.Runs — runs of a machine whose nondeterminism is its input

A machine is a total function `step : σ → ι → σ`; everything that is not determined by the code
(which task runs next, what arrives, what the clock reads) is in the input `ι`.  A run is a list
of inputs, `exec step s is` the state it ends in.

* `Along step C s is`: every input of the run meets `C` in the state it is taken in.  `C` may be a
  hypothesis on the environment or a property of the single steps.
* `exec_inv` (run rule): what every step that meets `C` preserves holds at the end of every run
  along which `C` holds.
* `along_of_inv`: with the same invariant, a property of single steps holds along the whole run.
* `exec_break`: what is lost in a run is lost in one of its steps.
* `along_iff`: where a step that does not meet `C` is seen in the state after it, `C` holds along a
  run exactly when nothing is seen in any state of the run.
* `along_congr`: two properties of single steps that agree under an invariant hold along the same
  runs.
* `Absorbs step R s is`: once `R` holds it holds to the end of the run; `absorbs_iff` says it of the
  single steps.
-/

namespace Lib

variable {σ ι : Type*} (step : σ → ι → σ)

/-- The state after the inputs `is`, taken in order. -/
def exec (s : σ) (is : List ι) : σ := is.foldl step s

@[simp] theorem exec_nil (s : σ) : exec step s [] = s := rfl

@[simp] theorem exec_cons (s : σ) (i : ι) (is : List ι) :
    exec step s (i :: is) = exec step (step s i) is := rfl

theorem exec_append (s : σ) (is js : List ι) :
    exec step s (is ++ js) = exec step (exec step s is) js := by
  simp [exec, List.foldl_append]

/-- Every input of the run meets `C` in the state it is taken in. -/
def Along (C : σ → ι → Prop) : σ → List ι → Prop
  | _, [] => True
  | s, i :: is => C s i ∧ Along C (step s i) is

variable {step}

instance decidableAlong {C : σ → ι → Prop} [∀ s i, Decidable (C s i)] :
    (s : σ) → (is : List ι) → Decidable (Along step C s is)
  | _, [] => isTrue trivial
  | s, i :: is =>
    have : Decidable (Along step C (step s i) is) := decidableAlong (step s i) is
    inferInstanceAs (Decidable (C s i ∧ Along step C (step s i) is))

@[simp] theorem along_nil {C : σ → ι → Prop} {s : σ} : Along step C s [] := trivial

@[simp] theorem along_cons {C : σ → ι → Prop} {s : σ} {i : ι} {is : List ι} :
    Along step C s (i :: is) ↔ C s i ∧ Along step C (step s i) is := Iff.rfl

theorem along_append {C : σ → ι → Prop} {s : σ} {is js : List ι} :
    Along step C s (is ++ js) ↔ Along step C s is ∧ Along step C (exec step s is) js := by
  induction is generalizing s with
  | nil => simp
  | cons i is ih => simp [ih, and_assoc]

theorem along_true (s : σ) (is : List ι) : Along step (fun _ _ => True) s is := by
  induction is generalizing s with
  | nil => trivial
  | cons i is ih => exact ⟨trivial, ih _⟩

theorem along_of_forall {C : ι → Prop} (s : σ) {is : List ι} (h : ∀ i ∈ is, C i) :
    Along step (fun _ i => C i) s is := by
  induction is generalizing s with
  | nil => trivial
  | cons i is ih =>
    exact ⟨h i List.mem_cons_self, ih _ fun j hj => h j (List.mem_cons_of_mem _ hj)⟩

theorem Along.mono {C D : σ → ι → Prop} (h : ∀ s i, C s i → D s i) {s : σ} {is : List ι}
    (hC : Along step C s is) : Along step D s is := by
  induction is generalizing s with
  | nil => trivial
  | cons i is ih => exact ⟨h s i hC.1, ih hC.2⟩

/-- **Run rule.**  What every step that meets `C` preserves holds after every run along which `C`
holds. -/
theorem exec_inv {C : σ → ι → Prop} {I : σ → Prop} (hstep : ∀ s i, I s → C s i → I (step s i))
    {s : σ} {is : List ι} (hI : I s) (hC : Along step C s is) : I (exec step s is) := by
  induction is generalizing s with
  | nil => exact hI
  | cons i is ih => exact ih (hstep s i hI hC.1) hC.2

/-- The run rule without a hypothesis on the inputs. -/
theorem exec_inv_all {I : σ → Prop} (hstep : ∀ s i, I s → I (step s i)) {s : σ} (hI : I s)
    (is : List ι) : I (exec step s is) :=
  exec_inv (C := fun _ _ => True) (fun s i h _ => hstep s i h) hI (along_true s is)

/-- A property of single steps, proved under an invariant, holds along the run. -/
theorem along_of_inv {C P : σ → ι → Prop} {I : σ → Prop}
    (hstep : ∀ s i, I s → C s i → I (step s i)) (hP : ∀ s i, I s → C s i → P s i)
    {s : σ} {is : List ι} (hI : I s) (hC : Along step C s is) : Along step P s is := by
  induction is generalizing s with
  | nil => trivial
  | cons i is ih => exact ⟨hP s i hI hC.1, ih (hstep s i hI hC.1) hC.2⟩

/-- `I` is kept by the steps that meet `C`; a step that does not meet it leads out of `P`. -/
theorem along_iff {C : σ → ι → Prop} {I P : σ → Prop}
    (hstep : ∀ s i, I s → C s i → I (step s i)) (hP : ∀ s, I s → P s)
    (hlost : ∀ s i, I s → ¬ C s i → ¬ P (step s i)) {s : σ} (hI : I s) (is : List ι) :
    Along step C s is ↔ ∀ pre, pre <+: is → P (exec step s pre) := by
  induction is generalizing s with
  | nil =>
    refine ⟨fun _ pre hpre => ?_, fun _ => trivial⟩
    rw [List.prefix_nil.mp hpre]
    exact hP s hI
  | cons i is ih =>
    constructor
    · rintro ⟨hi, his⟩ pre hpre
      rcases List.prefix_cons_iff.mp hpre with rfl | ⟨rest, rfl, hrest⟩
      · exact hP s hI
      · exact (ih (hstep s i hI hi)).mp his rest hrest
    · intro hall
      have hi : C s i := by
        by_contra hno
        exact hlost s i hI hno (hall [i] (List.prefix_cons_iff.mpr (.inr ⟨[], rfl, List.nil_prefix⟩)))
      refine ⟨hi, (ih (hstep s i hI hi)).mpr fun pre hpre => ?_⟩
      exact hall (i :: pre) (List.prefix_cons_iff.mpr (.inr ⟨pre, rfl, hpre⟩))

/-- Two properties of single steps are the same where `I` holds, and `I` is kept by the steps that
have them. -/
theorem along_congr {C P : σ → ι → Prop} {I : σ → Prop}
    (hstep : ∀ s i, I s → C s i → I (step s i)) (hiff : ∀ s i, I s → (C s i ↔ P s i)) {s : σ}
    (hI : I s) (is : List ι) : Along step C s is ↔ Along step P s is := by
  induction is generalizing s with
  | nil => exact Iff.rfl
  | cons i is ih =>
    constructor
    · rintro ⟨hi, his⟩
      exact ⟨(hiff s i hI).mp hi, (ih (hstep s i hI hi)).mp his⟩
    · rintro ⟨hi, his⟩
      have hi' := (hiff s i hI).mpr hi
      exact ⟨hi', (ih (hstep s i hI hi')).mpr his⟩

variable (step) in
/-- From the first state where `R` holds it holds in every later one of the run. -/
def Absorbs (R : σ → Prop) (s : σ) (is : List ι) : Prop :=
  ∀ pre mid, pre ++ mid <+: is → R (exec step s pre) → R (exec step s (pre ++ mid))

theorem absorbs_iff {R : σ → Prop} {s : σ} {is : List ι} :
    Absorbs step R s is ↔ Along step (fun s i => R s → R (step s i)) s is := by
  constructor
  · intro h
    induction is generalizing s with
    | nil => trivial
    | cons i is ih =>
      refine ⟨h [] [i] (List.prefix_append [i] is), ih fun pre mid hpre => ?_⟩
      exact h (i :: pre) mid (List.cons_prefix_cons.mpr ⟨rfl, hpre⟩)
  · rintro h pre mid ⟨post, rfl⟩ hR
    rw [exec_append]
    have hmid := (along_append.mp (along_append.mp h).1).2
    exact exec_inv (fun _ _ hs hi => hi hs) hR hmid

/-- What holds at the start and not at the end is broken by some step. -/
theorem exec_break {I : σ → Prop} {s : σ} {is : List ι} (hI : I s) (hend : ¬ I (exec step s is)) :
    ∃ pre i post, is = pre ++ i :: post ∧ I (exec step s pre) ∧ ¬ I (step (exec step s pre) i) := by
  induction is generalizing s with
  | nil => exact absurd hI hend
  | cons i is ih =>
    by_cases hi : I (step s i)
    · obtain ⟨pre, j, post, rfl, hpre, hj⟩ := ih hi hend
      exact ⟨i :: pre, j, post, rfl, hpre, hj⟩
    · exact ⟨[], i, is, rfl, hI, hi⟩

end Lib
