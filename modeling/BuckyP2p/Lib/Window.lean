import Mathlib.Data.List.Sort

/-!
# Lib.Window — a rolling window on a log of clock values

`recent w now log` are the entries of a log that are less than `w` old at `now`.  A queue that holds
the recent entries of a sorted log and drops from its front what has become old holds the recent
entries again (`evict_recent`).  Entries that lie less than `w` apart are all recent at the time of
the last of them, so the queue bounds their number (`countP_le_recent`).
-/

namespace Lib

/-- The entries that are less than `w` old. -/
def recent (w now : Nat) (log : List Nat) : List Nat := log.filter fun t => now < t + w

/-- Drop from the front what is `w` old or older. -/
def evict (w now : Nat) (queue : List Nat) : List Nat := queue.dropWhile fun t => w ≤ now - t

variable {w now last : Nat} {log queue : List Nat}

theorem recent_append (log log' : List Nat) :
    recent w now (log ++ log') = recent w now log ++ recent w now log' := List.filter_append ..

theorem recent_recent (h : last ≤ now) : recent w now (recent w last log) = recent w now log := by
  rw [recent, recent, List.filter_filter]
  refine List.filter_congr fun t _ => ?_
  by_cases hnow : now < t + w
  · have hlast : last < t + w := by omega
    simp [hnow, hlast]
  · simp [hnow]

theorem evict_eq_recent (hw : 0 < w) (hsorted : queue.Pairwise (· ≤ ·)) :
    evict w now queue = recent w now queue := by
  induction queue with
  | nil => rfl
  | cons t queue ih =>
    obtain ⟨hle, hrest⟩ := List.pairwise_cons.mp hsorted
    by_cases hold : w ≤ now - t
    · have hnow : ¬ now < t + w := by omega
      rw [evict, List.dropWhile_cons_of_pos (by simpa using hold), ← evict, ih hrest, recent, recent,
        List.filter_cons_of_neg (by simpa using hnow)]
    · rw [evict, List.dropWhile_cons_of_neg (by simpa using hold), recent, List.filter_eq_self.mpr]
      intro u hu
      have htu : t ≤ u := by
        rcases List.mem_cons.mp hu with rfl | hu
        · exact le_rfl
        · exact hle u hu
      simp only [decide_eq_true_eq]
      omega

/-- What is left of the recent entries at an earlier time are the recent entries now. -/
theorem evict_recent (hw : 0 < w) (hsorted : log.Pairwise (· ≤ ·)) (h : last ≤ now) :
    evict w now (recent w last log) = recent w now log := by
  have hqueue : (recent w last log).Pairwise (· ≤ ·) := hsorted.filter _
  rw [evict_eq_recent hw hqueue, recent_recent h]

theorem countP_le_recent {p : Nat → Bool} (h : ∀ t ∈ log, p t = true → now < t + w) :
    log.countP p ≤ (recent w now log).length := by
  rw [recent, ← List.countP_eq_length_filter]
  exact List.countP_mono_left fun t ht hp => by simpa using h t ht hp

end Lib
