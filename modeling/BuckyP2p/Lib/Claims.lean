import Mathlib.Data.Multiset.AddSub
import Mathlib.Data.Multiset.Count
import Mathlib.Data.Multiset.MapFold

/-!
# BuckyP2p.Lib.Claims — two parties that take a shared resource in rounds

Either party may claim the resource for its next round; the other one accepts or refuses the claim.
When both claim at once a tie-break decides which claim yields.  A party records in `log` what it
took the resource for, and whether by a claim of its own.

A claim is on its way as a request, then as an answer that refuses or grants it; `requests`,
`refused` and `granted` hold those of the claims of one party, wherever they are.

* `Move wins x y x' y'`: a step of the party `x`, with `y` the other one; `wins` is the tie-break as
  `x` decides it, its own claim first.
* `Owes wins x y`: what holds of the claims of `x`.
* `Sound.move`: every step keeps `Sound`, so the logs agree in every round.
-/

namespace Lib.Claims

variable {C K : Type*}

inductive Status (C : Type*)
  | free
  | claiming (c : C)
  | held
  | retired

/-- One party.  `confirming` is the claim whose grant it has received and not yet acted on. -/
@[ext] structure Half (C K : Type*) where
  round : ℕ
  status : Status C
  log : List (K × Bool)
  requests : Multiset C
  refused : Multiset ℕ
  granted : Multiset ℕ
  confirming : Option C

variable (round : K → ℕ) (key : C → K)

/-- The claims for the round `n` that are on their way. -/
def Half.flight (x : Half C K) (n : ℕ) : ℕ :=
  (x.requests.map fun c => round (key c)).count n + x.refused.count n + x.granted.count n

/-- A step of the party `x`. -/
inductive Move (wins : C → C → Prop) (x y : Half C K) : Half C K → Half C K → Prop
  | stay : Move wins x y x y
  | retire : Move wins x y { x with status := .retired } y
  | settle (hs : x.status = .held) : Move wins x y { x with status := .free } y
  | claim {c : C} (hs : x.status = .free) (hc : round (key c) = x.round + 1) :
    Move wins x y { x with status := .claiming c, requests := c ::ₘ x.requests } y
  | drop {c : C} {rest : Multiset C} (h : x.requests = c ::ₘ rest) :
    Move wins x y { x with requests := rest } y
  | reset {c : C} {rest : Multiset C} (h : x.requests = c ::ₘ rest) (hret : x.status ≠ .retired)
    (hown : ∀ c', x.status = .claiming c' → c' = c) :
    Move wins x y { x with status := .free, requests := rest } y
  | refuse {c : C} {rest : Multiset C} (h : y.requests = c ::ₘ rest) :
    Move wins x y x { y with requests := rest, refused := round (key c) ::ₘ y.refused }
  | replay {c : C} {rest : Multiset C} (h : y.requests = c ::ₘ rest)
    (hc : round (key c) ≤ x.round) :
    Move wins x y x { y with requests := rest, granted := round (key c) ::ₘ y.granted }
  | accept {c : C} {rest : Multiset C} (h : y.requests = c ::ₘ rest)
    (hc : round (key c) = x.round + 1) (hret : x.status ≠ .retired)
    (hwin : ∀ c', x.status = .claiming c' → ¬ wins c' c) (hconf : x.confirming = none) :
    Move wins x y { x with round := x.round + 1, status := .held, log := x.log ++ [(key c, false)] }
      { y with requests := rest, granted := round (key c) ::ₘ y.granted }
  | dropRefused {n : ℕ} {rest : Multiset ℕ} (h : x.refused = n ::ₘ rest) :
    Move wins x y { x with refused := rest } y
  | dropGranted {n : ℕ} {rest : Multiset ℕ} {confirming : Option C} (h : x.granted = n ::ₘ rest)
    (hc : ∀ c, confirming = some c → x.confirming = some c ∧ round (key c) ∈ rest) :
    Move wins x y { x with granted := rest, confirming := confirming } y
  | turn {rest : Multiset ℕ} (h : x.refused = (x.round + 1) ::ₘ rest) :
    Move wins x y { x with status := .free, refused := rest } y
  | hear {c : C} (hs : x.status = .claiming c) (hg : round (key c) ∈ x.granted) :
    Move wins x y { x with confirming := some c } y
  | confirm {c : C} {rest : Multiset ℕ} (hconf : x.confirming = some c)
    (h : x.granted = round (key c) ::ₘ rest) :
    Move wins x y
      { x with
        round := x.round + 1
        status := .held
        log := x.log ++ [(key c, true)]
        granted := rest
        confirming := none } y

/-- The other party `y` has already taken the resource for the claim `c` of `x`. -/
structure Leads (wins : C → C → Prop) (x y : Half C K) (c : C) : Prop where
  next : round (key c) = x.round + 1
  status : x.status = .claiming c ∨ x.status = .retired
  log : ∀ g ∈ y.log, round g.1 = y.round → g = (key c, false)
  wins : ∀ q ∈ y.requests, round (key q) = y.round → wins c q
  requests : ∀ q ∈ x.requests, round (key q) ≠ x.round + 1
  refused : x.round + 1 ∉ x.refused
  confirming : ∀ c', x.confirming = some c' → c' = c

/-- What holds of the claims of `x`. -/
structure Owes (wins : C → C → Prop) (x y : Half C K) : Prop where
  claiming : ∀ c, x.status = .claiming c → round (key c) = x.round + 1
  requests : ∀ c ∈ x.requests, round (key c) ≤ x.round + 1
  refused : ∀ n ∈ x.refused, n ≤ x.round + 1
  granted : ∀ n ∈ x.granted, n ≤ y.round
  ahead : y.round ≤ x.round + 1
  log : ∀ g ∈ x.log, round g.1 ≤ x.round
  single : x.flight round key (x.round + 1) ≤ 1
  busy : 0 < x.flight round key (x.round + 1) →
    (∃ c, x.status = .claiming c) ∨ x.status = .retired
  own : ∀ q ∈ x.requests, round (key q) = x.round + 1 → ∀ c, x.status = .claiming c → q = c
  confirming : ∀ c, x.confirming = some c →
    round (key c) = x.round + 1 ∧ x.round + 1 ∈ x.granted
  leads : y.round = x.round + 1 → ∃ c, Leads round key wins x y c

/-- What the two parties took the resource for in one round is the same, by one claim. -/
def Agree (x y : Half C K) : Prop :=
  ∀ g ∈ x.log, ∀ g' ∈ y.log, round g.1 = round g'.1 → g.1 = g'.1 ∧ g.2 = !g'.2

structure Sound (wx wy : C → C → Prop) (x y : Half C K) : Prop where
  left : Owes round key wx x y
  right : Owes round key wy y x
  agree : Agree round x y

variable {round key} {wins : C → C → Prop} {x x' y y' : Half C K}

theorem Owes.flight_eq_zero (h : Owes round key wins x y) (hfree : ∀ c, x.status ≠ .claiming c)
    (hret : x.status ≠ .retired) : x.flight round key (x.round + 1) = 0 := by
  by_contra hpos
  obtain ⟨c, hc⟩ | hr := h.busy (Nat.pos_of_ne_zero hpos)
  · exact hfree c hc
  · exact hret hr

/-- The other party is not ahead of a party without a claim. -/
theorem Owes.not_ahead (h : Owes round key wins x y) (hfree : ∀ c, x.status ≠ .claiming c)
    (hret : x.status ≠ .retired) : y.round ≠ x.round + 1 := by
  intro hround
  obtain ⟨c, hc⟩ := h.leads hround
  rcases hc.status with hs | hs
  · exact hfree c hs
  · exact hret hs

theorem flight_zero_iff {n : ℕ} : x.flight round key n = 0 ↔
    (∀ q ∈ x.requests, round (key q) ≠ n) ∧ n ∉ x.refused ∧ n ∉ x.granted := by
  simp [Half.flight, Multiset.count_eq_zero, Multiset.mem_map, and_assoc]

/-- The other party moves within its round. -/
theorem Owes.peer (h : Owes round key wins x y) (hround : y'.round = y.round)
    (hlog : y'.log = y.log)
    (hreq : ∀ q ∈ y'.requests, q ∈ y.requests ∨ round (key q) ≠ y.round) :
    Owes round key wins x y' := by
  refine { h with granted := ?_, ahead := ?_, leads := ?_ }
  · rw [hround]
    exact h.granted
  · rw [hround]
    exact h.ahead
  · intro hlead
    rw [hround] at hlead
    obtain ⟨c, hc⟩ := h.leads hlead
    refine ⟨c, { hc with log := ?_, wins := ?_ }⟩
    · rw [hlog, hround]
      exact hc.log
    · intro q hq hqr
      rw [hround] at hqr
      rcases hreq q hq with hold | hne
      · exact hc.wins q hold hqr
      · exact absurd hqr hne

/-- Claims that are on their way are answered or lost. -/
theorem Owes.tokens (h : Owes round key wins x y) (hround : x'.round = x.round)
    (hstatus : x'.status = x.status) (hlog : x'.log = x.log)
    (hreq : ∀ q ∈ x'.requests, q ∈ x.requests)
    (hrefused : ∀ n ∈ x'.refused, n ∈ x.refused ∨ ∃ q ∈ x.requests, round (key q) = n)
    (hgranted : ∀ n ∈ x'.granted, n ≤ y.round)
    (hflight : x'.flight round key (x.round + 1) ≤ x.flight round key (x.round + 1))
    (hconf : ∀ c, x'.confirming = some c →
      (x.confirming = some c ∨ x.status = .claiming c) ∧ round (key c) ∈ x'.granted) :
    Owes round key wins x' y where
  claiming := by rw [hround, hstatus]; exact h.claiming
  requests q hq := by rw [hround]; exact h.requests q (hreq q hq)
  refused n hn := by
    rw [hround]
    rcases hrefused n hn with hold | ⟨q, hq, rfl⟩
    · exact h.refused n hold
    · exact h.requests q hq
  granted := hgranted
  ahead := by rw [hround]; exact h.ahead
  log := by rw [hround, hlog]; exact h.log
  single := by rw [hround]; exact hflight.trans h.single
  busy hpos := by
    rw [hround] at hpos
    rw [hstatus]
    exact h.busy (hpos.trans_le hflight)
  own q hq hqr := by
    rw [hround] at hqr
    rw [hstatus]
    exact h.own q (hreq q hq) hqr
  confirming c hc := by
    obtain ⟨hold, hmem⟩ := hconf c hc
    have hcr : round (key c) = x.round + 1 := by
      rcases hold with hold | hold
      · exact (h.confirming c hold).1
      · exact h.claiming c hold
    rw [hround, ← hcr]
    exact ⟨rfl, hmem⟩
  leads hlead := by
    rw [hround] at hlead
    obtain ⟨c, hc⟩ := h.leads hlead
    refine ⟨c, by rw [hround]; exact hc.next, by rw [hstatus]; exact hc.status, hc.log, hc.wins,
      ?_, ?_, ?_⟩
    · rw [hround]
      exact fun q hq => hc.requests q (hreq q hq)
    · rw [hround]
      intro hm
      rcases hrefused _ hm with hold | ⟨q, hq, hqr⟩
      · exact hc.refused hold
      · exact hc.requests q hq hqr
    · intro c' hc'
      rcases (hconf c' hc').1 with hold | hold
      · exact hc.confirming c' hold
      · rcases hc.status with hs | hs
        · rw [hs] at hold
          cases hold
          rfl
        · rw [hs] at hold
          cases hold

/-- A party whose claim has ended is free. -/
theorem Owes.freed (h : Owes round key wins x y) (hround : x'.round = x.round)
    (hstatus : x'.status = .free) (hlog : x'.log = x.log) (hconf : x'.confirming = x.confirming)
    (hgranted : x'.granted = x.granted) (hreq : ∀ q ∈ x'.requests, q ∈ x.requests)
    (hrefused : ∀ n ∈ x'.refused, n ∈ x.refused)
    (hflight : x'.flight round key (x.round + 1) = 0) (hahead : y.round ≠ x.round + 1) :
    Owes round key wins x' y where
  claiming c hc := by rw [hstatus] at hc; cases hc
  requests q hq := by rw [hround]; exact h.requests q (hreq q hq)
  refused n hn := by rw [hround]; exact h.refused n (hrefused n hn)
  granted := by rw [hgranted]; exact h.granted
  ahead := by rw [hround]; exact h.ahead
  log := by rw [hround, hlog]; exact h.log
  single := by rw [hround, hflight]; exact Nat.zero_le 1
  busy hpos := by rw [hround, hflight] at hpos; exact absurd hpos (lt_irrefl 0)
  own q hq hqr c hc := by rw [hstatus] at hc; cases hc
  confirming c hc := by
    rw [hconf] at hc
    rw [hround, hgranted]
    exact h.confirming c hc
  leads hlead := by
    rw [hround] at hlead
    exact absurd hlead hahead

/-- A party takes the resource. -/
theorem Owes.advance (h : Owes round key wins x y) (hround : x'.round = x.round + 1)
    (hstatus : x'.status = .held) (hconf : x'.confirming = none)
    (hlog : ∀ g ∈ x'.log, g ∈ x.log ∨ round g.1 = x.round + 1)
    (hreq : ∀ q ∈ x'.requests, q ∈ x.requests) (hrefused : ∀ n ∈ x'.refused, n ∈ x.refused)
    (hgranted : ∀ n ∈ x'.granted, n ∈ x.granted) : Owes round key wins x' y := by
  have hnone : x'.flight round key (x'.round + 1) = 0 := by
    rw [flight_zero_iff, hround]
    refine ⟨fun q hq heq => ?_, fun hm => ?_, fun hm => ?_⟩
    · have := h.requests q (hreq q hq)
      omega
    · have := h.refused _ (hrefused _ hm)
      omega
    · have := h.granted _ (hgranted _ hm)
      have := h.ahead
      omega
  have hahead := h.ahead
  refine ⟨?_, ?_, ?_, ?_, by omega, ?_, by omega, by omega, ?_, ?_, by omega⟩
  · intro c hc
    rw [hstatus] at hc
    cases hc
  · intro q hq
    have := h.requests q (hreq q hq)
    omega
  · intro n hn
    have := h.refused n (hrefused n hn)
    omega
  · exact fun n hn => h.granted n (hgranted n hn)
  · intro g hg
    rcases hlog g hg with hold | hnew
    · have := h.log g hold
      omega
    · omega
  · intro q hq hqr c hc
    rw [hstatus] at hc
    cases hc
  · intro c hc
    rw [hconf] at hc
    cases hc

theorem Owes.retired (h : Owes round key wins x y) :
    Owes round key wins { x with status := .retired } y := by
  refine { h with claiming := ?_, busy := fun _ => .inr rfl, own := ?_, leads := ?_ }
  · rintro c ⟨⟩
  · rintro q hq hqr c ⟨⟩
  · intro hlead
    obtain ⟨c, hc⟩ := h.leads hlead
    exact ⟨c, { hc with status := .inr rfl }⟩

theorem Owes.claims (h : Owes round key wins x y) (hs : x.status = .free) {c : C}
    (hc : round (key c) = x.round + 1) :
    Owes round key wins { x with status := .claiming c, requests := c ::ₘ x.requests } y := by
  have hfree : ∀ c', x.status ≠ .claiming c' := by simp [hs]
  have hret : x.status ≠ .retired := by simp [hs]
  have hzero := h.flight_eq_zero hfree hret
  have hone : Half.flight round key
      { x with status := .claiming c, requests := c ::ₘ x.requests } (x.round + 1) = 1 := by
    have heq : Half.flight round key
        { x with status := .claiming c, requests := c ::ₘ x.requests } (x.round + 1) =
          x.flight round key (x.round + 1) + 1 := by
      simp only [Half.flight, Multiset.map_cons, hc, Multiset.count_cons_self]
      omega
    rw [heq, hzero]
  refine { h with
    claiming := ?_
    requests := ?_
    single := hone.le
    busy := fun _ => .inl ⟨c, rfl⟩
    own := ?_
    leads := fun hlead => absurd hlead (h.not_ahead hfree hret) }
  · rintro c' ⟨⟩
    exact hc
  · intro q hq
    rcases Multiset.mem_cons.mp hq with rfl | hold
    · exact hc.le
    · exact h.requests q hold
  · rintro q hq hqr c' ⟨⟩
    rcases Multiset.mem_cons.mp hq with rfl | hold
    · rfl
    · exact absurd hqr ((flight_zero_iff.mp hzero).1 q hold)

/-- A request that is taken out was the only claim for its round. -/
theorem Owes.flight_rest (h : Owes round key wins x y) {c : C} {rest : Multiset C}
    (hreq : x.requests = c ::ₘ rest) (hc : round (key c) = x.round + 1) :
    (∀ q ∈ rest, round (key q) ≠ x.round + 1) ∧ x.round + 1 ∉ x.refused ∧
      x.round + 1 ∉ x.granted := by
  have hzero : Half.flight round key { x with requests := rest } (x.round + 1) = 0 := by
    have hsingle := h.single
    simp only [Half.flight, hreq, Multiset.map_cons, hc, Multiset.count_cons_self] at hsingle ⊢
    omega
  exact flight_zero_iff.mp hzero

/-- The other party takes the resource for the claim `c`. -/
theorem Owes.accepted {wy : C → C → Prop} (h : Owes round key wins x y) (hy : Owes round key wy y x)
    (htotal : ∀ c q, ¬ wy q c → wins c q) {c : C} {rest : Multiset C}
    (hreq : x.requests = c ::ₘ rest) (hc : round (key c) = y.round + 1)
    (hret : y.status ≠ .retired) (hwin : ∀ c', y.status = .claiming c' → ¬ wy c' c) :
    x.round = y.round ∧
      Owes round key wins { x with requests := rest, granted := round (key c) ::ₘ x.granted }
        { y with round := y.round + 1, status := .held, log := y.log ++ [(key c, false)] } := by
  have hmem : c ∈ x.requests := by simp [hreq]
  have hround : x.round = y.round := by
    have hle := h.requests c hmem
    have hahead := hy.ahead
    by_contra hne
    -- the claim would be the one that `y` has to win against
    have hlead : x.round = y.round + 1 := by omega
    obtain ⟨c', hc'⟩ := hy.leads hlead
    rcases hc'.status with hs | hs
    · exact hwin c' hs (hc'.wins c hmem (hc.trans hlead.symm))
    · exact hret hs
  have hcx : round (key c) = x.round + 1 := by omega
  obtain ⟨hrest, hrefused, hgranted⟩ := h.flight_rest hreq hcx
  have hflight : Half.flight round key
      { x with requests := rest, granted := round (key c) ::ₘ x.granted } (x.round + 1) =
        x.flight round key (x.round + 1) := by
    simp only [Half.flight, hreq, hcx, Multiset.map_cons, Multiset.count_cons_self]
    omega
  have hbusy := h.busy (by
    simp only [Half.flight, hreq, hcx, Multiset.map_cons, Multiset.count_cons_self]
    omega)
  have hstatus : x.status = .claiming c ∨ x.status = .retired := by
    rcases hbusy with ⟨c', hs⟩ | hs
    · rw [h.own c hmem hcx c' hs]
      exact .inl hs
    · exact .inr hs
  have hahead := h.ahead
  refine ⟨hround, ⟨h.claiming, ?_, h.refused, ?_, ?_, h.log, ?_, ?_, ?_, ?_, ?_⟩⟩
  · exact fun q hq => h.requests q (by simp [hreq, hq])
  · intro n hn
    rcases Multiset.mem_cons.mp hn with rfl | hold
    · exact hc.le
    · exact (h.granted n hold).trans (Nat.le_succ _)
  · show y.round + 1 ≤ x.round + 1
    omega
  · exact hflight.le.trans h.single
  · intro _
    rcases hstatus with hs | hs
    · exact .inl ⟨c, hs⟩
    · exact .inr hs
  · exact fun q hq => h.own q (by simp [hreq, hq])
  · intro c' hc'
    exact absurd (h.confirming c' hc').2 hgranted
  · intro _
    refine ⟨c, hcx, hstatus, ?_, ?_, hrest, hrefused, ?_⟩
    · intro g hg hgr
      rcases List.mem_append.mp hg with hold | hnew
      · have hle := hy.log g hold
        have hgr' : round g.1 = y.round + 1 := hgr
        omega
      · exact List.mem_singleton.mp hnew
    · intro q hq hqr
      have hqr' : round (key q) = y.round + 1 := hqr
      have hpos : 0 < y.flight round key (y.round + 1) := by
        by_contra hzero
        exact (flight_zero_iff.mp (Nat.eq_zero_of_not_pos hzero)).1 q hq hqr'
      rcases hy.busy hpos with ⟨c', hs⟩ | hs
      · rw [hy.own q hq hqr' c' hs]
        exact htotal c c' (hwin c' hs)
      · exact absurd hs hret
    · intro c' hc'
      exact absurd (h.confirming c' hc').2 hgranted

/-- The other party takes the resource for a claim of its own that was granted. -/
theorem Owes.confirmed (h : Owes round key wins x y) (hround : y'.round = y.round + 1)
    (hahead : x.round = y.round + 1) : Owes round key wins x y' := by
  refine { h with granted := ?_, ahead := by omega, leads := by omega }
  intro n hn
  have := h.granted n hn
  omega

section Moves

variable {wx wy : C → C → Prop}

theorem Agree.symm (h : Agree round x y) : Agree round y x := by
  intro g hg g' hg' hr
  obtain ⟨hkey, hmine⟩ := h g' hg' g hg hr.symm
  exact ⟨hkey.symm, by rw [hmine]; simp⟩

theorem Sound.symm (h : Sound round key wx wy x y) : Sound round key wy wx y x :=
  ⟨h.right, h.left, h.agree.symm⟩

/-- The log grows by an entry of the next round. -/
theorem Agree.grow (h : Agree round x y) {g : K × Bool} (hlog : x'.log = x.log ++ [g])
    (hlog' : y'.log = y.log)
    (hnew : ∀ g' ∈ y.log, round g.1 = round g'.1 → g.1 = g'.1 ∧ g.2 = !g'.2) :
    Agree round x' y' := by
  intro f hf g' hg' hr
  rw [hlog'] at hg'
  rw [hlog] at hf
  rcases List.mem_append.mp hf with hold | hmem
  · exact h f hold g' hg' hr
  · rw [List.mem_singleton.mp hmem] at hr ⊢
    exact hnew g' hg' hr

theorem Sound.accept (h : Sound round key wx wy x y) (htotal : ∀ c q, ¬ wx q c → wy c q) {c : C}
    {rest : Multiset C} (hreq : y.requests = c ::ₘ rest) (hc : round (key c) = x.round + 1)
    (hret : x.status ≠ .retired) (hwin : ∀ c', x.status = .claiming c' → ¬ wx c' c)
    (hconf : x.confirming = none) :
    Sound round key wx wy
      { x with round := x.round + 1, status := .held, log := x.log ++ [(key c, false)] }
      { y with requests := rest, granted := round (key c) ::ₘ y.granted } := by
  obtain ⟨hround, hright⟩ := h.right.accepted h.left htotal hreq hc hret hwin
  refine ⟨?_, hright, ?_⟩
  · have hleft : Owes round key wx
        { x with round := x.round + 1, status := .held, log := x.log ++ [(key c, false)] } y := by
      refine h.left.advance rfl rfl hconf ?_ (fun _ => id) (fun _ => id) (fun _ => id)
      intro g hg
      rcases List.mem_append.mp hg with hold | hnew
      · exact .inl hold
      · rw [List.mem_singleton.mp hnew]
        exact .inr hc
    exact hleft.peer rfl rfl fun q hq => .inl (by simp [hreq, hq])
  · refine h.agree.grow rfl rfl ?_
    intro g' hg' hr
    have hle := h.right.log g' hg'
    have hr' : round (key c) = round g'.1 := hr
    omega

theorem Sound.confirm (h : Sound round key wx wy x y) {c : C} {rest : Multiset ℕ}
    (hconf : x.confirming = some c) (hgranted : x.granted = round (key c) ::ₘ rest) :
    Sound round key wx wy
      { x with
        round := x.round + 1
        status := .held
        log := x.log ++ [(key c, true)]
        granted := rest
        confirming := none } y := by
  obtain ⟨hcr, hmem⟩ := h.left.confirming c hconf
  have hround : y.round = x.round + 1 := le_antisymm h.left.ahead (h.left.granted _ hmem)
  refine ⟨?_, h.right.confirmed rfl hround, ?_⟩
  · refine h.left.advance rfl rfl rfl ?_ (fun _ => id) (fun _ => id) ?_
    · intro g hg
      rcases List.mem_append.mp hg with hold | hnew
      · exact .inl hold
      · rw [List.mem_singleton.mp hnew]
        exact .inr hcr
    · intro n hn
      rw [hgranted]
      exact Multiset.mem_cons_of_mem hn
  · obtain ⟨c', hc'⟩ := h.left.leads hround
    have heq : c = c' := hc'.confirming c hconf
    refine h.agree.grow rfl rfl ?_
    intro g' hg' hr
    have hr' : round (key c) = round g'.1 := hr
    have hg : g' = (key c', false) := hc'.log g' hg' (by omega)
    rw [hg, heq]
    exact ⟨rfl, rfl⟩

/-- The steps that leave the rounds and the logs as they are. -/
theorem Sound.quiet (h : Sound round key wx wy x y) (hleft : Owes round key wx x' y)
    (hround : x'.round = x.round) (hlog : x'.log = x.log)
    (hreq : ∀ q ∈ x'.requests, q ∈ x.requests ∨ round (key q) ≠ x.round) :
    Sound round key wx wy x' y := by
  refine ⟨hleft, h.right.peer hround hlog hreq, ?_⟩
  unfold Agree
  rw [hlog]
  exact h.agree

theorem mem_of_rest {A : Type*} {s rest : Multiset A} {a : A} (h : s = a ::ₘ rest) :
    ∀ b ∈ rest, b ∈ s := by
  intro b hb
  rw [h]
  exact Multiset.mem_cons_of_mem hb

/-- A claim that is being confirmed stays so while its grant is there. -/
theorem Owes.still_confirming (h : Owes round key wx x y) {c : C} (hc : x.confirming = some c) :
    (x.confirming = some c ∨ x.status = .claiming c) ∧ round (key c) ∈ x.granted := by
  obtain ⟨hcr, hg⟩ := h.confirming c hc
  exact ⟨.inl hc, hcr ▸ hg⟩

/-- A request is lost. -/
theorem Sound.drop (h : Sound round key wx wy x y) {c : C} {rest : Multiset C}
    (hreq : x.requests = c ::ₘ rest) : Sound round key wx wy { x with requests := rest } y := by
  have hsub := mem_of_rest hreq
  refine h.quiet (h.left.tokens rfl rfl rfl hsub (fun _ => .inl) h.left.granted ?_
    fun c hc => h.left.still_confirming hc) rfl rfl fun q hq => .inl (hsub q hq)
  simp only [Half.flight, hreq, Multiset.map_cons, Multiset.count_cons]
  omega

/-- A request is lost, and its claim given up. -/
theorem Sound.reset (h : Sound round key wx wy x y) {c : C} {rest : Multiset C}
    (hreq : x.requests = c ::ₘ rest) (hret : x.status ≠ .retired)
    (hown : ∀ c', x.status = .claiming c' → c' = c) :
    Sound round key wx wy { x with status := .free, requests := rest } y := by
  have hsub := mem_of_rest hreq
  have hmem : c ∈ x.requests := by simp [hreq]
  -- either the claim is the one of the request, or there is none for the next round
  have hend : (∀ q ∈ rest, round (key q) ≠ x.round + 1) ∧ x.round + 1 ∉ x.refused ∧
      x.round + 1 ∉ x.granted := by
    by_cases hcr : round (key c) = x.round + 1
    · exact h.left.flight_rest hreq hcr
    · have hfree : ∀ c', x.status ≠ .claiming c' := by
        intro c' hs
        have heq := hown c' hs
        rw [heq] at hs
        exact hcr (h.left.claiming c hs)
      obtain ⟨hq, hrest⟩ := flight_zero_iff.mp (h.left.flight_eq_zero hfree hret)
      exact ⟨fun q hm => hq q (hsub q hm), hrest⟩
  have hahead : y.round ≠ x.round + 1 := by
    intro hround
    obtain ⟨c', hc'⟩ := h.left.leads hround
    rcases hc'.status with hs | hs
    · have heq := hown c' hs
      rw [heq] at hc'
      exact hc'.requests c hmem hc'.next
    · exact hret hs
  exact h.quiet (h.left.freed rfl rfl rfl rfl rfl hsub (fun _ => id) (flight_zero_iff.mpr hend)
    hahead) rfl rfl fun q hq => .inl (hsub q hq)

/-- A request is refused. -/
theorem Sound.refuse (h : Sound round key wx wy x y) {c : C} {rest : Multiset C}
    (hreq : y.requests = c ::ₘ rest) :
    Sound round key wx wy x
      { y with requests := rest, refused := round (key c) ::ₘ y.refused } := by
  have hsub := mem_of_rest hreq
  apply Sound.symm
  refine h.symm.quiet (h.right.tokens rfl rfl rfl hsub ?_ h.right.granted ?_
    fun c' hc' => h.right.still_confirming hc') rfl rfl fun q hq => .inl (hsub q hq)
  · intro n hn
    rcases Multiset.mem_cons.mp hn with rfl | hold
    · exact .inr ⟨c, by simp [hreq], rfl⟩
    · exact .inl hold
  · simp only [Half.flight, hreq, Multiset.map_cons, Multiset.count_cons]
    omega

/-- A request of a round that is over is granted again. -/
theorem Sound.replay (h : Sound round key wx wy x y) {c : C} {rest : Multiset C}
    (hreq : y.requests = c ::ₘ rest) (hc : round (key c) ≤ x.round) :
    Sound round key wx wy x
      { y with requests := rest, granted := round (key c) ::ₘ y.granted } := by
  have hsub := mem_of_rest hreq
  apply Sound.symm
  refine h.symm.quiet (h.right.tokens rfl rfl rfl hsub (fun _ => .inl) ?_ ?_ ?_) rfl rfl
    fun q hq => .inl (hsub q hq)
  · intro n hn
    rcases Multiset.mem_cons.mp hn with rfl | hold
    · exact hc
    · exact h.right.granted n hold
  · simp only [Half.flight, hreq, Multiset.map_cons, Multiset.count_cons]
    omega
  · intro c' hc'
    obtain ⟨hstill, hg⟩ := h.right.still_confirming hc'
    exact ⟨hstill, Multiset.mem_cons_of_mem hg⟩

/-- A refusal is lost. -/
theorem Sound.dropRefused (h : Sound round key wx wy x y) {n : ℕ} {rest : Multiset ℕ}
    (hrefused : x.refused = n ::ₘ rest) : Sound round key wx wy { x with refused := rest } y := by
  have hsub := mem_of_rest hrefused
  refine h.quiet (h.left.tokens rfl rfl rfl (fun _ => id) (fun m hm => .inl (hsub m hm))
    h.left.granted ?_ fun c hc => h.left.still_confirming hc) rfl rfl fun _ => .inl
  simp only [Half.flight, hrefused, Multiset.count_cons]
  omega

/-- The claim of the next round is refused, and given up. -/
theorem Sound.turn (h : Sound round key wx wy x y) {rest : Multiset ℕ}
    (hrefused : x.refused = (x.round + 1) ::ₘ rest) :
    Sound round key wx wy { x with status := .free, refused := rest } y := by
  have hsub := mem_of_rest hrefused
  have hzero : Half.flight round key { x with status := .free, refused := rest }
      (x.round + 1) = 0 := by
    have hsingle := h.left.single
    simp only [Half.flight, hrefused, Multiset.count_cons_self] at hsingle ⊢
    omega
  have hahead : y.round ≠ x.round + 1 := by
    intro hround
    obtain ⟨c', hc'⟩ := h.left.leads hround
    exact hc'.refused (by simp [hrefused])
  exact h.quiet (h.left.freed rfl rfl rfl rfl rfl (fun _ => id) hsub hzero hahead) rfl rfl
    fun _ => .inl

/-- **Every step keeps the parties sound**, if for two claims at once one of the parties takes its
own to win. -/
theorem Sound.move (h : Sound round key wx wy x y) (htotal : ∀ c q, ¬ wx q c → wy c q)
    (hm : Move round key wx x y x' y') : Sound round key wx wy x' y' := by
  cases hm with
  | stay => exact h
  | retire => exact h.quiet h.left.retired rfl rfl fun _ => .inl
  | settle hs =>
    have hfree : ∀ c, x.status ≠ .claiming c := by simp [hs]
    have hret : x.status ≠ .retired := by simp [hs]
    exact h.quiet (h.left.freed rfl rfl rfl rfl rfl (fun _ => id) (fun _ => id)
      (h.left.flight_eq_zero hfree hret) (h.left.not_ahead hfree hret)) rfl rfl fun _ => .inl
  | claim hs hc =>
    refine h.quiet (h.left.claims hs hc) rfl rfl fun q hq => ?_
    rcases Multiset.mem_cons.mp hq with rfl | hold
    · exact .inr (by omega)
    · exact .inl hold
  | drop hreq => exact h.drop hreq
  | reset hreq hret hown => exact h.reset hreq hret hown
  | refuse hreq => exact h.refuse hreq
  | replay hreq hc => exact h.replay hreq hc
  | accept hreq hc hret hwin hconf => exact h.accept htotal hreq hc hret hwin hconf
  | dropRefused hrefused => exact h.dropRefused hrefused
  | dropGranted hgranted hconf =>
    refine h.quiet (h.left.tokens rfl rfl rfl (fun _ => id) (fun _ => .inl)
      (fun m hm => h.left.granted m (mem_of_rest hgranted m hm)) ?_
      fun c hc => ⟨.inl (hconf c hc).1, (hconf c hc).2⟩) rfl rfl fun _ => .inl
    simp only [Half.flight, hgranted, Multiset.count_cons]
    omega
  | turn hrefused => exact h.turn hrefused
  | hear hs hg =>
    refine h.quiet (h.left.tokens rfl rfl rfl (fun _ => id) (fun _ => .inl) h.left.granted le_rfl
      ?_) rfl rfl fun _ => .inl
    rintro c' ⟨⟩
    exact ⟨.inr hs, hg⟩
  | confirm hconf hgranted => exact h.confirm hconf hgranted

end Moves

end Lib.Claims
