import MonitValidation.Engine.Service

/-!
# The skip filter `check_skip`

`check_skip(s, time)` decides whether the driver leaves a service alone in this cycle: it
was already handled by a dependency chain (`s->visited`), or its `every` schedule says so.
Under `EVERY_SKIPCYCLES N` the counter in `s->every` makes the filter pass once every `N`
calls. The run lemma below follows that counter over any interleaving of calls on which the
dependency walker has or has not marked the service visited, and the main theorem reads off
every call of every run: which ones pass, that the counter stays in `[0, N)`, and that the
`MONITOR_WAITING` flag records the decision while every other flag is left alone.
-/

namespace MonitValidation.Scheduler

variable (d : Defs) (incron : String → Int → Bool)

/-- `check_skip(s, time)`: whether validation of `s` is skipped in this cycle, and the
service as the call leaves it. `incron` is `Time_incron`, the cron evaluator. -/
def checkSkip (s : Service) (time : Int) : Bool × Service :=
  if s.visited then (true, s) else
  let wait (s : Service) : Bool × Service :=
    (true, { s with monitor := s.monitor ||| d.MONITOR_WAITING })
  let go (s : Service) : Bool × Service :=
    (false, { s with monitor := s.monitor &&& ~~~d.MONITOR_WAITING })
  match s.every.type with
  | .skipCycles =>
    let s := { s with every := { s.every with counter := s.every.counter + 1 } }
    if s.every.counter < s.every.number then wait s
    else go { s with every := { s.every with counter := 0 } }
  | .cron => if incron s.every.cron time then go s else wait s
  | .notInCron => if incron s.every.cron time then wait s else go s
  | .cycle => go s

/-- A run of `check_skip` calls; before each call the dependency walker has set or cleared
`s->visited`. -/
def skipRun (s : Service) : List (Bool × Int) → Service
  | [] => s
  | (v, t) :: calls => skipRun (checkSkip d incron { s with visited := v } t).2 calls

theorem checkSkip_visited {s : Service} (h : s.visited = true) (t : Int) :
    checkSkip d incron s t = (true, s) := by
  simp [checkSkip, h]

/-- Under `EVERY_SKIPCYCLES`, `check_skip` reads neither the clock nor the cron evaluator. -/
theorem checkSkip_skipCycles_congr (incron' : String → Int → Bool) {s : Service}
    (hType : s.every.type = .skipCycles) (t t' : Int) :
    checkSkip d incron s t = checkSkip d incron' s t' := by
  simp only [checkSkip, hType]

theorem checkSkip_every_type (s : Service) (t : Int) :
    (checkSkip d incron s t).2.every.type = s.every.type := by
  simp only [checkSkip]
  repeat' split
  all_goals rfl

theorem skipRun_every_type (s : Service) (calls : List (Bool × Int)) :
    (skipRun d incron s calls).every.type = s.every.type := by
  induction calls generalizing s with
  | nil => rfl
  | cons c calls ih => exact (ih _).trans (checkSkip_every_type ..)

/-- A run extended by one call is that call on what the run left. -/
theorem skipRun_concat (s : Service) (calls : List (Bool × Int)) (v : Bool) (t : Int) :
    skipRun d incron s (calls ++ [(v, t)]) =
      (checkSkip d incron { skipRun d incron s calls with visited := v } t).2 := by
  induction calls generalizing s with
  | nil => rfl
  | cons c calls ih => exact ih _

/-- Incrementing a counter kept in `[0, n)` and resetting it at `n` is counting modulo `n`. -/
theorem add_one_emod_of_lt {c n : Int} (h0 : 0 ≤ c) (h : c < n) :
    (c + 1) % n = if c + 1 < n then c + 1 else 0 := by
  split
  · exact Int.emod_eq_of_lt (by omega) ‹_›
  · rw [show c + 1 = n by omega, Int.emod_self]

/-- One call that is not a dependency visit under `EVERY_SKIPCYCLES`, from a counter in
`[0, N)`: the counter moves on modulo `N`, the call passes exactly when it wraps round to
zero, and the flag word records the decision. -/
theorem checkSkip_skipCycles {s : Service} (hType : s.every.type = .skipCycles)
    (hv : s.visited = false) (h0 : 0 ≤ s.every.counter) (hN : s.every.counter < s.every.number)
    (t : Int) :
    (checkSkip d incron s t).2.every =
      { s.every with counter := (s.every.counter + 1) % s.every.number } ∧
    ((checkSkip d incron s t).1 = false ↔ (s.every.counter + 1) % s.every.number = 0) ∧
    (checkSkip d incron s t).2.monitor =
      if (checkSkip d incron s t).1 then s.monitor ||| d.MONITOR_WAITING
      else s.monitor &&& ~~~d.MONITOR_WAITING := by
  rw [add_one_emod_of_lt h0 hN]
  simp only [checkSkip, hv, hType, Bool.false_eq_true, ite_false]
  split <;> simp
  omega

/-- Over any run the schedule stays `EVERY_SKIPCYCLES N`, and the counter is the start value
plus the number of calls that were not dependency visits, modulo `N`. -/
theorem skipRun_every {s : Service} (hType : s.every.type = .skipCycles)
    (h0 : 0 ≤ s.every.counter) (hN : s.every.counter < s.every.number)
    (calls : List (Bool × Int)) :
    (skipRun d incron s calls).every =
      { s.every with counter :=
          (s.every.counter + (calls.filter (fun c => !c.1)).length) % s.every.number } := by
  induction calls generalizing s with
  | nil => simp [skipRun, Int.emod_eq_of_lt h0 hN]
  | cons call calls ih =>
    obtain ⟨v, t⟩ := call
    cases v with
    | true => simpa [skipRun, checkSkip_visited] using ih (s := { s with visited := true }) hType h0 hN
    | false =>
      have hpos : 0 < s.every.number := by omega
      obtain ⟨hstep, -⟩ := checkSkip_skipCycles d incron
        (s := { s with visited := false }) hType rfl h0 hN t
      have h := ih (s := (checkSkip d incron { s with visited := false } t).2)
        (by simp [hstep, hType]) (by simp [hstep, Int.emod_nonneg _ (Int.ne_of_gt hpos)])
        (by simp [hstep, Int.emod_lt_of_pos _ hpos])
      simp only [skipRun, List.filter_cons, Bool.not_false, ite_true, List.length_cons, h, hstep,
        Int.emod_add_emod]
      congr 2
      omega

/-- The flag word after one call: `MONITOR_WAITING` set when the call skips, cleared when it
passes, every other bit as before. -/
theorem monitor_bits (m w : BitVec 32) (r : Bool) (j : Nat) :
    (if r then m ||| w else m &&& ~~~w).getLsbD j = if w.getLsbD j then r else m.getLsbD j := by
  cases r <;> cases hw : w.getLsbD j <;> simp [hw]
  exact BitVec.lt_of_getLsbD

/-- Every call of every run of `check_skip` on a service scheduled `EVERY_SKIPCYCLES N`,
from a counter `c` in `[0, N)`: a dependency visit skips and changes neither the counter
nor the flags; the `i`-th other call passes exactly when `(c + i) mod N = 0`; the counter
stays in `[0, N)`; and after a call that is not a visit `MONITOR_WAITING` is set exactly
when the call skipped, every other bit of `s->monitor` unchanged. -/
theorem checkSkip_skipCycles_run (s : Service) (hType : s.every.type = .skipCycles)
    (h0 : 0 ≤ s.every.counter) (hN : s.every.counter < s.every.number)
    (calls : List (Bool × Int)) (v : Bool) (t : Int) :
    let before := skipRun d incron s calls
    let r := checkSkip d incron { before with visited := v } t
    (0 ≤ r.2.every.counter ∧ r.2.every.counter < s.every.number) ∧
    (v = true → r.1 = true ∧ r.2.every.counter = before.every.counter ∧
      r.2.monitor = before.monitor) ∧
    (v = false →
      (r.1 = false ↔
        (s.every.counter + ((calls.filter (fun c => !c.1)).length + 1)) % s.every.number = 0) ∧
      ∀ j, r.2.monitor.getLsbD j =
        if d.MONITOR_WAITING.getLsbD j then r.1 else before.monitor.getLsbD j) := by
  intro before r
  have hpos : 0 < s.every.number := by omega
  have hbefore := skipRun_every d incron hType h0 hN calls
  have hc0 : 0 ≤ before.every.counter := by
    simp [before, hbefore, Int.emod_nonneg _ (Int.ne_of_gt hpos)]
  have hcN : before.every.counter < before.every.number := by
    simp [before, hbefore, Int.emod_lt_of_pos _ hpos]
  have hnum : before.every.number = s.every.number := by simp [before, hbefore]
  cases v with
  | true =>
    have hr : r = (true, { before with visited := true }) := checkSkip_visited d incron rfl t
    simp [hr, hc0, ← hnum, hcN]
  | false =>
    obtain ⟨hevery, hpass, hmon⟩ := checkSkip_skipCycles d incron
      (s := { before with visited := false }) (by simp [before, hbefore, hType]) rfl hc0 hcN t
    have hcount : (s.every.counter + ((calls.filter (fun c => !c.1)).length + 1)) %
        s.every.number = (before.every.counter + 1) % s.every.number := by
      simp only [before, hbefore, Int.emod_add_emod]
      congr 1
      omega
    refine ⟨?_, by simp, fun _ => ⟨?_, fun j => ?_⟩⟩
    · simp only [r, hevery, ← hnum]
      exact ⟨Int.emod_nonneg _ (by omega), Int.emod_lt_of_pos _ (by omega)⟩
    · simpa [hcount, hnum] using hpass
    · simpa [r, hmon] using monitor_bits before.monitor d.MONITOR_WAITING r.1 j

/-- `EVERY_SKIPCYCLES 3` from counter `0`: after one passing-over call and one dependency
visit, the next call is the second one that is not a visit, and it still skips. -/
theorem checkSkip_skipCycles_run_three :
    let s : Service := { (default : Service) with every := ⟨.skipCycles, 0, 3, ""⟩ }
    (s.every.type = .skipCycles ∧ 0 ≤ s.every.counter ∧ s.every.counter < s.every.number) ∧
    ((checkSkip default (fun _ _ => false)
        { skipRun default (fun _ _ => false) s [(false, 0), (true, 0)] with visited := false }
        0).1 = false ↔ (0 + (1 + 1)) % 3 = 0) := by
  intro s
  refine ⟨⟨rfl, by decide, by decide⟩, ?_⟩
  have h := ((checkSkip_skipCycles_run default (fun _ _ => false) s rfl (by decide) (by decide) [(false, 0), (true, 0)]
    false 0).2.2 rfl).1
  simpa using h

end MonitValidation.Scheduler
