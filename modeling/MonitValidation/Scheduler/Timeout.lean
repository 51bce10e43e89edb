import MonitValidation.Engine.Service

/-!
# The restart-rate quench `check_timeout`

A service counts its restarts in `s->nstart` (the control layer increments it) and, once
it has restarted, the cycles since in `s->ncycle`. `check_timeout` posts `Timeout FAILED`
for every rule `(count, cycle, action)` with `nstart ≥ count` and `ncycle ≤ cycle`, and
resets both counters once `ncycle` passes the largest `cycle` of the list.

The counters summarise a history of restart steps and calls. A history is listed most
recent step first, and `restartsSince c h` counts the restarts after the `c`-th most recent
call, so with the `t`-th call about to happen it counts those after call `t - c`. The
invariant `TimeoutInv` says what the counters mean in terms of the history; from it:

* a `Timeout FAILED` for a rule is only posted when at least `count` restarts happened in
  the rule's window, and `ncycle` never exceeds the largest window;
* a burst of `count` restarts in the window is not always caught: restarts before the
  window that started the counters' epoch push it out (`restart_burst_missed`); it is
  caught when no restart happened during the largest window before the rule's window.
-/

namespace MonitValidation.Scheduler

variable (d : Defs)

/-- The loop of `check_timeout` over the action-rate rules from the `i`-th on: it posts
for the rules whose quench condition holds and tracks the largest `cycle` in `max`. -/
def checkTimeoutLoop (nstart ncycle : Nat) : Nat → Nat → List ActionRate → Nat × List Event
  | _, max, [] => (max, [])
  | i, max, ar :: rest =>
    let max := if max < ar.cycle then ar.cycle else max
    let posted :=
      if nstart ≥ ar.count ∧ ncycle ≤ ar.cycle then
        [post .timeout .failed (.rate i) "service restarted %d times within %d cycles(s) - %s"
          [.int nstart, .int ncycle, .str (d.actionnames ar.action.failed)]]
      else []
    let after := checkTimeoutLoop nstart ncycle (i + 1) max rest
    (after.1, posted ++ after.2)

/-- `check_timeout(s)`: the service with its counters updated, and the events posted. -/
def checkTimeout (s : Service) : Service × List Event :=
  if s.actionratelist.isEmpty then (s, []) else
  let s := if s.nstart > 0 then { s with ncycle := s.ncycle + 1 } else s
  let loop := checkTimeoutLoop d s.nstart s.ncycle 0 0 s.actionratelist
  if s.ncycle > loop.1 then ({ s with ncycle := 0, nstart := 0 }, loop.2) else (s, loop.2)

/-- The largest `cycle` of a rule list (`0` for none). -/
def largestCycle (rules : List ActionRate) : Nat :=
  rules.foldr (fun ar m => max ar.cycle m) 0

theorem le_largestCycle {rules : List ActionRate} {ar : ActionRate} (h : ar ∈ rules) :
    ar.cycle ≤ largestCycle rules := by
  induction rules with
  | nil => cases h
  | cons r rules ih =>
    rcases List.mem_cons.mp h with rfl | h
    · exact le_max_left _ _
    · exact (ih h).trans (le_max_right _ _)

/-! ## One call -/

theorem checkTimeoutLoop_fst (nstart ncycle i m : Nat) (rules : List ActionRate) :
    (checkTimeoutLoop d nstart ncycle i m rules).1 = max m (largestCycle rules) := by
  induction rules generalizing i m with
  | nil => simp [checkTimeoutLoop, largestCycle]
  | cons ar rules ih =>
    simp only [checkTimeoutLoop, ih, largestCycle, List.foldr_cons]
    split <;> omega

theorem checkTimeoutLoop_action {nstart ncycle i m : Nat} {rules : List ActionRate} {e : Event}
    (he : e ∈ (checkTimeoutLoop d nstart ncycle i m rules).2) :
    e.kind = .timeout ∧ e.state = .failed ∧ ∃ j, e.action = .rate j ∧ i ≤ j := by
  induction rules generalizing i m with
  | nil => simp [checkTimeoutLoop] at he
  | cons ar rules ih =>
    simp only [checkTimeoutLoop, List.mem_append] at he
    rcases he with he | he
    · split at he <;> simp at he
      exact he ▸ ⟨rfl, rfl, i, rfl, le_rfl⟩
    · obtain ⟨hk, hs, j, hj, hij⟩ := ih he
      exact ⟨hk, hs, j, hj, by omega⟩

/-- The loop posts at most once per rule, under the rule's own action record. -/
theorem checkTimeoutLoop_keys (nstart ncycle i m : Nat) (rules : List ActionRate) :
    ((checkTimeoutLoop d nstart ncycle i m rules).2.map Event.key).Sublist
      ((List.range' i rules.length).map fun j => (.timeout, .rate j)) := by
  induction rules generalizing i m with
  | nil => simp [checkTimeoutLoop]
  | cons ar rules ih =>
    simp only [checkTimeoutLoop, List.map_append, List.length_cons, List.range'_succ, List.map_cons]
    have hposted : (List.map Event.key (if nstart ≥ ar.count ∧ ncycle ≤ ar.cycle then
        [post .timeout .failed (.rate i) "service restarted %d times within %d cycles(s) - %s"
          [.int nstart, .int ncycle, .str (d.actionnames ar.action.failed)]] else [])).Sublist
        [(.timeout, .rate i)] := by
      split <;> simp
    exact hposted.append (ih _ _)

theorem checkTimeout_keys (s : Service) :
    ((checkTimeout d s).2.map Event.key).Sublist
      ((List.range' 0 s.actionratelist.length).map fun j => (.timeout, .rate j)) := by
  unfold checkTimeout
  split
  · simp
  · dsimp only
    split <;> split <;> exact checkTimeoutLoop_keys ..

/-- The loop posts for the `k`-th rule it visits exactly when that rule's condition holds. -/
theorem checkTimeoutLoop_posts (nstart ncycle i m k : Nat) (rules : List ActionRate) :
    (∃ e ∈ (checkTimeoutLoop d nstart ncycle i m rules).2, e.action = .rate (i + k)) ↔
      ∃ ar, rules[k]? = some ar ∧ ar.count ≤ nstart ∧ ncycle ≤ ar.cycle := by
  induction rules generalizing i m k with
  | nil => simp [checkTimeoutLoop]
  | cons ar rules ih =>
    have hlater : ∀ j, j ≤ i → ¬∃ e ∈ (checkTimeoutLoop d nstart ncycle (i + 1)
        (if m < ar.cycle then ar.cycle else m) rules).2, e.action = .rate j := by
      rintro j hj ⟨e, he, hje⟩
      obtain ⟨-, -, j', hj', hij'⟩ := checkTimeoutLoop_action d he
      rw [hje] at hj'
      cases hj'
      omega
    cases k with
    | zero =>
      simp only [checkTimeoutLoop, List.mem_append, or_and_right, exists_or, Nat.add_zero,
        or_iff_left (hlater i le_rfl), List.getElem?_cons_zero, Option.some.injEq,
        exists_eq_left']
      split
      · next h => simpa only [List.mem_singleton, exists_eq_left, post_action, true_iff] using h
      · next h => simpa only [List.not_mem_nil, false_and, exists_false, false_iff] using h
    | succ k =>
      have hne : ∀ e ∈ (if nstart ≥ ar.count ∧ ncycle ≤ ar.cycle then
          [post .timeout .failed (.rate i) "service restarted %d times within %d cycles(s) - %s"
            [.int nstart, .int ncycle, .str (d.actionnames ar.action.failed)]] else []),
          e.action ≠ .rate (i + (k + 1)) := by
        intro e he
        split at he <;> simp at he
        simp [he]
      simp only [checkTimeoutLoop, List.mem_append, or_and_right, exists_or,
        List.getElem?_cons_succ]
      rw [← ih (i + 1), show i + 1 + k = i + (k + 1) by omega]
      exact or_iff_right (fun ⟨e, he, hk⟩ => hne e he hk)

/-- What one call does to the counters, for a non-empty rule list: `ncycle` moves on once
the service has restarted, and both are reset past the largest window. -/
theorem checkTimeout_counters {s : Service} (hne : s.actionratelist ≠ []) :
    let ncycle := s.ncycle + if 0 < s.nstart then 1 else 0
    let reset := decide (largestCycle s.actionratelist < ncycle)
    (checkTimeout d s).1 =
      { s with nstart := if reset then 0 else s.nstart, ncycle := if reset then 0 else ncycle } := by
  have hne' : s.actionratelist.isEmpty = false := by simpa using hne
  by_cases hn : 0 < s.nstart <;>
    by_cases hl : largestCycle s.actionratelist < s.ncycle + if 0 < s.nstart then 1 else 0 <;>
    simp only [hn, if_true, if_false, Nat.add_zero] at hl <;>
    simp only [checkTimeout, hne', hn, hl, Bool.false_eq_true, if_true, if_false, decide_True,
      decide_False, checkTimeoutLoop_fst, Nat.zero_max, gt_iff_lt, Nat.add_zero]

/-- The events of one call are those of the loop, run on the advanced cycle counter. -/
theorem checkTimeout_events (s : Service) :
    (checkTimeout d s).2 =
      (checkTimeoutLoop d s.nstart (s.ncycle + if 0 < s.nstart then 1 else 0) 0 0
        s.actionratelist).2 := by
  unfold checkTimeout
  split
  · next h => simp [List.isEmpty_iff.1 h, checkTimeoutLoop]
  · by_cases hn : 0 < s.nstart <;> simp only [hn, if_true, if_false, gt_iff_lt, Nat.add_zero] <;>
      split <;> rfl

/-- Every event of `check_timeout` is a `Timeout FAILED` under some rule's record. -/
theorem checkTimeout_action {s : Service} {e : Event} (he : e ∈ (checkTimeout d s).2) :
    e.kind = .timeout ∧ e.state = .failed ∧ ∃ j, e.action = .rate j := by
  rw [checkTimeout_events] at he
  obtain ⟨hk, hs, j, hj, -⟩ := checkTimeoutLoop_action d he
  exact ⟨hk, hs, j, hj⟩

theorem checkTimeout_nstart {s : Service} (hne : s.actionratelist ≠ []) :
    (checkTimeout d s).1.nstart =
      if largestCycle s.actionratelist < s.ncycle + (if 0 < s.nstart then 1 else 0) then 0
      else s.nstart := by
  rw [checkTimeout_counters d hne]; simp

theorem checkTimeout_ncycle {s : Service} (hne : s.actionratelist ≠ []) :
    (checkTimeout d s).1.ncycle =
      if largestCycle s.actionratelist < s.ncycle + (if 0 < s.nstart then 1 else 0) then 0
      else s.ncycle + (if 0 < s.nstart then 1 else 0) := by
  rw [checkTimeout_counters d hne]; simp

theorem checkTimeout_actionratelist (s : Service) :
    (checkTimeout d s).1.actionratelist = s.actionratelist := by
  by_cases hne : s.actionratelist = []
  · simp [checkTimeout, hne]
  · rw [checkTimeout_counters d hne]

/-- Which rules one call posts for: those whose count is reached while the (advanced)
cycle counter is within their window. -/
theorem checkTimeout_posts (s : Service) (i : Nat) :
    (∃ e ∈ (checkTimeout d s).2, e.kind = .timeout ∧ e.state = .failed ∧ e.action = .rate i) ↔
      ∃ ar, s.actionratelist[i]? = some ar ∧ ar.count ≤ s.nstart ∧
        s.ncycle + (if 0 < s.nstart then 1 else 0) ≤ ar.cycle := by
  have hposts := checkTimeoutLoop_posts d s.nstart (s.ncycle + if 0 < s.nstart then 1 else 0)
    0 0 i s.actionratelist
  rw [Nat.zero_add] at hposts
  rw [← hposts, ← checkTimeout_events]
  exact ⟨fun ⟨e, he, _, _, hi⟩ => ⟨e, he, hi⟩,
    fun ⟨e, he, hi⟩ => ⟨e, he, (checkTimeout_action d he).1, (checkTimeout_action d he).2.1, hi⟩⟩

/-! ## Runs of restarts and calls -/

/-- A step of the restart-rate model: the control layer restarts the service
(`s->nstart++`), or the driver calls `check_timeout`. -/
inductive RestartStep
  | restart | check
  deriving DecidableEq, Repr

/-- The service after a history of steps, listed most recent first. -/
def timeoutRun (s : Service) : List RestartStep → Service
  | [] => s
  | .restart :: h => { timeoutRun s h with nstart := (timeoutRun s h).nstart + 1 }
  | .check :: h => (checkTimeout d (timeoutRun s h)).1

/-- The restarts of a history (most recent first) that come after its `c`-th most recent
call; all of them when it has fewer calls. -/
def restartsSince : Nat → List RestartStep → Nat
  | 0, _ => 0
  | _ + 1, [] => 0
  | c + 1, .restart :: h => restartsSince (c + 1) h + 1
  | c + 1, .check :: h => restartsSince c h

theorem restartsSince_mono {c c' : Nat} (hc : c ≤ c') (h : List RestartStep) :
    restartsSince c h ≤ restartsSince c' h := by
  induction h generalizing c c' with
  | nil => cases c <;> cases c' <;> simp [restartsSince]
  | cons step h ih =>
    rcases c with _ | c
    · simp [restartsSince]
    rcases c' with _ | c'
    · omega
    cases step <;> simp only [restartsSince]
    · exact Nat.add_le_add_right (ih hc) 1
    · exact ih (by omega)

/-- What the counters mean: `nstart` counts the restarts since the epoch began, which is
after the call `ncycle + 1` calls back; `ncycle` is `0` outside an epoch and never passes
the largest window. -/
structure TimeoutInv (rules : List ActionRate) (h : List RestartStep) (s : Service) :
    Prop where
  rules_eq : s.actionratelist = rules
  nstart_eq : s.nstart = restartsSince (s.ncycle + 1) h
  ncycle_of_nstart : s.nstart = 0 → s.ncycle = 0
  ncycle_le : s.ncycle ≤ largestCycle rules

theorem TimeoutInv.restart {rules : List ActionRate} {h : List RestartStep} {s : Service}
    (hi : TimeoutInv rules h s) :
    TimeoutInv rules (.restart :: h) { s with nstart := s.nstart + 1 } where
  rules_eq := hi.rules_eq
  nstart_eq := by simp [restartsSince, hi.nstart_eq]
  ncycle_of_nstart := by simp
  ncycle_le := hi.ncycle_le

theorem TimeoutInv.check {rules : List ActionRate} (hne : rules ≠ []) {h : List RestartStep}
    {s : Service} (hi : TimeoutInv rules h s) :
    TimeoutInv rules (.check :: h) (checkTimeout d s).1 := by
  have hn := hi.nstart_eq
  have hz := hi.ncycle_of_nstart
  have hle := hi.ncycle_le
  rw [checkTimeout_counters d (hi.rules_eq ▸ hne)]
  rw [hi.rules_eq]
  by_cases hl : largestCycle rules < s.ncycle + if 0 < s.nstart then 1 else 0
  · refine ⟨rfl, ?_, fun _ => ?_, ?_⟩ <;> simp [hl, restartsSince]
  · refine ⟨rfl, ?_, fun h0 => ?_, ?_⟩ <;>
      simp only [decide_eq_false hl, Bool.false_eq_true, if_false] at *
    · by_cases h0 : 0 < s.nstart
      · simpa [h0, restartsSince] using hn
      · simp [h0, hz (by omega), restartsSince]; omega
    · simp [h0, hz h0]
    · omega

variable {d}

/-- From `nstart = ncycle = 0`, the invariant holds after every history. -/
theorem timeoutRun_inv {s : Service} (hne : s.actionratelist ≠ []) (h0 : s.nstart = 0)
    (h1 : s.ncycle = 0) (h : List RestartStep) :
    TimeoutInv s.actionratelist h (timeoutRun d s h) := by
  induction h with
  | nil => exact ⟨rfl, by simp [timeoutRun, h0, h1, restartsSince], fun _ => h1, by simp [timeoutRun, h1]⟩
  | cons step h ih =>
    cases step
    · exact ih.restart
    · exact ih.check d hne

/-- Under the invariant, a `Timeout FAILED` for a rule `(count, cycle, action)` is preceded
by at least `count` restarts after the call `cycle` calls back. -/
theorem TimeoutInv.posts_le {rules : List ActionRate} {h : List RestartStep} {s : Service}
    (hi : TimeoutInv rules h s) {i : Nat} {ar : ActionRate} (har : rules[i]? = some ar)
    (hpost : ∃ e ∈ (checkTimeout d s).2,
      e.kind = .timeout ∧ e.state = .failed ∧ e.action = .rate i) :
    ar.count ≤ restartsSince ar.cycle h := by
  obtain ⟨ar', har', hcount, hwin⟩ := (checkTimeout_posts d s i).mp hpost
  rw [hi.rules_eq, har] at har'
  cases har'
  by_cases hn : 0 < s.nstart
  · simp only [hn, if_true] at hwin
    calc ar.count ≤ s.nstart := hcount
      _ = restartsSince (s.ncycle + 1) h := hi.nstart_eq
      _ ≤ restartsSince ar.cycle h := restartsSince_mono hwin h
  · omega

/-- The restart-rate quench only fires on evidence, and the cycle counter stays within the
largest window: over every history from `nstart = ncycle = 0`, a `Timeout FAILED` for a rule
`(count, cycle, action)` at a call is preceded by at least `count` restarts after the call
`cycle` calls back, and after every step `ncycle` is at most the largest `cycle`. -/
theorem checkTimeout_quench_sound (s : Service) (hne : s.actionratelist ≠ [])
    (h0 : s.nstart = 0) (h1 : s.ncycle = 0) :
    (∀ (h : List RestartStep) (i : Nat) (ar : ActionRate), s.actionratelist[i]? = some ar →
      (∃ e ∈ (checkTimeout d (timeoutRun d s h)).2,
        e.kind = .timeout ∧ e.state = .failed ∧ e.action = .rate i) →
      ar.count ≤ restartsSince ar.cycle h) ∧
    (∀ h : List RestartStep, (timeoutRun d s h).ncycle ≤ largestCycle s.actionratelist) :=
  ⟨fun h _ _ har hpost => (timeoutRun_inv hne h0 h1 h).posts_le har hpost,
    fun h => (timeoutRun_inv hne h0 h1 h).ncycle_le⟩

/-- One rule `(1, 2, alert)` from fresh counters: after a call and a restart the cycle
counter is still within the window. -/
theorem checkTimeout_quench_sound_one_rule :
    let s : Service := { (default : Service) with actionratelist := [⟨1, 2, ⟨.alert⟩⟩] }
    (s.actionratelist ≠ [] ∧ s.nstart = 0 ∧ s.ncycle = 0) ∧
    (timeoutRun default s [.restart, .check]).ncycle ≤ largestCycle s.actionratelist := by
  intro s
  exact ⟨by decide, (checkTimeout_quench_sound s (by decide) rfl rfl).2 _⟩

/-- A burst the quench misses: one rule `(2, 2, alert)`, a restart before the first call,
two calls, then two restarts. The two restarts fall after call `3 - 2 = 1` and before call
3, but the epoch began before call 1, so at call 3 `ncycle = 3` is past the window and
nothing is posted. -/
theorem restart_burst_missed :
    let s : Service := { (default : Service) with actionratelist := [⟨2, 2, ⟨.alert⟩⟩] }
    let h := [RestartStep.restart, .restart, .check, .check, .restart]
    (s.actionratelist ≠ [] ∧ s.nstart = 0 ∧ s.ncycle = 0) ∧
    2 ≤ restartsSince 2 h ∧
    ¬∃ e ∈ (checkTimeout default (timeoutRun default s h)).2,
      e.kind = .timeout ∧ e.state = .failed ∧ e.action = .rate 0 := by
  intro s h
  decide

/-- With no restart during the largest window `M` before a window of length `c ≤ M`, the
counters' epoch began inside the window and has counted every restart in it. -/
theorem timeoutRun_fresh_epoch {s : Service} (hne : s.actionratelist ≠ []) (h0 : s.nstart = 0)
    (h1 : s.ncycle = 0) (h : List RestartStep) {c : Nat} (hc : c ≤ largestCycle s.actionratelist)
    (hquiet : restartsSince (c + largestCycle s.actionratelist + 1) h = restartsSince c h) :
    (timeoutRun d s h).ncycle + (if 0 < (timeoutRun d s h).nstart then 1 else 0) ≤ c ∧
    restartsSince c h ≤ (timeoutRun d s h).nstart := by
  induction h generalizing c with
  | nil => cases c <;> simp [timeoutRun, restartsSince, h0, h1]
  | cons step h ih =>
    have hi := timeoutRun_inv (d := d) hne h0 h1 h
    have hne' : (timeoutRun d s h).actionratelist ≠ [] := hi.rules_eq ▸ hne
    cases step with
    | restart =>
      rcases c with _ | c
      · simp [restartsSince] at hquiet
      · have hq : restartsSince (c + 1 + largestCycle s.actionratelist + 1) h =
            restartsSince (c + 1) h := by
          simpa [restartsSince, Nat.add_right_comm] using hquiet
        obtain ⟨ih1, ih2⟩ := ih hc hq
        have hz := hi.ncycle_of_nstart
        simp only [timeoutRun, restartsSince, Nat.succ_pos, if_true]
        split at ih1 <;> omega
    | check =>
      -- `if 0 < n then 1 else 0` is `min n 1`, which `omega` reads directly
      have hbit : ∀ n : Nat, (if 0 < n then 1 else 0) = min n 1 := fun n => by split <;> omega
      have hn := hi.nstart_eq
      have hz := hi.ncycle_of_nstart
      simp only [timeoutRun, checkTimeout_nstart d hne', checkTimeout_ncycle d hne', hi.rules_eq,
        hbit] at ih ⊢
      rcases c with _ | c
      · -- a window of no call: the counters must be fresh
        have hq : restartsSince (largestCycle s.actionratelist) h = 0 := by
          simpa [restartsSince] using hquiet
        have hmono : largestCycle s.actionratelist < (timeoutRun d s h).ncycle + 1 ∨
            restartsSince ((timeoutRun d s h).ncycle + 1) h ≤
              restartsSince (largestCycle s.actionratelist) h :=
          (Nat.lt_or_ge _ _).imp_right fun hbig => restartsSince_mono hbig h
        by_cases hL : largestCycle s.actionratelist <
            (timeoutRun d s h).ncycle + min (timeoutRun d s h).nstart 1 <;>
          simp only [hL, if_true, if_false, restartsSince, Nat.zero_le, and_true, Nat.min_zero] <;>
          omega
      · have hq : restartsSince (c + largestCycle s.actionratelist + 1) h = restartsSince c h := by
          simpa [restartsSince, Nat.add_right_comm] using hquiet
        have := ih (by omega) hq
        by_cases hL : largestCycle s.actionratelist <
            (timeoutRun d s h).ncycle + min (timeoutRun d s h).nstart 1 <;>
          simp only [hL, if_true, if_false, restartsSince, Nat.min_zero] <;> omega

/-- The restart-rate quench catches a burst of `count` restarts in a rule's window when the
counters are not in an older epoch: if no restart happened between the call `cycle + M + 1`
calls back and the call `cycle` calls back (`M` the largest window), then `count` restarts
after the call `cycle` calls back make the next call post `Timeout FAILED` for the rule. -/
theorem checkTimeout_quench_after_quiet_window (s : Service) (hne : s.actionratelist ≠ [])
    (h0 : s.nstart = 0) (h1 : s.ncycle = 0) (h : List RestartStep) (i : Nat) (ar : ActionRate)
    (har : s.actionratelist[i]? = some ar)
    (hquiet : restartsSince (ar.cycle + largestCycle s.actionratelist + 1) h =
      restartsSince ar.cycle h)
    (hburst : ar.count ≤ restartsSince ar.cycle h) :
    ∃ e ∈ (checkTimeout d (timeoutRun d s h)).2,
      e.kind = .timeout ∧ e.state = .failed ∧ e.action = .rate i := by
  have hi := timeoutRun_inv (d := d) hne h0 h1 h
  have hc : ar.cycle ≤ largestCycle s.actionratelist :=
    le_largestCycle (List.getElem?_mem har)
  obtain ⟨hwin, hcount⟩ := timeoutRun_fresh_epoch (d := d) hne h0 h1 h hc hquiet
  rw [checkTimeout_posts, hi.rules_eq]
  exact ⟨ar, har, hburst.trans hcount, hwin⟩

/-- One rule `(1, 2, alert)`: a first restart is caught by the next call. -/
theorem checkTimeout_quench_after_first_restart :
    let s : Service := { (default : Service) with actionratelist := [⟨1, 2, ⟨.alert⟩⟩] }
    (s.actionratelist ≠ [] ∧ s.nstart = 0 ∧ s.ncycle = 0) ∧
    (s.actionratelist[0]? = some ⟨1, 2, ⟨.alert⟩⟩ ∧
      restartsSince (2 + largestCycle s.actionratelist + 1) [.restart] =
        restartsSince 2 [.restart] ∧ 1 ≤ restartsSince 2 [.restart]) ∧
    ∃ e ∈ (checkTimeout default (timeoutRun default s [.restart])).2,
      e.kind = .timeout ∧ e.state = .failed ∧ e.action = .rate 0 := by
  intro s
  exact ⟨by decide, by decide, checkTimeout_quench_after_quiet_window s (by decide) rfl rfl
    [.restart] 0 _ rfl (by decide) (by decide)⟩

end MonitValidation.Scheduler
