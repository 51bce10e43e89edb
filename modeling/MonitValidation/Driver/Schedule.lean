import MonitValidation.Driver.Restarts

/-!
# The skip schedule over runs of the monitor

In a cycle of `validate`, the loop body of a service reaches `check_skip` when its scheduled
action did not report that it ran and the service is monitored; the service is checked
(`check_timeout`, then its validator unless the sink unmonitored it) exactly when
`check_skip` lets it through. `check_skip` is the only code of the engine that writes the
`every` schedule, so over a run of the monitor the cycles that reach a service's
`check_skip` are a run of `check_skip` (`skipRun`): the driver refines the scheduler's model
(`monitorRun_every_skipRun`). Each call is made with the dependency mark the control layer's
writes left at that point of the cycle; the driver clears every mark at the end of each
cycle.

For a service scheduled `EVERY_SKIPCYCLES N` from a counter `c` in `[0, N)` this fixes the
cycles that check it: the counter after any run is `c` plus the number of cycles that
reached its `check_skip` with the mark clear, modulo `N`, and the next such cycle checks the
service exactly when it finds the mark clear and that number plus one is `≡ -c` modulo `N`.

The cron schedules are not followed over runs here: under `EVERY_CRON` and
`EVERY_NOTINCRON` the verdict of `check_skip` reads each cycle's clock against the world's
cron table, so the run theorems below assume `EVERY_SKIPCYCLES`.
-/

namespace MonitValidation.Driver

open MonitValidation.Scheduler

/-- Whether the loop body of `validate` reaches `check_skip` for the service: the scheduled
action did not report that it ran, and the service is monitored. -/
def reachesSkip (d : Defs) (p : Probe) (s : Service) : Bool :=
  let a := doScheduledAction d p.control p.onAction s
  decide (a.1 = false ∧ a.2.1.monitor ≠ 0)

/-- The loop body reaches `check_timeout` when it reaches `check_skip` and `check_skip` lets
the service through. -/
theorem reachesTimeout_eq (d : Defs) (w : World) (p : Probe) (s : Service) :
    reachesTimeout d w p s = (reachesSkip d p s &&
      !(checkSkip d w.incron (doScheduledAction d p.control p.onAction s).2.1 w.now).1) :=
  rfl

/-! ## What reaches `check_skip` -/

theorem checkTimeout_every (d : Defs) (s : Service) : (checkTimeout d s).1.every = s.every := by
  unfold checkTimeout; split
  · rfl
  · dsimp only; split <;> split <;> rfl

/-- `check_skip` reads only the schedule and the dependency mark. -/
theorem checkSkip_congr (d : Defs) (incron : String → Int → Bool) {s s' : Service}
    (hv : s.visited = s'.visited) (he : s.every = s'.every) (t : Int) :
    (checkSkip d incron s t).1 = (checkSkip d incron s' t).1 ∧
      (checkSkip d incron s t).2.every = (checkSkip d incron s' t).2.every := by
  simp only [checkSkip, hv, he]
  repeat' split
  all_goals exact ⟨rfl, by simp only [he]⟩

theorem every_eq_of_schedFields {s s' : Service} (h : schedFields s = schedFields s') :
    s.every = s'.every :=
  congrArg Prod.fst h

/-- On the schedule, one pass of the loop is one call of `check_skip` when it reaches it, and
nothing otherwise. -/
theorem validateService_every (d : Defs) (w : World) (p : Probe) (s : Service) :
    (validateService d w p s).2.1.every =
      if reachesSkip d p s then
        (checkSkip d w.incron (doScheduledAction d p.control p.onAction s).2.1 w.now).2.every
      else s.every := by
  by_cases ha : (doScheduledAction d p.control p.onAction s).1 = false ∧
      (doScheduledAction d p.control p.onAction s).2.1.monitor ≠ 0
  · have hr : reachesSkip d p s = true := by simp only [reachesSkip, decide_eq_true ha]
    rw [if_pos hr]
    unfold validateService
    dsimp only
    rw [if_pos ha]
    by_cases hsk : (checkSkip d w.incron (doScheduledAction d p.control p.onAction s).2.1 w.now).1
        = false
    · rw [if_pos hsk]
      by_cases hm : (p.onTimeout.apply (checkTimeout d (checkSkip d w.incron
          (doScheduledAction d p.control p.onAction s).2.1 w.now).2).1).monitor ≠ 0
      · -- checked: neither `check_timeout`, the validator nor the control layer write it
        rw [if_pos hm]
        refine Eq.trans ?_ (checkTimeout_every d
          (checkSkip d w.incron (doScheduledAction d p.control p.onAction s).2.1 w.now).2)
        exact every_eq_of_schedFields ((schedFields_settle ..).trans (checkService_schedFields ..))
      · rw [if_neg hm]
        exact checkTimeout_every ..
    · rw [if_neg hsk]
  · have hr : reachesSkip d p s = false := by simp only [reachesSkip, decide_eq_false ha]
    rw [if_neg (by simp [hr])]
    unfold validateService
    dsimp only
    rw [if_neg ha]
    exact every_eq_of_schedFields (doScheduledAction_schedFields ..)

/-! ## One cycle of `validate` -/

/-- The service the loop body's `check_skip` sees: its own `do_scheduled_action` has run on
the service as the loop found it. -/
def skipInput (d : Defs) (w : World) (sp : Service × Probe) : Service :=
  (doScheduledAction d sp.2.control sp.2.onAction (loopInput d w sp)).2.1

theorem skipInput_every (d : Defs) (w : World) (sp : Service × Probe) :
    (skipInput d w sp).every = sp.1.every :=
  every_eq_of_schedFields ((doScheduledAction_schedFields ..).trans (loopInput_schedFields ..))

/-- Whether a cycle of `validate` on the list `sl` reaches `check_skip` for its `i`-th
service: the loop reaches the service before `Run.stopped` is set, and the loop body reaches
`check_skip`, on the service as the loop finds it. -/
def skipCalled (d : Defs) (w : World) (sl : List (Service × Probe)) (i : Nat) : Bool :=
  (sl.take (i + 1)).all (fun sp => !sp.2.stopped) &&
    match sl[i]? with
    | some sp => reachesSkip d sp.2 (loopInput d w sp)
    | none => false

/-- On the schedule, a cycle of `validate` is one call of `check_skip` for each service for
which it reaches it, and nothing for the others. -/
theorem validate_every (d : Defs) (w : World) (sl : List (Service × Probe)) (i : Nat) :
    ((validate d w sl).2[i]?).map (fun y => y.1.every) =
      sl[i]?.map fun sp =>
        if skipCalled d w sl i then (checkSkip d w.incron (skipInput d w sp) w.now).2.every
        else sp.1.every := by
  rw [validate_getElem?, Option.map_map]
  cases h : sl[i]? with
  | none => rfl
  | some sp =>
    have hpre := every_eq_of_schedFields (loopInput_schedFields d w sp)
    simp only [Option.map_some', Function.comp, skipCalled, h, Option.some.injEq]
    split
    · next hall =>
      simp only [hall, Bool.true_and]
      refine (validateService_every d w sp.2 (loopInput d w sp)).trans ?_
      split
      · rfl
      · exact hpre
    · next hall =>
      simp only [hall, Bool.false_and, Bool.false_eq_true, if_false]
      exact hpre

/-- A cycle calls a service's `check_timeout` exactly when it reaches its `check_skip` and
`check_skip` lets the service through. -/
theorem timeoutCalled_iff (d : Defs) (w : World) (sl : List (Service × Probe)) (i : Nat) :
    timeoutCalled d w sl i = true ↔
      skipCalled d w sl i = true ∧
        ∃ sp ∈ sl[i]?, (checkSkip d w.incron (skipInput d w sp) w.now).1 = false := by
  unfold timeoutCalled skipCalled
  cases sl[i]? <;> simp [reachesTimeout_eq, skipInput, and_assoc]

/-! ## Runs of the monitor -/

/-- A restart by the control layer moves the restart counter of the service it restarts. -/
theorem monitorRun_restart {d : Defs} {sl : List Service} {run : List MonitorStep} {j i : Nat}
    {x : Service} (hx : (monitorRun d sl run)[i]? = some x) :
    (monitorRun d sl (.restart j :: run))[i]? =
      some (if j = i then { x with nstart := x.nstart + 1 } else x) := by
  simp only [monitorRun, List.getElem?_modify, hx, Option.map_eq_map, Option.map_some']

/-- A cycle leaves the `i`-th service as `validate` leaves it. -/
theorem monitorRun_cycle {d : Defs} {sl : List Service} {run : List MonitorStep} {w : World}
    {probe : Nat → Probe} {i : Nat} {y : Service × List Event}
    (hy : (validate d w (withProbes (monitorRun d sl run) probe)).2[i]? = some y) :
    (monitorRun d sl (.cycle w probe :: run))[i]? = some y.1 := by
  simp only [monitorRun, List.getElem?_map, hy, Option.map_some']

theorem withProbes_getElem?_some {sl : List Service} {i : Nat} {x : Service} (probe : Nat → Probe)
    (hx : sl[i]? = some x) : (withProbes sl probe)[i]? = some (x, probe i) := by
  rw [withProbes_getElem?, hx]; rfl

/-- The calls of `check_skip` that a run makes for the `i`-th service, oldest first, each
with the dependency mark the call found and the cycle's clock, as `skipRun` takes them. -/
def skipHistory (d : Defs) (sl : List Service) (i : Nat) : List MonitorStep → List (Bool × Int)
  | [] => []
  | .restart _ :: run => skipHistory d sl i run
  | .cycle w probe :: run =>
    if skipCalled d w (withProbes (monitorRun d sl run) probe) i then
      skipHistory d sl i run ++
        [(((monitorRun d sl run)[i]?.map fun x => (skipInput d w (x, probe i)).visited).getD false,
          w.now)]
    else skipHistory d sl i run

/-- The number of cycles of a run that reached the `i`-th service's `check_skip` with its
dependency mark clear. -/
def skipPasses (d : Defs) (sl : List Service) (i : Nat) (run : List MonitorStep) : Nat :=
  ((skipHistory d sl i run).filter fun c => !c.1).length

/-- The driver refines the scheduler's model of the schedule: under `EVERY_SKIPCYCLES`, a run
of the monitor leaves the schedule that `skipRun` computes from the calls its cycles made. -/
theorem monitorRun_every_skipRun (d : Defs) (incron : String → Int → Bool) {sl : List Service}
    {i : Nat} {s : Service} (hs : sl[i]? = some s) (hType : s.every.type = .skipCycles) :
    ∀ run : List MonitorStep, (monitorRun d sl run)[i]?.map Service.every =
      some (skipRun d incron s (skipHistory d sl i run)).every
  | [] => by simp [monitorRun, skipHistory, skipRun, hs]
  | .restart j :: run => by
    have ih := monitorRun_every_skipRun d incron hs hType run
    simp only [monitorRun, skipHistory, List.getElem?_modify, Option.map_eq_map,
      Option.map_map, Function.comp_def] at ih ⊢
    rw [← ih]
    congr 1
    funext x
    split <;> rfl
  | .cycle w probe :: run => by
    obtain ⟨x, hx, hxe⟩ :=
      Option.map_eq_some'.1 (monitorRun_every_skipRun d incron hs hType run)
    have hc := validate_every d w (withProbes (monitorRun d sl run) probe) i
    rw [withProbes_getElem?, hx, Option.map_some', Option.map_some'] at hc
    simp only [monitorRun, List.getElem?_map, Option.map_map, Function.comp_def]
    rw [hc]
    simp only [skipHistory, hx, Option.map_some', Option.getD_some]
    split
    · -- the cycle's call is the model's next call, with the mark it found
      have he : (skipInput d w (x, probe i)).every =
          (skipRun d incron s (skipHistory d sl i run)).every := (skipInput_every ..).trans hxe
      have htype : (skipInput d w (x, probe i)).every.type = .skipCycles := by
        rw [he, skipRun_every_type]; exact hType
      rw [skipRun_concat, checkSkip_skipCycles_congr d w.incron incron htype w.now w.now]
      exact congrArg some (@checkSkip_congr d incron (skipInput d w (x, probe i))
        { skipRun d incron s (skipHistory d sl i run) with
          visited := (skipInput d w (x, probe i)).visited } rfl he w.now).2
    · exact congrArg some hxe

/-- Under `EVERY_SKIPCYCLES N` from a counter `c` in `[0, N)`, a cycle after any run checks
the service exactly when it reaches the service's `check_skip`, finds its dependency mark
clear, and the run's passes, this cycle's included, are `≡ -c` modulo `N`. -/
theorem validate_checks_skipCycles (d : Defs) {sl : List Service} {i : Nat} {s : Service}
    (hs : sl[i]? = some s) (hType : s.every.type = .skipCycles) (h0 : 0 ≤ s.every.counter)
    (hN : s.every.counter < s.every.number) (run : List MonitorStep) (w : World)
    (probe : Nat → Probe) :
    timeoutCalled d w (withProbes (monitorRun d sl run) probe) i = true ↔
      skipCalled d w (withProbes (monitorRun d sl run) probe) i = true ∧
        (∃ x ∈ (monitorRun d sl run)[i]?, (skipInput d w (x, probe i)).visited = false) ∧
        (s.every.counter + (skipPasses d sl i run + 1 : Nat)) % s.every.number = 0 := by
  obtain ⟨x, hx, hxe⟩ :=
    Option.map_eq_some'.1 (monitorRun_every_skipRun d w.incron hs hType run)
  rw [skipRun_every d w.incron hType h0 hN] at hxe
  have he := (skipInput_every d w (x, probe i)).trans hxe
  have hpos : 0 < s.every.number := by omega
  rw [timeoutCalled_iff, withProbes_getElem?, hx]
  simp only [Option.map_some', Option.mem_def, Option.some.injEq, exists_eq_left']
  cases hv : (skipInput d w (x, probe i)).visited
  · -- a call with the mark clear passes when the counter wraps round
    have hcall := (checkSkip_skipCycles d w.incron (by rw [he]; exact hType) hv
      (by rw [he]; exact Int.emod_nonneg _ (by omega)) (by rw [he]; exact Int.emod_lt_of_pos _ hpos)
      w.now).2.1
    simp only [hcall, he, skipPasses, Int.emod_add_emod, true_and]
    push_cast
    rw [Int.add_assoc]
  · simp [checkSkip_visited d w.incron hv]

/-- A monitored service scheduled every second cycle from counter `0`: a cycle in which a
dependency walk marked it before the loop reached it does not count, so the cycle after it
skips the service and the one after that checks it. -/
theorem validate_checks_skipCycles_after_visit :
    let s : Service :=
      { (default : Service) with monitor := 1, every := ⟨.skipCycles, 0, 2, ""⟩ }
    let visiting : Probe := { sampleProbe with before := ⟨id, fun _ => true⟩ }
    let run : List MonitorStep :=
      [.cycle quietWorld fun _ => sampleProbe, .cycle quietWorld fun _ => visiting]
    ([s][0]? = some s ∧ s.every.type = .skipCycles ∧ 0 ≤ s.every.counter ∧
      s.every.counter < s.every.number) ∧
    (timeoutCalled default quietWorld (withProbes (monitorRun default [s] run) fun _ => sampleProbe)
        0 = true ↔
      skipCalled default quietWorld (withProbes (monitorRun default [s] run) fun _ => sampleProbe)
          0 = true ∧
        (∃ x ∈ (monitorRun default [s] run)[0]?,
          (skipInput default quietWorld (x, sampleProbe)).visited = false) ∧
        (s.every.counter + (skipPasses default [s] 0 run + 1 : Nat)) % s.every.number = 0) ∧
    skipPasses default [s] 0 run = 1 ∧
    timeoutCalled default quietWorld (withProbes (monitorRun default [s] run) fun _ => sampleProbe)
      0 = true ∧
    timeoutCalled default quietWorld
      (withProbes (monitorRun default [s] run.tail) fun _ => sampleProbe) 0 = false :=
  ⟨⟨rfl, rfl, by decide, by decide⟩,
    validate_checks_skipCycles default rfl rfl (by decide) (by decide) _ quietWorld _,
    by decide⟩

end MonitValidation.Driver
