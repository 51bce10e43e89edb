import MonitValidation.Driver.Actions

/-!
# Errors and the monitoring state

`validate` returns the number of validators that returned `FALSE` in the cycle. Each of them
posted a `FAILED` event, except `check_remote_host` stopped by an ICMP test of unknown type.
So on services whose ICMP tests are all echo tests, the count is at most the number of
services that have a `FAILED` event among their events of the cycle: no error is counted
silently.

The loop body tests `s->monitor` right after the scheduled action, before `check_skip`. So
a service whose monitoring flag is clear is never scheduled, timed or checked. Of the code
of `validate`, only the service loop after a check sets the flag; a start or monitor action
of the control layer, for the service or through a dependency, sets it to `MONITOR_INIT`
(`Control`). So over every run whose control writes never monitor the service again, an
unmonitored service stays unmonitored, and the only events posted for it announce its
scheduled action. And once a service has been checked, its flag word keeps one of the three
values a check or `check_skip` leaves, over every run whose control writes keep those values.
-/

namespace MonitValidation.Driver

open MonitValidation.Scheduler MonitValidation.Validators MonitValidation.Tests

/-! ## Every counted error is reported -/

/-- An ICMP loop whose tests are all echo tests runs to its end. -/
theorem icmpLoop_unknown_of_echo (d : Defs) (echo : Nat → EchoResult) :
    ∀ (i : Nat) (l : List Icmp) (last : Option Bool), (∀ ic ∈ l, ic.type = .echo) →
      (icmpLoop d echo i l last).unknown = false
  | _, [], _, _ => rfl
  | i, icmp :: rest, _, h => by
    simp only [icmpLoop, h icmp (List.mem_cons_self _ _)]
    exact icmpLoop_unknown_of_echo d echo (i + 1) rest _ fun ic hic =>
      h ic (List.mem_cons_of_mem _ hic)

/-- Keeping the validators' fields, twice in a row, keeps them. -/
theorem withChecks_keep_trans {s a b : Service} (ha : a = withChecks a s)
    (hb : b = withChecks b a) : b = withChecks b s :=
  calc b = withChecks b a := hb
    _ = withChecks b (withChecks a s) := by rw [← ha]
    _ = withChecks b s := rfl

/-- The scheduled action writes none of the validators' fields. -/
theorem doScheduledAction_keeps (d : Defs) (control : Bool) (written : Control) (s : Service) :
    (doScheduledAction d control written s).2.1 =
      withChecks (doScheduledAction d control written s).2.1 s := by
  unfold doScheduledAction; split <;> rfl

/-- `check_skip` writes only the schedule and the flag word. -/
theorem checkSkip_keeps (d : Defs) (incron : String → Int → Bool) (s : Service) (t : Int) :
    (checkSkip d incron s t).2 = withChecks (checkSkip d incron s t).2 s := by
  unfold checkSkip; split
  · rfl
  · dsimp only; split <;> (try split) <;> rfl

/-- `check_timeout` writes only the restart counters. -/
theorem checkTimeout_keeps (d : Defs) (s : Service) :
    (checkTimeout d s).1 = withChecks (checkTimeout d s).1 s := by
  unfold checkTimeout; split
  · rfl
  · dsimp only; split <;> split <;> rfl

/-- The control layer writes only the flag word and the visit mark. -/
theorem Control.apply_keeps (c : Control) (s : Service) : c.apply s = withChecks (c.apply s) s :=
  rfl

/-- The service the loop body hands to the validator has every field a validator writes as
the service had it: the scheduled action, the schedulers and the control layer write none. -/
theorem checkedService_keeps (d : Defs) (w : World) (p : Probe) (s : Service) :
    p.onTimeout.apply (checkTimeout d
        (checkSkip d w.incron (doScheduledAction d p.control p.onAction s).2.1 w.now).2).1 =
      withChecks (p.onTimeout.apply (checkTimeout d
        (checkSkip d w.incron (doScheduledAction d p.control p.onAction s).2.1 w.now).2).1) s :=
  withChecks_keep_trans (withChecks_keep_trans
    (withChecks_keep_trans (doScheduledAction_keeps ..) (checkSkip_keeps ..))
    (checkTimeout_keeps ..)) (Control.apply_keeps ..)

/-- When the loop body counts an error, the service's events of the cycle hold a `FAILED`
event, provided its ICMP tests are all echo tests. -/
theorem validateService_reported (d : Defs) (w : World) (p : Probe) (s : Service)
    (hicmp : ∀ ic ∈ s.icmplist, ic.type = .echo) (herr : (validateService d w p s).1 = true) :
    ∃ e ∈ (validateService d w p s).2.2, e.state = .failed := by
  unfold validateService at herr ⊢
  dsimp only at herr ⊢
  by_cases ha : (doScheduledAction d p.control p.onAction s).1 = false ∧
      (doScheduledAction d p.control p.onAction s).2.1.monitor ≠ 0
  · rw [if_pos ha] at herr ⊢
    by_cases hsk : (checkSkip d w.incron (doScheduledAction d p.control p.onAction s).2.1 w.now).1
        = false
    · rw [if_pos hsk] at herr ⊢
      by_cases hm : (p.onTimeout.apply (checkTimeout d (checkSkip d w.incron
          (doScheduledAction d p.control p.onAction s).2.1 w.now).2).1).monitor ≠ 0
      · rw [if_pos hm] at herr ⊢
        rcases checkService_reported d w p _ with h | ⟨-, h⟩
        · obtain ⟨e, he, hf⟩ := h (by simpa using herr)
          exact ⟨e, List.mem_append_right _ he, hf⟩
        · have hic := congrArg Service.icmplist (checkedService_keeps d w p s)
          dsimp only [withChecks] at hic
          rw [hic, icmpLoop_unknown_of_echo d p.echo 0 _ none hicmp] at h
          cases h
      · rw [if_neg hm] at herr
        cases herr
    · rw [if_neg hsk] at herr
      cases herr
  · rw [if_neg ha] at herr
    cases herr

/-- Whether a service has a `FAILED` event among its events of a cycle. -/
def hasFailed (y : Service × List Event) : Bool :=
  y.2.any fun e => e.state = .failed

theorem checkLoop_errors_reported (d : Defs) (w : World) :
    ∀ l : List (Service × Probe × List Event), (∀ x ∈ l, ∀ ic ∈ x.1.icmplist, ic.type = .echo) →
      (checkLoop d w l).1 ≤ ((checkLoop d w l).2.filter hasFailed).length
  | [], _ => le_refl _
  | (s, p, evs) :: rest, h => by
    unfold checkLoop
    split
    · exact Nat.zero_le _
    · have ih := checkLoop_errors_reported d w rest fun x hx => h x (List.mem_cons_of_mem _ hx)
      dsimp only
      rw [List.filter_cons]
      cases herr : (validateService d w p (p.before.apply s)).1
      · simp only [Bool.false_eq_true, if_false, Nat.zero_add]
        split
        · exact ih.trans (Nat.le_succ _)
        · exact ih
      · obtain ⟨e, he, hf⟩ :=
          validateService_reported d w p (p.before.apply s) (h _ (List.mem_cons_self _ _)) herr
        have hfail : hasFailed (p.after.apply (validateService d w p (p.before.apply s)).2.1,
            evs ++ (validateService d w p (p.before.apply s)).2.2) = true :=
          List.any_eq_true.2 ⟨e, List.mem_append_right _ he, decide_eq_true hf⟩
        rw [if_pos hfail, if_pos rfl, List.length_cons]
        omega

/-- On services whose ICMP tests are all echo tests, the number of errors a cycle of
`validate` returns is at most the number of services with a `FAILED` event among their
events of the cycle. -/
theorem validate_errors_reported (d : Defs) (w : World) (sl : List (Service × Probe))
    (hicmp : ∀ sp ∈ sl, ∀ ic ∈ sp.1.icmplist, ic.type = .echo) :
    (validate d w sl).1 ≤ ((validate d w sl).2.filter hasFailed).length := by
  unfold validate
  dsimp only
  rw [List.filter_map, List.length_map]
  refine checkLoop_errors_reported d w _ fun x hx => ?_
  split at hx
  · obtain ⟨sp, hsp, rfl⟩ := List.mem_map.1 hx
    rw [show (actionPass d sp).1 = _ from doScheduledAction_keeps d sp.2.control sp.2.onAction sp.1]
    exact hicmp sp hsp
  · obtain ⟨sp, hsp, rfl⟩ := List.mem_map.1 hx
    exact hicmp sp hsp

/-- A process that is not running: the cycle counts one error, and the service reports it. -/
theorem validate_errors_reported_process_gone :
    let sl : List (Service × Probe) :=
      [({ (default : Service) with type := .process, monitor := 1 }, { sampleProbe with pid := 0 })]
    (∀ sp ∈ sl, ∀ ic ∈ sp.1.icmplist, ic.type = .echo) ∧ (validate default quietWorld sl).1 = 1 ∧
      (validate default quietWorld sl).1 ≤ ((validate default quietWorld sl).2.filter hasFailed).length := by
  intro sl
  have hicmp : ∀ sp ∈ sl, ∀ ic ∈ sp.1.icmplist, ic.type = .echo := by
    have hnil : (default : Service).icmplist = [] := rfl
    simp [sl, hnil]
  exact ⟨hicmp, by decide, validate_errors_reported default quietWorld sl hicmp⟩

/-! ## Unmonitored services -/

/-- Every cycle of the run answers for the `i`-th service with a probe that satisfies `P`. -/
def EveryProbe (P : Probe → Prop) (i : Nat) : List MonitorStep → Prop
  | [] => True
  | .restart _ :: run => EveryProbe P i run
  | .cycle _ probe :: run => P (probe i) ∧ EveryProbe P i run

/-- The control layer's writes into the service in a cycle leave an unmonitored service
unmonitored: no start or monitor action reaches it, neither its own nor through a
dependency. -/
def KeepsUnmonitored (p : Probe) : Prop :=
  p.onAction.monitor 0 = 0 ∧ p.before.monitor 0 = 0 ∧ p.after.monitor 0 = 0

theorem doScheduledAction_monitor (d : Defs) (control : Bool) (written : Control) (s : Service) :
    (doScheduledAction d control written s).2.1.monitor =
      if s.doaction ≠ .ignore then written.monitor s.monitor else s.monitor := by
  unfold doScheduledAction; split <;> rfl

theorem doScheduledAction_unmonitored (d : Defs) (control : Bool) {written : Control}
    {s : Service} (hw : written.monitor 0 = 0) (h0 : s.monitor = 0) :
    (doScheduledAction d control written s).2.1.monitor = 0 := by
  rw [doScheduledAction_monitor, h0, hw, ite_self]

theorem loopInput_unmonitored (d : Defs) (w : World) {sp : Service × Probe}
    (hp : KeepsUnmonitored sp.2) (h0 : sp.1.monitor = 0) : (loopInput d w sp).monitor = 0 := by
  have hpre : (if w.doaction then (actionPass d sp).1 else sp.1).monitor = 0 := by
    split
    · exact doScheduledAction_unmonitored d _ hp.1 h0
    · exact h0
  rw [loopInput, Control.apply_monitor, hpre, hp.2.1]

/-- The loop body on an unmonitored service runs its scheduled action and nothing else. -/
theorem validateService_unmonitored (d : Defs) (w : World) (p : Probe) {s : Service}
    (h0 : s.monitor = 0) (hw : p.onAction.monitor 0 = 0) :
    validateService d w p s = (false, (doScheduledAction d p.control p.onAction s).2.1,
      (doScheduledAction d p.control p.onAction s).2.2) := by
  unfold validateService
  dsimp only
  rw [if_neg fun h => h.2 (doScheduledAction_unmonitored d p.control hw h0)]

theorem reachesTimeout_unmonitored (d : Defs) (w : World) (p : Probe) {s : Service}
    (h0 : s.monitor = 0) (hw : p.onAction.monitor 0 = 0) : reachesTimeout d w p s = false := by
  simp [reachesTimeout, doScheduledAction_unmonitored d p.control hw h0]

/-- A cycle on an unmonitored service whose control writes keep it so: it reaches neither
`check_timeout` nor the validator, the service stays unmonitored, and its only events are
`Action` events. -/
theorem validate_unmonitored (d : Defs) (w : World) {sl : List (Service × Probe)} {i : Nat}
    {sp : Service × Probe} (h : sl[i]? = some sp) (h0 : sp.1.monitor = 0)
    (hp : KeepsUnmonitored sp.2) :
    timeoutCalled d w sl i = false ∧ checkCalled d w sl i = false ∧
      ∃ y ∈ (validate d w sl).2[i]?, y.1.monitor = 0 ∧ ∀ e ∈ y.2, e.kind = .action := by
  have hin := loopInput_unmonitored d w hp h0
  have hreach := reachesTimeout_unmonitored d w sp.2 hin hp.1
  refine ⟨by simp [timeoutCalled, h, hreach], by simp [checkCalled, reachesCheck, h, hreach], ?_⟩
  rw [validate_getElem?, h, Option.map_some']
  refine ⟨_, rfl, ?_⟩
  dsimp only
  split
  · rw [validateService_unmonitored d w _ hin hp.1]
    refine ⟨?_, fun e he => ?_⟩
    · simp only [resetDepend, Control.apply_monitor,
        doScheduledAction_unmonitored d _ hp.1 hin, hp.2.2]
    · rcases List.mem_append.1 he with he | he
      · exact pendingEvents_kind d w sp e he
      · exact (doScheduledAction_oneKind ..).1 e he
  · exact ⟨hin, pendingEvents_kind d w sp⟩

/-- An unmonitored service stays unmonitored over every run whose control writes keep it
so. -/
theorem monitorRun_unmonitored (d : Defs) {sl : List Service} {i : Nat} {s : Service}
    (hs : sl[i]? = some s) (h0 : s.monitor = 0) :
    ∀ run : List MonitorStep, EveryProbe KeepsUnmonitored i run →
      ∃ x ∈ (monitorRun d sl run)[i]?, x.monitor = 0
  | [], _ => ⟨s, hs, h0⟩
  | .restart j :: run, hrun => by
    obtain ⟨x, hx, hx0⟩ := monitorRun_unmonitored d hs h0 run hrun
    exact ⟨_, monitorRun_restart hx, by split <;> exact hx0⟩
  | .cycle w probe :: run, hrun => by
    obtain ⟨x, hx, hx0⟩ := monitorRun_unmonitored d hs h0 run hrun.2
    obtain ⟨-, -, y, hy, hy0, -⟩ :=
      validate_unmonitored d w (withProbes_getElem?_some probe hx) hx0 hrun.1
    exact ⟨y.1, monitorRun_cycle hy, hy0⟩

/-- Over every run of the monitor from a state in which a service is unmonitored, and in
which no control write monitors or starts it again, every later cycle reaches neither its
`check_timeout` nor its validator, the service stays unmonitored, and the only events posted
for it are the `Action` events of its scheduled action. -/
theorem monitorRun_unmonitored_unchecked (d : Defs) {sl : List Service} {i : Nat} {s : Service}
    (hs : sl[i]? = some s) (h0 : s.monitor = 0) (run : List MonitorStep)
    (hrun : EveryProbe KeepsUnmonitored i run) (w : World) (probe : Nat → Probe)
    (hnext : KeepsUnmonitored (probe i)) :
    timeoutCalled d w (withProbes (monitorRun d sl run) probe) i = false ∧
      checkCalled d w (withProbes (monitorRun d sl run) probe) i = false ∧
      ∃ y ∈ (validate d w (withProbes (monitorRun d sl run) probe)).2[i]?,
        y.1.monitor = 0 ∧ ∀ e ∈ y.2, e.kind = .action := by
  obtain ⟨x, hx, hx0⟩ := monitorRun_unmonitored d hs h0 run hrun
  exact validate_unmonitored d w (withProbes_getElem?_some probe hx) hx0 hnext

/-- An unmonitored service with a pending unmonitor action, after a restart by the control
layer: the next cycle, under `Run.doaction`, performs the action, which writes
`MONITOR_NOT`, and checks nothing of it. -/
theorem monitorRun_unmonitored_unchecked_pending :
    let s : Service := { (default : Service) with doaction := .unmonitor }
    let p : Probe := { sampleProbe with onAction := ⟨fun _ => 0, id⟩ }
    let w : World := { quietWorld with doaction := true }
    ([s][0]? = some s ∧ s.monitor = 0 ∧ EveryProbe KeepsUnmonitored 0 [.restart 0] ∧
      KeepsUnmonitored p) ∧
      timeoutCalled default w (withProbes (monitorRun default [s] [.restart 0]) fun _ => p) 0 =
        false ∧
      checkCalled default w (withProbes (monitorRun default [s] [.restart 0]) fun _ => p) 0 =
        false ∧
      ∃ y ∈ (validate default w
          (withProbes (monitorRun default [s] [.restart 0]) fun _ => p)).2[0]?,
        y.1.monitor = 0 ∧ ∀ e ∈ y.2, e.kind = .action := by
  intro s p w
  have hp : KeepsUnmonitored p := ⟨rfl, rfl, rfl⟩
  exact ⟨⟨rfl, rfl, trivial, hp⟩,
    monitorRun_unmonitored_unchecked default (s := s) rfl rfl [.restart 0] trivial w _ hp⟩

/-- A pending start that sets `MONITOR_INIT` under `Run.doaction` has an unmonitored service
checked in the same cycle. -/
example :
    checkCalled { (default : Defs) with MONITOR_INIT := 2 } { quietWorld with doaction := true }
      [({ (default : Service) with type := .system, doaction := .start },
        { sampleProbe with onAction := ⟨fun _ => 2, id⟩ })] 0 = true := by
  decide

/-! ## The monitoring flag after a check

After a check the service loop sets `s->monitor` to `MONITOR_YES`, unless the sink set
`MONITOR_NOT`. After that only `check_skip` and the control layer write it: `check_skip` sets
and clears `MONITOR_WAITING`, and only on a monitored service. With `monit.h`'s
`MONITOR_NOT = 0` and the `MONITOR_YES` and `MONITOR_WAITING` bits apart, a service that was
checked once is from then on unmonitored, monitored, or monitored and waiting, as long as no
start or monitor action initialises it again. -/

section Settled

variable {d : Defs} (hnot : d.MONITOR_NOT = 0)
  (hyw : d.MONITOR_YES &&& d.MONITOR_WAITING = 0)

/-- The values of `s->monitor` after a check: `MONITOR_NOT`, `MONITOR_YES`, or `MONITOR_YES`
with `MONITOR_WAITING`. -/
def settled (d : Defs) (m : BitVec 32) : Prop :=
  m = d.MONITOR_NOT ∨ m = d.MONITOR_YES ∨ m = d.MONITOR_YES ||| d.MONITOR_WAITING

instance (d : Defs) (m : BitVec 32) : Decidable (settled d m) :=
  inferInstanceAs (Decidable (_ ∨ _ ∨ _))

/-- The control layer's writes into the service in a cycle keep a settled flag settled: they
may unmonitor it, but no start or monitor action initialises it again. The sink's answers to
the events of `check_timeout` and of the validator need no such condition: the service loop
settles the flag after them. -/
def KeepsSettled (d : Defs) (p : Probe) : Prop :=
  ∀ m, settled d m →
    settled d (p.onAction.monitor m) ∧ settled d (p.before.monitor m) ∧
      settled d (p.after.monitor m)

theorem and_not_of_and_eq_zero {a b : BitVec 32} (h : a &&& b = 0) : a &&& ~~~b = a := by
  ext j
  have hj := congrArg (fun x => x.getLsbD j) h
  simp only [BitVec.getLsbD_and, BitVec.getLsbD_zero] at hj
  simp only [BitVec.getLsbD_and, BitVec.getLsbD_not, Fin.is_lt, decide_True, Bool.true_and]
  cases ha : a.getLsbD j <;> simp_all

theorem or_and_not_self (a b : BitVec 32) : (a ||| b) &&& ~~~b = a &&& ~~~b := by
  ext j
  simp only [BitVec.getLsbD_and, BitVec.getLsbD_or, BitVec.getLsbD_not]
  cases a.getLsbD j <;> cases b.getLsbD j <;> simp

/-- What `check_skip` leaves in the flag word: the word, with `MONITOR_WAITING` set, or with
it cleared. -/
theorem checkSkip_monitor (incron : String → Int → Bool) (s : Service) (t : Int) :
    (checkSkip d incron s t).2.monitor = s.monitor ∨
      (checkSkip d incron s t).2.monitor = s.monitor ||| d.MONITOR_WAITING ∨
      (checkSkip d incron s t).2.monitor = s.monitor &&& ~~~d.MONITOR_WAITING := by
  unfold checkSkip; split
  · exact .inl rfl
  · dsimp only; split <;> (try split) <;> simp

include hnot hyw in
/-- `check_skip` on a monitored service keeps its flag settled. -/
theorem checkSkip_settled (incron : String → Int → Bool) {s : Service} (t : Int)
    (h : settled d s.monitor) (hm : s.monitor ≠ 0) : settled d (checkSkip d incron s t).2.monitor := by
  have hyes : d.MONITOR_YES &&& ~~~d.MONITOR_WAITING = d.MONITOR_YES := and_not_of_and_eq_zero hyw
  rcases h with h | h | h
  · exact absurd (h.trans hnot) hm
  all_goals rcases checkSkip_monitor incron s t with hr | hr | hr <;> rw [hr, h]
  · exact .inr (.inl rfl)
  · exact .inr (.inr rfl)
  · exact .inr (.inl hyes)
  · exact .inr (.inr rfl)
  · exact .inr (.inr (by rw [BitVec.or_assoc, BitVec.or_self]))
  · exact .inr (.inl (by rw [or_and_not_self, hyes]))

/-- The scheduled action keeps a settled flag settled when its write does. -/
theorem doScheduledAction_settled (control : Bool) {written : Control} {s : Service}
    (hw : ∀ m, settled d m → settled d (written.monitor m)) (h : settled d s.monitor) :
    settled d (doScheduledAction d control written s).2.1.monitor := by
  rw [doScheduledAction_monitor]
  split
  · exact hw _ h
  · exact h

include hnot hyw in
/-- The loop body settles the flag when it calls the validator, and keeps it settled
otherwise. -/
theorem validateService_settled (w : World) {p : Probe} (hp : KeepsSettled d p) {s : Service}
    (h : reachesCheck d w p s = true ∨ settled d s.monitor) :
    settled d (validateService d w p s).2.1.monitor := by
  unfold validateService
  dsimp only
  by_cases ha : (doScheduledAction d p.control p.onAction s).1 = false ∧
      (doScheduledAction d p.control p.onAction s).2.1.monitor ≠ 0
  · rw [if_pos ha]
    by_cases hsk : (checkSkip d w.incron (doScheduledAction d p.control p.onAction s).2.1 w.now).1
        = false
    · rw [if_pos hsk]
      by_cases hm : (p.onTimeout.apply (checkTimeout d (checkSkip d w.incron
          (doScheduledAction d p.control p.onAction s).2.1 w.now).2).1).monitor ≠ 0
      · rw [if_pos hm]
        split
        · exact .inr (.inl rfl)
        · next hn => exact .inl (not_not.1 hn)
      · rw [if_neg hm]
        exact .inl ((not_not.1 hm).trans hnot.symm)
    · have hr : reachesCheck d w p s = false := by simp [reachesCheck, reachesTimeout, hsk]
      rw [if_neg hsk]
      have hs : settled d s.monitor := h.resolve_left (by rw [hr]; exact Bool.false_ne_true)
      exact checkSkip_settled hnot hyw _ _
        (doScheduledAction_settled _ (fun m hm => (hp m hm).1) hs) ha.2
  · have hr : reachesCheck d w p s = false := by
      simp only [reachesCheck, reachesTimeout, decide_eq_false ha, Bool.false_and]
    rw [if_neg ha]
    exact doScheduledAction_settled _ (fun m hm => (hp m hm).1)
      (h.resolve_left (by rw [hr]; exact Bool.false_ne_true))

/-- The service as the loop finds it keeps a settled flag settled. -/
theorem loopInput_settled (w : World) {sp : Service × Probe} (hp : KeepsSettled d sp.2)
    (h : settled d sp.1.monitor) : settled d (loopInput d w sp).monitor := by
  rw [loopInput, Control.apply_monitor]
  refine (hp _ ?_).2.1
  split
  · exact doScheduledAction_settled _ (fun m hm => (hp m hm).1) h
  · exact h

include hnot hyw in
/-- One cycle on the `i`-th service's flag: settled when the cycle calls its validator, and
kept settled otherwise, when the control writes keep it so. -/
theorem validate_settled (w : World) {sl : List (Service × Probe)} {i : Nat}
    {sp : Service × Probe} (h : sl[i]? = some sp) (hp : KeepsSettled d sp.2) :
    ∃ y ∈ (validate d w sl).2[i]?,
      (checkCalled d w sl i = true ∨ settled d sp.1.monitor) → settled d y.1.monitor := by
  rw [validate_getElem?, h, Option.map_some']
  refine ⟨_, rfl, fun hc => ?_⟩
  rw [checkCalled_of_getElem? d w h] at hc
  dsimp only
  split
  · next hall =>
    simp only [hall, Bool.true_and] at hc
    refine (hp _ (validateService_settled hnot hyw w hp ?_)).2.2
    exact hc.imp_right (loopInput_settled w hp)
  · next hall =>
    simp only [Bool.eq_false_iff.2 hall, Bool.false_and, Bool.false_eq_true, false_or] at hc
    exact loopInput_settled w hp hc

include hnot hyw in
/-- Over every run of the monitor whose control writes keep a settled flag settled, once a
cycle has called the validator of the `i`-th service, its flag stays settled:
`MONITOR_NOT`, `MONITOR_YES`, or `MONITOR_YES` with `MONITOR_WAITING`. -/
theorem monitorRun_settled {sl : List Service} {i : Nat} {s : Service}
    (hs : sl[i]? = some s) :
    ∀ run : List MonitorStep, EveryProbe (KeepsSettled d) i run →
      ∃ x ∈ (monitorRun d sl run)[i]?, checkHistory d sl i run ≠ [] → settled d x.monitor
  | [], _ => ⟨s, hs, fun h => absurd rfl h⟩
  | .restart j :: run, hrun => by
    obtain ⟨x, hx, hxs⟩ := monitorRun_settled hs run hrun
    refine ⟨_, monitorRun_restart hx, ?_⟩
    rw [checkHistory]
    split <;> exact hxs
  | .cycle w probe :: run, hrun => by
    obtain ⟨x, hx, hxs⟩ := monitorRun_settled hs run hrun.2
    obtain ⟨y, hy, hys⟩ := validate_settled hnot hyw w (withProbes_getElem?_some probe hx) hrun.1
    refine ⟨y.1, monitorRun_cycle hy, fun hne => hys ?_⟩
    by_cases hc : checkCalled d w (withProbes (monitorRun d sl run) probe) i = true
    · exact .inl hc
    · rw [checkHistory, if_neg hc] at hne
      exact .inr (hxs hne)

end Settled

/-- With `monit.h`'s flag values, a process service in `MONITOR_INIT` checked by one cycle is
settled after it. -/
theorem monitorRun_settled_after_init :
    let d : Defs := { (default : Defs) with
      MONITOR_NOT := 0, MONITOR_YES := 1, MONITOR_INIT := 2, MONITOR_WAITING := 4 }
    let s : Service := { (default : Service) with type := .process, monitor := 2 }
    let run : List MonitorStep := [.cycle quietWorld fun _ => sampleProbe]
    d.MONITOR_NOT = 0 ∧ d.MONITOR_YES &&& d.MONITOR_WAITING = 0 ∧ [s][0]? = some s ∧
      EveryProbe (KeepsSettled d) 0 run ∧ checkHistory d [s] 0 run ≠ [] ∧
      ∃ x ∈ (monitorRun d [s] run)[0]?, settled d x.monitor := by
  intro d s run
  have h1 : checkCalled d quietWorld (withProbes (monitorRun d [s] []) fun _ => sampleProbe) 0 =
      true := by decide
  have hc : checkHistory d [s] 0 run ≠ [] := by
    simp only [run, checkHistory, h1, if_true]
    exact List.cons_ne_nil _ _
  have hrun : EveryProbe (KeepsSettled d) 0 run := ⟨fun _ h => ⟨h, h, h⟩, trivial⟩
  obtain ⟨x, hx, hxs⟩ := @monitorRun_settled d rfl (by decide) [s] 0 s rfl run hrun
  exact ⟨rfl, by decide, rfl, hrun, hc, x, hx, hxs hc⟩

end MonitValidation.Driver
