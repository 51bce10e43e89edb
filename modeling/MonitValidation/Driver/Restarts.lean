import MonitValidation.Driver.Validate

/-!
# The restart-rate quench over runs of the monitor

Of the whole validation engine, only `check_timeout` reads or writes a service's
action-rate rules and its restart counters (`actionratelist`, `nstart`, `ncycle`); the
control layer increments `nstart` at each restart. A run of the monitor is a sequence of
cycles of `validate` and restarts. Projected on one service, it is a history of the
restart-rate model of `check_timeout` (`timeoutRun`): each restart of the service is a
restart step, each cycle whose loop reaches the service's `check_timeout` is a call, and the
other steps are nothing. The driver's counters are the model's over that history (the model
refines the driver on them), so the model's invariant holds of every service after every
run, and the soundness of the quench carries over: a `Timeout FAILED` a cycle of `validate`
posts for a service is preceded by at least `count` restarts of that service within the
rule's window of checked cycles. Conversely, a burst of `count` restarts in the window is
caught by the next cycle that calls `check_timeout` when no restart happened during the
largest window before it.

A restart is a step between cycles. One the control layer makes inside a cycle counts the
same as a step just before the cycle when it falls before the service's `check_timeout`
(`do_scheduled_action`), and as a step just after it otherwise (the sink's actions), since
nothing else in the cycle reads the counters.
-/

namespace MonitValidation.Driver

open MonitValidation.Scheduler MonitValidation.Validators MonitValidation.Tests
  MonitValidation.Content

/-- What `check_timeout` reads and writes of a service: its action-rate rules and its
restart and cycle counters. -/
def rateFields (s : Service) : List ActionRate × Nat × Nat :=
  (s.actionratelist, s.nstart, s.ncycle)

/-- What the two schedulers, `check_skip` and `check_timeout`, read and write of a service:
its `every` schedule, its action-rate rules and its restart and cycle counters. -/
def schedFields (s : Service) : Every × List ActionRate × Nat × Nat :=
  (s.every, s.actionratelist, s.nstart, s.ncycle)

theorem rateFields_eq_of_schedFields {s s' : Service} (h : schedFields s = schedFields s') :
    rateFields s = rateFields s' := by
  simp only [schedFields, Prod.mk.injEq] at h
  simp only [rateFields, h]

theorem schedFields_ite {α : Type} (c : Prop) [Decidable c] (t e : Service × α) :
    schedFields (if c then t else e).1 = if c then schedFields t.1 else schedFields e.1 := by
  split <;> rfl

/-- Setting `MONITOR_YES` after a check leaves the schedule and the counters. -/
theorem schedFields_settle (c : Prop) [Decidable c] (s : Service) (m : BitVec 32) :
    schedFields (if c then { s with monitor := m } else s) = schedFields s := by
  split <;> rfl

/-! ## No validator touches the schedule or the counters -/

theorem checkChecksum_schedFields (s : Service) (computed : Option String) :
    schedFields (checkChecksum s computed).1 = schedFields s := by
  unfold checkChecksum
  rcases s.checksum with _ | cs <;> rcases computed with _ | sum <;> try rfl
  dsimp only
  rcases hashLength _ with _ | n
  · rfl
  · simp only [schedFields_ite]
    simp only [schedFields, Service.setCsSum, ite_self]

theorem checkSize_schedFields (s : Service) : schedFields (checkSize s).1 = schedFields s := rfl

theorem checkTimestamp_schedFields (s : Service) (now : Int) :
    schedFields (checkTimestamp s now).1 = schedFields s := by
  unfold checkTimestamp; split <;> rfl

theorem checkMatch_schedFields (pattern : String → List UInt8 → Bool) (file : Option (List UInt8))
    (s : Service) : schedFields (checkMatch pattern file s).1 = schedFields s := by
  unfold checkMatch; split <;> rfl

theorem fileFound_schedFields (pattern : String → List UInt8 → Bool) (computed : Option String)
    (time : Int) (file : Option (List UInt8)) (s : Service) :
    schedFields (fileFound pattern computed time file s).2.1 = schedFields s := by
  unfold fileFound
  split
  · rfl
  · simp only [schedFields_ite, checkMatch_schedFields, checkTimestamp_schedFields,
      checkSize_schedFields, checkChecksum_schedFields, ite_self]

theorem checkFile_schedFields (pattern : String → List UInt8 → Bool) (stat : Option Stat)
    (computed : Option String) (time : Int) (file : Option (List UInt8)) (s : Service) :
    schedFields (checkFile pattern stat computed time file s).2.1 = schedFields s := by
  unfold checkFile; split
  · rfl
  · exact fileFound_schedFields ..

theorem checkNode_schedFields (isType : Nat → Bool) (missing found notType typed : String)
    (stat : Option Stat) (time : Int) (s : Service) :
    schedFields (checkNode isType missing found notType typed stat time s).2.1 = schedFields s := by
  simp only [checkNode]
  repeat' split
  all_goals first | rfl | exact checkTimestamp_schedFields ..

theorem checkProcess_schedFields (d : Defs) (si : SystemInfo) (doprocess : Bool) (pid : Int)
    (data : Option ProcessInfo) (written : Nat → Control) (attempt : Nat → Nat → Attempt)
    (s : Service) :
    schedFields (checkProcess d si doprocess pid data written attempt s).2.1 = schedFields s := by
  simp only [checkProcess, sampleProcess]
  repeat' split
  all_goals rfl

theorem checkFilesystem_schedFields (d : Defs) (lstat : Option Stat)
    (realpath : Except String String) (stat : Option Stat) (usage : Option FilesystemInfo)
    (s : Service) : schedFields (checkFilesystem d lstat realpath stat usage s).2.1 = schedFields s := by
  simp only [checkFilesystem, filesystemExists]
  repeat' split
  all_goals rfl

theorem checkRemoteHost_schedFields (d : Defs) (echo : Nat → EchoResult)
    (attempt : Nat → Nat → Attempt) (s : Service) :
    schedFields (checkRemoteHost d echo attempt s).2.1 = schedFields s := by
  simp only [checkRemoteHost]
  repeat' split
  all_goals rfl

theorem checkProgram_schedFields (d : Defs) (s : Service) (now : Int)
    (spawn : Except String Process) : schedFields (checkProgram d s now spawn).1 = schedFields s := by
  simp only [checkProgram, reapProgram, startProgram]
  repeat' split
  all_goals rfl

/-- The validator of every type leaves the schedule, the rules and the counters as they are. -/
theorem checkService_schedFields (d : Defs) (w : World) (p : Probe) (s : Service) :
    schedFields (checkService d w p s).2.1 = schedFields s := by
  unfold checkService; split
  · exact checkProcess_schedFields ..
  · exact checkFilesystem_schedFields ..
  · exact checkFile_schedFields ..
  · exact checkNode_schedFields ..
  · exact checkNode_schedFields ..
  · exact checkProgram_schedFields ..
  · exact checkRemoteHost_schedFields ..
  · rfl

theorem doScheduledAction_schedFields (d : Defs) (control : Bool) (written : Control)
    (s : Service) : schedFields (doScheduledAction d control written s).2.1 = schedFields s := by
  unfold doScheduledAction; split <;> rfl

theorem checkSkip_rateFields (d : Defs) (incron : String → Int → Bool) (s : Service) (t : Int) :
    rateFields (checkSkip d incron s t).2 = rateFields s := by
  simp only [checkSkip]
  repeat' split
  all_goals rfl

@[simp]
theorem Control.apply_schedFields (c : Control) (s : Service) :
    schedFields (c.apply s) = schedFields s := rfl

@[simp]
theorem Control.apply_rateFields (c : Control) (s : Service) :
    rateFields (c.apply s) = rateFields s := rfl

/-- `check_timeout` reads only the rules and the counters. -/
theorem checkTimeout_congr (d : Defs) {s s' : Service} (h : rateFields s = rateFields s') :
    rateFields (checkTimeout d s).1 = rateFields (checkTimeout d s').1 ∧
      (checkTimeout d s).2 = (checkTimeout d s').2 := by
  obtain ⟨hr, hn, hc⟩ : s.actionratelist = s'.actionratelist ∧ s.nstart = s'.nstart ∧
      s.ncycle = s'.ncycle := by simpa [rateFields] using h
  refine ⟨?_, by rw [checkTimeout_events, checkTimeout_events, hr, hn, hc]⟩
  by_cases hne : s.actionratelist = []
  · simpa [checkTimeout, hne, ← hr] using h
  · rw [checkTimeout_counters d hne, checkTimeout_counters d (hr ▸ hne)]
    simp only [rateFields, hr, hn, hc]

/-! ## One pass of the service loop -/

/-- Whether the loop body of `validate` reaches `check_timeout` for the service: the
scheduled action did not report that it ran, the service is monitored, and `check_skip` lets
it through. -/
def reachesTimeout (d : Defs) (w : World) (p : Probe) (s : Service) : Bool :=
  let a := doScheduledAction d p.control p.onAction s
  decide (a.1 = false ∧ a.2.1.monitor ≠ 0) && !(checkSkip d w.incron a.2.1 w.now).1

/-- The validators post `Timeout` only to clear a process's errors, as `SUCCEEDED`. -/
theorem checkService_timeout_succeeded (d : Defs) (w : World) (p : Probe) (s : Service) :
    ∀ e ∈ (checkService d w p s).2.2, e.kind = .timeout → e.state = .succeeded := by
  intro e he hk
  have hkind := (checkService_plan d w p s).kind_mem he
  cases ht : s.type <;> rw [ht, hk] at hkind <;> simp only [checkKinds] at hkind <;>
    try simp at hkind
  simp only [checkService, ht, checkProcess] at he
  split at he
  · simp only [List.mem_singleton] at he
    rw [he] at hk; cases hk
  · simp only [List.mem_cons, List.mem_append] at he
    rcases he with ((rfl | he) | he) | he
    · cases hk
    · exact clearedErrors_succeeded s e he
    · have := (sampleProcess_plan ..).kind_mem he
      rw [hk] at this; simp at this
    · have := (checkPorts_oneKind ..).1 e he
      rw [hk] at this; cases this

/-- What one pass of the loop does to the counters and which events it posts: when it
reaches `check_timeout`, the counters are those the call leaves, and the events are those of
the scheduled action, of the call, and then of the validator, which posts `Timeout` only as
`SUCCEEDED`; otherwise the counters are unchanged and only the scheduled action posted. -/
theorem validateService_shape (d : Defs) (w : World) (p : Probe) (s : Service) :
    let a := doScheduledAction d p.control p.onAction s
    let t := checkTimeout d (checkSkip d w.incron a.2.1 w.now).2
    if reachesTimeout d w p s then
      rateFields (validateService d w p s).2.1 = rateFields t.1 ∧
        ∃ rest, (validateService d w p s).2.2 = a.2.2 ++ t.2 ++ rest ∧
          ∀ e ∈ rest, e.kind = .timeout → e.state = .succeeded
    else
      rateFields (validateService d w p s).2.1 = rateFields s ∧
        (validateService d w p s).2.2 = a.2.2 := by
  by_cases ha : (doScheduledAction d p.control p.onAction s).1 = false ∧
      (doScheduledAction d p.control p.onAction s).2.1.monitor ≠ 0
  · by_cases hsk : (checkSkip d w.incron (doScheduledAction d p.control p.onAction s).2.1 w.now).1
        = false
    · have hr : reachesTimeout d w p s = true := by
        simp only [reachesTimeout, decide_eq_true ha, hsk, Bool.not_false, Bool.and_self]
      rw [if_pos hr]
      unfold validateService
      dsimp only
      rw [if_pos ha, if_pos hsk]
      by_cases hm : (p.onTimeout.apply (checkTimeout d (checkSkip d w.incron
          (doScheduledAction d p.control p.onAction s).2.1 w.now).2).1).monitor ≠ 0
      · -- still monitored after `check_timeout`: the validator runs
        rw [if_pos hm]
        exact ⟨rateFields_eq_of_schedFields ((schedFields_settle ..).trans
          (checkService_schedFields ..)), _, rfl, checkService_timeout_succeeded d w p _⟩
      · rw [if_neg hm]
        exact ⟨rfl, [], (List.append_nil _).symm, fun _ he => by cases he⟩
    · have hr : reachesTimeout d w p s = false := by simp [reachesTimeout, hsk]
      rw [if_neg (by simp [hr])]
      unfold validateService
      dsimp only
      rw [if_pos ha, if_neg hsk]
      exact ⟨(checkSkip_rateFields ..).trans
        (rateFields_eq_of_schedFields (doScheduledAction_schedFields ..)), rfl⟩
  · have hr : reachesTimeout d w p s = false := by
      simp only [reachesTimeout, decide_eq_false ha, Bool.false_and]
    rw [if_neg (by simp [hr])]
    unfold validateService
    dsimp only
    rw [if_neg ha]
    exact ⟨rateFields_eq_of_schedFields (doScheduledAction_schedFields ..), rfl⟩

/-- The service `check_timeout` sees in a pass has the counters of the service itself. -/
theorem checkSkip_doScheduledAction_rateFields (d : Defs) (w : World) (p : Probe) (s : Service) :
    rateFields (checkSkip d w.incron (doScheduledAction d p.control p.onAction s).2.1 w.now).2 =
      rateFields s := by
  rw [checkSkip_rateFields]
  exact rateFields_eq_of_schedFields (doScheduledAction_schedFields ..)

/-- On the counters, one pass of the loop is one call of `check_timeout` when it reaches it,
and nothing otherwise. -/
theorem validateService_rateFields (d : Defs) (w : World) (p : Probe) (s : Service) :
    rateFields (validateService d w p s).2.1 =
      rateFields (if reachesTimeout d w p s then (checkTimeout d s).1 else s) := by
  have h := validateService_shape d w p s
  cases hr : reachesTimeout d w p s <;> simp only [hr, Bool.false_eq_true, if_true, if_false] at h ⊢
  · exact h.1
  · exact h.1.trans (checkTimeout_congr d (checkSkip_doScheduledAction_rateFields d w p s)).1

/-- The `Timeout FAILED` events of one pass of the loop are those of its `check_timeout`
call, when it reaches it. -/
theorem validateService_timeout_failed (d : Defs) (w : World) (p : Probe) (s : Service)
    (a : ActionRef) :
    (∃ e ∈ (validateService d w p s).2.2, e.kind = .timeout ∧ e.state = .failed ∧ e.action = a) ↔
      reachesTimeout d w p s = true ∧ ∃ e ∈ (checkTimeout d s).2, e.action = a := by
  have haction : ∀ e ∈ (doScheduledAction d p.control p.onAction s).2.2, ¬e.kind = .timeout :=
    fun e he hk => by rw [(doScheduledAction_oneKind d p.control p.onAction s).1 e he] at hk; cases hk
  have h := validateService_shape d w p s
  cases hr : reachesTimeout d w p s <;> simp only [hr, Bool.false_eq_true, if_true, if_false] at h
  · rw [h.2]
    simp only [Bool.false_eq_true, false_and, iff_false]
    exact fun ⟨e, he, hk, _⟩ => haction e he hk
  · obtain ⟨-, rest, hevs, hrest⟩ := h
    rw [hevs, (checkTimeout_congr d (checkSkip_doScheduledAction_rateFields d w p s)).2]
    simp only [List.mem_append, or_and_right, exists_or, true_and]
    constructor
    · rintro ((⟨e, he, hk, -⟩ | ⟨e, he, -, -, hact⟩) | ⟨e, he, hk, hs, -⟩)
      · exact absurd hk (haction e he)
      · exact ⟨e, he, hact⟩
      · rw [hrest e he hk] at hs; cases hs
    · rintro ⟨e, he, hact⟩
      exact .inl (.inr ⟨e, he, (checkTimeout_action d he).1, (checkTimeout_action d he).2.1, hact⟩)

/-! ## One cycle of `validate` -/

/-- The service loop runs the loop body on each service before the first one at which
`Run.stopped` is set, and leaves that one and the later ones to the writes before their
turns. -/
theorem checkLoop_getElem? (d : Defs) (w : World) :
    ∀ (l : List (Service × Probe × List Event)) (i : Nat),
      (checkLoop d w l).2[i]? = l[i]?.map fun x =>
        let r := validateService d w x.2.1 (x.2.1.before.apply x.1)
        if (l.take (i + 1)).all (fun y => !y.2.1.stopped) then
          (x.2.1.after.apply r.2.1, x.2.2 ++ r.2.2)
        else (x.2.1.before.apply x.1, x.2.2)
  | [], i => by simp [checkLoop]
  | (s, p, evs) :: rest, i => by
    unfold checkLoop
    split
    · next hp =>
      rw [List.getElem?_map]
      cases i <;> simp [hp]
    · next hp =>
      have hp : p.stopped = false := by simpa using hp
      cases i with
      | zero => simp [hp]
      | succ i =>
        simp only [checkLoop_getElem? d w rest i, List.getElem?_cons_succ, List.take_succ_cons,
          List.all_cons, hp, Bool.not_false, Bool.true_and]

/-- The first loop of `validate` keeps every probe, so the second one stops where it would
have on the list itself. -/
theorem all_not_stopped_map {f : Service × Probe → Service × Probe × List Event}
    (hf : ∀ sp, (f sp).2.1 = sp.2) (l : List (Service × Probe)) :
    (l.map f).all (fun x => !x.2.1.stopped) = l.all (fun sp => !sp.2.stopped) := by
  induction l <;> simp [*]

/-- The `i`-th service of a cycle: the loop body on the service as the loop finds it, if the
loop reaches it, then the writes after its turn and the dependency mark cleared. -/
theorem validate_getElem? (d : Defs) (w : World) (sl : List (Service × Probe)) (i : Nat) :
    (validate d w sl).2[i]? = sl[i]?.map fun sp =>
      let r := validateService d w sp.2 (loopInput d w sp)
      if (sl.take (i + 1)).all (fun y => !y.2.stopped) then
        (resetDepend (sp.2.after.apply r.2.1), pendingEvents d w sp ++ r.2.2)
      else (resetDepend (loopInput d w sp), pendingEvents d w sp) := by
  unfold validate loopInput pendingEvents
  split <;> next hdo =>
    simp only [hdo, if_true, if_false, Bool.false_eq_true, List.getElem?_map, checkLoop_getElem?,
      ← List.map_take, Option.map_map,
      @all_not_stopped_map (actionPass d) (fun _ => rfl),
      @all_not_stopped_map (fun sp => (sp.1, sp.2, [])) (fun _ => rfl)]
    congr 1; funext sp; simp only [Function.comp]; split <;> rfl

/-- Whether a cycle of `validate` on the list `sl` calls `check_timeout` for its `i`-th
service: the loop reaches the service before `Run.stopped` is set, and the loop body reaches
`check_timeout`, on the service as the loop finds it. -/
def timeoutCalled (d : Defs) (w : World) (sl : List (Service × Probe)) (i : Nat) : Bool :=
  (sl.take (i + 1)).all (fun sp => !sp.2.stopped) &&
    match sl[i]? with
    | some sp => reachesTimeout d w sp.2 (loopInput d w sp)
    | none => false

/-- The service the loop body starts from keeps the schedule and the counters. -/
theorem loopInput_schedFields (d : Defs) (w : World) (sp : Service × Probe) :
    schedFields (loopInput d w sp) = schedFields sp.1 := by
  unfold loopInput; split
  · exact doScheduledAction_schedFields ..
  · rfl

theorem loopInput_rateFields (d : Defs) (w : World) (sp : Service × Probe) :
    rateFields (loopInput d w sp) = rateFields sp.1 :=
  rateFields_eq_of_schedFields (loopInput_schedFields d w sp)

/-- The events posted for a service before the loop reaches it are those of its scheduled
action. -/
theorem pendingEvents_kind (d : Defs) (w : World) (sp : Service × Probe) :
    ∀ e ∈ pendingEvents d w sp, e.kind = .action := by
  unfold pendingEvents; split
  · exact (doScheduledAction_oneKind ..).1
  · intro e he; cases he

/-- On the counters, a cycle of `validate` is one call of `check_timeout` for each service
for which it calls it, and nothing for the others. -/
theorem validate_rateFields (d : Defs) (w : World) (sl : List (Service × Probe)) (i : Nat) :
    ((validate d w sl).2[i]?).map (fun y => rateFields y.1) =
      sl[i]?.map fun sp =>
        rateFields (if timeoutCalled d w sl i then (checkTimeout d sp.1).1 else sp.1) := by
  rw [validate_getElem?, Option.map_map]
  cases h : sl[i]? with
  | none => rfl
  | some sp =>
    have hpre := loopInput_rateFields d w sp
    simp only [Option.map_some', Function.comp, timeoutCalled, h, Option.some.injEq]
    split
    · next hall =>
      simp only [hall, Bool.true_and]
      refine (validateService_rateFields d w sp.2 (loopInput d w sp)).trans ?_
      split
      · exact (checkTimeout_congr d hpre).1
      · exact hpre
    · next hall =>
      simp only [hall, Bool.false_and, Bool.false_eq_true, if_false]
      exact hpre

/-- The `Timeout FAILED` events a cycle of `validate` posts for a service are those of
`check_timeout`, when the cycle calls it. -/
theorem validate_timeout_failed (d : Defs) (w : World) (sl : List (Service × Probe)) (i : Nat)
    (a : ActionRef) :
    (∃ y ∈ (validate d w sl).2[i]?, ∃ e ∈ y.2,
        e.kind = .timeout ∧ e.state = .failed ∧ e.action = a) ↔
      timeoutCalled d w sl i = true ∧ ∃ sp ∈ sl[i]?, ∃ e ∈ (checkTimeout d sp.1).2, e.action = a := by
  rw [validate_getElem?]
  cases h : sl[i]? with
  | none => simp [timeoutCalled, h]
  | some sp =>
    have hpending : ∀ e ∈ pendingEvents d w sp, ¬e.kind = .timeout := fun e he hk => by
      rw [pendingEvents_kind d w sp e he] at hk; cases hk
    have hevents := (checkTimeout_congr d (loopInput_rateFields d w sp)).2
    simp only [Option.map_some', Option.mem_def, Option.some.injEq, exists_eq_left', timeoutCalled,
      h]
    split
    · next hall =>
      simp only [hall, Bool.true_and, List.mem_append, or_and_right, exists_or]
      rw [← hevents, ← validateService_timeout_failed]
      exact or_iff_right fun ⟨e, he, hk, _⟩ => hpending e he hk
    · next hall =>
      simp only [hall, Bool.false_and, Bool.false_eq_true, false_and, iff_false]
      exact fun ⟨e, he, hk, _⟩ => hpending e he hk

/-! ## Runs of the monitor -/

/-- A step of a run of the monitor: the control layer restarts the `i`-th service
(`s->nstart++`), or `validate` runs a cycle in which the world answers `w`, and `probe i`
for the `i`-th service. -/
inductive MonitorStep
  | restart (i : Nat)
  | cycle (w : World) (probe : Nat → Probe)

/-- The service list of a cycle, each service with what the world answers for it. -/
def withProbes (sl : List Service) (probe : Nat → Probe) : List (Service × Probe) :=
  sl.mapIdx fun i s => (s, probe i)

theorem withProbes_getElem? (sl : List Service) (probe : Nat → Probe) (i : Nat) :
    (withProbes sl probe)[i]? = sl[i]?.map fun s => (s, probe i) := by
  simp [withProbes]

/-- The services after a run, listed most recent step first. -/
def monitorRun (d : Defs) (sl : List Service) : List MonitorStep → List Service
  | [] => sl
  | .restart i :: run => (monitorRun d sl run).modify (fun s => { s with nstart := s.nstart + 1 }) i
  | .cycle w probe :: run => (validate d w (withProbes (monitorRun d sl run) probe)).2.map Prod.fst

/-- The history of the restart-rate model that a run makes for the `i`-th service: its own
restarts, and the cycles that call its `check_timeout`. -/
def serviceHistory (d : Defs) (sl : List Service) (i : Nat) : List MonitorStep → List RestartStep
  | [] => []
  | .restart j :: run =>
    if j = i then .restart :: serviceHistory d sl i run else serviceHistory d sl i run
  | .cycle w probe :: run =>
    if timeoutCalled d w (withProbes (monitorRun d sl run) probe) i then
      .check :: serviceHistory d sl i run
    else serviceHistory d sl i run

/-- The restart-rate model refines the monitor: after every run, the counters of the `i`-th
service are those of the model over the service's history. -/
theorem monitorRun_rateFields (d : Defs) (sl : List Service) (i : Nat) :
    ∀ run : List MonitorStep, (monitorRun d sl run)[i]?.map rateFields =
      sl[i]?.map fun s => rateFields (timeoutRun d s (serviceHistory d sl i run))
  | [] => rfl
  | .restart j :: run => by
    have ih := monitorRun_rateFields d sl i run
    simp only [monitorRun, serviceHistory, List.getElem?_modify, Option.map_eq_map,
      Option.map_map, Function.comp_def]
    cases hx : (monitorRun d sl run)[i]? <;> cases hs : sl[i]? <;>
      simp only [hx, hs, Option.map_none', Option.map_some', Option.some.injEq,
        reduceCtorEq] at ih ⊢
    split
    · -- a restart of this service moves `nstart` on, in the monitor as in the model
      simp only [rateFields, timeoutRun, Prod.mk.injEq] at ih ⊢
      exact ⟨ih.1, congrArg (· + 1) ih.2.1, ih.2.2⟩
    · exact ih
  | .cycle w probe :: run => by
    have ih := monitorRun_rateFields d sl i run
    simp only [monitorRun, serviceHistory, List.getElem?_map, Option.map_map, Function.comp_def]
    rw [validate_rateFields, withProbes_getElem?, Option.map_map]
    cases hx : (monitorRun d sl run)[i]? <;> cases hs : sl[i]? <;>
      simp only [hx, hs, Option.map_none', Option.map_some', Option.some.injEq,
        reduceCtorEq] at ih ⊢
    split
    · exact (checkTimeout_congr d ih).1
    · exact ih

/-- The service the run leaves at index `i`, with its counters those of the model. -/
theorem monitorRun_getElem? (d : Defs) {sl : List Service} {i : Nat} {s : Service}
    (hs : sl[i]? = some s) (run : List MonitorStep) :
    ∃ x, (monitorRun d sl run)[i]? = some x ∧
      rateFields x = rateFields (timeoutRun d s (serviceHistory d sl i run)) := by
  have h := monitorRun_rateFields d sl i run
  rw [hs, Option.map_some'] at h
  obtain ⟨x, hx, hrate⟩ := Option.map_eq_some'.1 h
  exact ⟨x, hx, hrate⟩

/-- The invariant reads only the rules and the counters. -/
theorem timeoutInv_of_rateFields {rules : List ActionRate} {h : List RestartStep} {s s' : Service}
    (hi : TimeoutInv rules h s') (hrate : rateFields s = rateFields s') : TimeoutInv rules h s := by
  obtain ⟨hr, hn, hc⟩ : s.actionratelist = s'.actionratelist ∧ s.nstart = s'.nstart ∧
      s.ncycle = s'.ncycle := by simpa [rateFields] using hrate
  exact ⟨hr ▸ hi.rules_eq, by rw [hn, hc]; exact hi.nstart_eq,
    fun h0 => hc ▸ hi.ncycle_of_nstart (hn ▸ h0), hc ▸ hi.ncycle_le⟩

/-- From fresh counters, every service keeps the invariant of the restart-rate model over
every run, with its own history. -/
theorem monitorRun_timeoutInv (d : Defs) {sl : List Service} {i : Nat} {s : Service}
    (hs : sl[i]? = some s) (hne : s.actionratelist ≠ []) (h0 : s.nstart = 0) (h1 : s.ncycle = 0)
    (run : List MonitorStep) :
    ∃ x, (monitorRun d sl run)[i]? = some x ∧
      TimeoutInv s.actionratelist (serviceHistory d sl i run) x := by
  obtain ⟨x, hx, hrate⟩ := monitorRun_getElem? d hs run
  exact ⟨x, hx, timeoutInv_of_rateFields (timeoutRun_inv hne h0 h1 _) hrate⟩

/-- The restart-rate quench of the monitor only fires on evidence: after any run from fresh
counters, a `Timeout FAILED` that the next cycle of `validate` posts for the `i`-th service
under a rule `(count, cycle, action)` is preceded by at least `count` restarts of that
service after the cycle that called its `check_timeout` `cycle` calls back. -/
theorem validate_quench_sound (d : Defs) (sl : List Service) (i : Nat) (s : Service)
    (hs : sl[i]? = some s) (hne : s.actionratelist ≠ []) (h0 : s.nstart = 0) (h1 : s.ncycle = 0)
    (run : List MonitorStep) (w : World) (probe : Nat → Probe) (j : Nat) (ar : ActionRate)
    (har : s.actionratelist[j]? = some ar)
    (hpost : ∃ y ∈ (validate d w (withProbes (monitorRun d sl run) probe)).2[i]?, ∃ e ∈ y.2,
      e.kind = .timeout ∧ e.state = .failed ∧ e.action = .rate j) :
    ar.count ≤ restartsSince ar.cycle (serviceHistory d sl i run) := by
  obtain ⟨x, hx, hi⟩ := monitorRun_timeoutInv d hs hne h0 h1 run
  obtain ⟨-, sp, hsp, e, he, hact⟩ := (validate_timeout_failed d w _ i _).1 hpost
  rw [withProbes_getElem?, hx, Option.map_some', Option.mem_def, Option.some.injEq] at hsp
  subst hsp
  exact hi.posts_le har ⟨e, he, (checkTimeout_action d he).1, (checkTimeout_action d he).2.1, hact⟩

/-- A process with one rule `(1, 2, alert)`, restarted once: the next cycle posts
`Timeout FAILED`, and its history holds the restart. -/
theorem validate_quench_sound_after_restart :
    let s : Service := { (default : Service) with
      type := .process, monitor := 1, actionratelist := [⟨1, 2, ⟨.alert⟩⟩] }
    ([s][0]? = some s ∧ s.actionratelist ≠ [] ∧ s.nstart = 0 ∧ s.ncycle = 0 ∧
      s.actionratelist[0]? = some ⟨1, 2, ⟨.alert⟩⟩ ∧
      ∃ y ∈ (validate default quietWorld
          (withProbes (monitorRun default [s] [.restart 0]) fun _ => sampleProbe)).2[0]?,
        ∃ e ∈ y.2, e.kind = .timeout ∧ e.state = .failed ∧ e.action = .rate 0) ∧
    1 ≤ restartsSince 2 (serviceHistory default [s] 0 [.restart 0]) := by
  intro s
  have hpost : ∃ y ∈ (validate default quietWorld
      (withProbes (monitorRun default [s] [.restart 0]) fun _ => sampleProbe)).2[0]?,
      ∃ e ∈ y.2, e.kind = .timeout ∧ e.state = .failed ∧ e.action = .rate 0 := by decide
  exact ⟨⟨rfl, by decide, rfl, rfl, rfl, hpost⟩, validate_quench_sound default [s] 0 s rfl
    (by decide) rfl rfl [.restart 0] quietWorld (fun _ => sampleProbe) 0 _ rfl hpost⟩

/-- The monitor's quench catches a burst when the counters are not in an older epoch: after
any run from fresh counters, if no restart of the `i`-th service happened between the cycles
that called its `check_timeout` `cycle + M + 1` and `cycle` calls back (`M` the largest
window), then `count` restarts after the latter make the next cycle that calls it post
`Timeout FAILED` for the rule `(count, cycle, action)`. -/
theorem validate_quench_after_quiet_window (d : Defs) (sl : List Service) (i : Nat)
    (s : Service) (hs : sl[i]? = some s) (hne : s.actionratelist ≠ []) (h0 : s.nstart = 0)
    (h1 : s.ncycle = 0) (run : List MonitorStep) (w : World) (probe : Nat → Probe) (j : Nat)
    (ar : ActionRate) (har : s.actionratelist[j]? = some ar)
    (hcalled : timeoutCalled d w (withProbes (monitorRun d sl run) probe) i = true)
    (hquiet : restartsSince (ar.cycle + largestCycle s.actionratelist + 1)
        (serviceHistory d sl i run) = restartsSince ar.cycle (serviceHistory d sl i run))
    (hburst : ar.count ≤ restartsSince ar.cycle (serviceHistory d sl i run)) :
    ∃ y ∈ (validate d w (withProbes (monitorRun d sl run) probe)).2[i]?, ∃ e ∈ y.2,
      e.kind = .timeout ∧ e.state = .failed ∧ e.action = .rate j := by
  obtain ⟨x, hx, hrate⟩ := monitorRun_getElem? d hs run
  have hi := timeoutRun_inv (d := d) hne h0 h1 (serviceHistory d sl i run)
  obtain ⟨hwin, hcount⟩ := timeoutRun_fresh_epoch (d := d) hne h0 h1 _
    (le_largestCycle (List.getElem?_mem har)) hquiet
  have hpost := (checkTimeout_posts d _ j).2 ⟨ar, hi.rules_eq ▸ har, hburst.trans hcount, hwin⟩
  rw [← (checkTimeout_congr d hrate).2] at hpost
  obtain ⟨e, he, -, -, hact⟩ := hpost
  refine (validate_timeout_failed d w _ i _).2 ⟨hcalled, (x, probe i), ?_, e, he, hact⟩
  rw [withProbes_getElem?, hx]
  rfl

/-- A process with one rule `(1, 2, alert)`: its first restart is caught by the next cycle. -/
theorem validate_quench_after_first_restart :
    let s : Service := { (default : Service) with
      type := .process, monitor := 1, actionratelist := [⟨1, 2, ⟨.alert⟩⟩] }
    let h := serviceHistory default [s] 0 [.restart 0]
    ([s][0]? = some s ∧ s.actionratelist ≠ [] ∧ s.nstart = 0 ∧ s.ncycle = 0 ∧
      s.actionratelist[0]? = some ⟨1, 2, ⟨.alert⟩⟩ ∧
      timeoutCalled default quietWorld
        (withProbes (monitorRun default [s] [.restart 0]) fun _ => sampleProbe) 0 = true ∧
      restartsSince (2 + largestCycle s.actionratelist + 1) h = restartsSince 2 h ∧
      1 ≤ restartsSince 2 h) ∧
    ∃ y ∈ (validate default quietWorld
        (withProbes (monitorRun default [s] [.restart 0]) fun _ => sampleProbe)).2[0]?,
      ∃ e ∈ y.2, e.kind = .timeout ∧ e.state = .failed ∧ e.action = .rate 0 := by
  intro s h
  have hcalled : timeoutCalled default quietWorld
      (withProbes (monitorRun default [s] [.restart 0]) fun _ => sampleProbe) 0 = true := by decide
  exact ⟨⟨rfl, by decide, rfl, rfl, rfl, hcalled, by decide, by decide⟩,
    validate_quench_after_quiet_window default [s] 0 s rfl (by decide) rfl rfl [.restart 0]
      quietWorld (fun _ => sampleProbe) 0 _ rfl hcalled (by decide) (by decide)⟩

end MonitValidation.Driver
