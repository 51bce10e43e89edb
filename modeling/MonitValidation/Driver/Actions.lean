import MonitValidation.Driver.Tail

/-!
# Scheduled actions

A control action requested for a service (`s->doaction`) is run by `do_scheduled_action`: it
calls `control_service`, posts `Action CHANGED` naming the action, and clears the request. When
`Run.doaction` is set, a cycle calls it twice for every service: once in the first loop, over
the whole list, and again in the service loop, where the request is already cleared. Without
`Run.doaction` only the service loop calls it, for the services it reaches before
`Run.stopped`.

The validators write only their own fields of the service (`withChecks`) and the control layer
only the monitor word and the visit mark, so nothing else in a cycle touches the request. So a
cycle announces a pending action exactly when it runs the service's scheduled action, in either
loop, and never twice. Over a run of the monitor the action is announced by the first cycle
that runs it, with the action's name, and by no later cycle. When no cycle runs it, it stays
pending and nothing is announced.
-/

namespace MonitValidation.Driver

open MonitValidation.Scheduler MonitValidation.Validators MonitValidation.Tests
  MonitValidation.Content

/-! ## What a validator writes -/

/-- The service `s` with the fields the validators write taken from `t`: the snapshot, the
checksum, the size, timestamp and content tests, the ports, the ICMP tests and the program. -/
def withChecks (s t : Service) : Service :=
  { s with
    inf := t.inf, checksum := t.checksum, sizelist := t.sizelist,
    timestamplist := t.timestamplist, matchlist := t.matchlist, portlist := t.portlist,
    icmplist := t.icmplist, program := t.program }

/-- Writing only the validators' fields, twice in a row, writes only them. -/
theorem withChecks_trans {s a b : Service} (ha : a = withChecks s a) (hb : b = withChecks a b) :
    b = withChecks s b :=
  calc b = withChecks a b := hb
    _ = withChecks (withChecks s a) b := by rw [← ha]
    _ = withChecks s b := rfl

theorem checkChecksum_withChecks (s : Service) (computed : Option String) :
    (checkChecksum s computed).1 = withChecks s (checkChecksum s computed).1 := by
  unfold checkChecksum
  rcases s.checksum with _ | cs <;> rcases computed with _ | sum <;> try rfl
  dsimp only
  rcases hashLength _ with _ | n
  · rfl
  · simp only [apply_ite Prod.fst]
    split_ifs <;> rfl

theorem checkTimestamp_withChecks (s : Service) (now : Int) :
    (checkTimestamp s now).1 = withChecks s (checkTimestamp s now).1 := by
  unfold checkTimestamp; split <;> rfl

theorem checkMatch_withChecks (pattern : String → List UInt8 → Bool) (file : Option (List UInt8))
    (s : Service) : (checkMatch pattern file s).1 = withChecks s (checkMatch pattern file s).1 := by
  unfold checkMatch; split <;> rfl

theorem fileFound_withChecks (pattern : String → List UInt8 → Bool) (computed : Option String)
    (time : Int) (file : Option (List UInt8)) (s : Service) :
    (fileFound pattern computed time file s).2.1 =
      withChecks s (fileFound pattern computed time file s).2.1 := by
  unfold fileFound
  split
  · rfl
  dsimp only
  have hcs : (if s.checksum.isSome then checkChecksum s computed else (s, [])).1 =
      withChecks s (if s.checksum.isSome then checkChecksum s computed else (s, [])).1 := by
    split
    · exact checkChecksum_withChecks ..
    · rfl
  generalize (if s.checksum.isSome then checkChecksum s computed else (s, [])) = cs at hcs ⊢
  have hsize : (if cs.1.sizelist.isEmpty then (cs.1, []) else checkSize cs.1).1 =
      withChecks s (if cs.1.sizelist.isEmpty then (cs.1, []) else checkSize cs.1).1 :=
    withChecks_trans hcs (by split <;> rfl)
  generalize (if cs.1.sizelist.isEmpty then (cs.1, []) else checkSize cs.1) = size at hsize ⊢
  have hts : (if size.1.timestamplist.isEmpty then (size.1, [])
      else checkTimestamp size.1 time).1 = withChecks s (if size.1.timestamplist.isEmpty
        then (size.1, []) else checkTimestamp size.1 time).1 := by
    refine withChecks_trans hsize ?_
    split
    · rfl
    · exact checkTimestamp_withChecks ..
  generalize (if size.1.timestamplist.isEmpty then (size.1, [])
    else checkTimestamp size.1 time) = ts at hts ⊢
  refine withChecks_trans hts ?_
  split
  · rfl
  · exact checkMatch_withChecks ..

theorem checkFile_withChecks (pattern : String → List UInt8 → Bool) (stat : Option Stat)
    (computed : Option String) (time : Int) (file : Option (List UInt8)) (s : Service) :
    (checkFile pattern stat computed time file s).2.1 =
      withChecks s (checkFile pattern stat computed time file s).2.1 := by
  unfold checkFile; split
  · rfl
  · exact withChecks_trans (s := s) rfl (fileFound_withChecks ..)

theorem checkNode_withChecks (isType : Nat → Bool) (missing found notType typed : String)
    (stat : Option Stat) (time : Int) (s : Service) :
    (checkNode isType missing found notType typed stat time s).2.1 =
      withChecks s (checkNode isType missing found notType typed stat time s).2.1 := by
  simp only [checkNode]
  repeat' split
  all_goals first | rfl | exact withChecks_trans (s := s) rfl (checkTimestamp_withChecks ..)

theorem checkProcess_withChecks (d : Defs) (si : SystemInfo) (doprocess : Bool) (pid : Int)
    (data : Option ProcessInfo) (written : Nat → Control) (attempt : Nat → Nat → Attempt)
    (s : Service) :
    (checkProcess d si doprocess pid data written attempt s).2.1 =
      withChecks s (checkProcess d si doprocess pid data written attempt s).2.1 := by
  simp only [checkProcess, sampleProcess]
  repeat' split
  all_goals rfl

theorem checkFilesystem_withChecks (d : Defs) (lstat : Option Stat)
    (realpath : Except String String) (stat : Option Stat) (usage : Option FilesystemInfo)
    (s : Service) : (checkFilesystem d lstat realpath stat usage s).2.1 =
      withChecks s (checkFilesystem d lstat realpath stat usage s).2.1 := by
  simp only [checkFilesystem, filesystemExists]
  repeat' split
  all_goals rfl

theorem checkRemoteHost_withChecks (d : Defs) (echo : Nat → EchoResult)
    (attempt : Nat → Nat → Attempt) (s : Service) :
    (checkRemoteHost d echo attempt s).2.1 = withChecks s (checkRemoteHost d echo attempt s).2.1 := by
  simp only [checkRemoteHost]
  repeat' split
  all_goals rfl

theorem checkProgram_withChecks (d : Defs) (s : Service) (now : Int)
    (spawn : Except String Process) :
    (checkProgram d s now spawn).1 = withChecks s (checkProgram d s now spawn).1 := by
  simp only [checkProgram, reapProgram, startProgram]
  repeat' split
  all_goals rfl

/-- The validator of every type writes only the validators' fields of the service. -/
theorem checkService_withChecks (d : Defs) (w : World) (p : Probe) (s : Service) :
    (checkService d w p s).2.1 = withChecks s (checkService d w p s).2.1 := by
  unfold checkService; split
  · exact checkProcess_withChecks ..
  · exact checkFilesystem_withChecks ..
  · exact checkFile_withChecks ..
  · exact checkNode_withChecks ..
  · exact checkNode_withChecks ..
  · exact checkProgram_withChecks ..
  · exact checkRemoteHost_withChecks ..
  · rfl

/-- So no validator touches the scheduled action. -/
theorem checkService_doaction (d : Defs) (w : World) (p : Probe) (s : Service) :
    (checkService d w p s).2.1.doaction = s.doaction := by
  rw [checkService_withChecks]; rfl

/-! ## One cycle -/

/-- What `do_scheduled_action` posts: `Action CHANGED` naming the pending action, or nothing. -/
theorem doScheduledAction_events (d : Defs) (control : Bool) (written : Control) (s : Service) :
    (doScheduledAction d control written s).2.2 =
      if s.doaction ≠ .ignore then
        [post .action .changed .action "%s action done" [.str (d.actionnames s.doaction)]]
      else [] := by
  unfold doScheduledAction; split <;> rfl

theorem checkSkip_doaction (d : Defs) (incron : String → Int → Bool) (s : Service) (t : Int) :
    (checkSkip d incron s t).2.doaction = s.doaction := by
  unfold checkSkip; split
  · rfl
  · dsimp only; split <;> (try split) <;> rfl

theorem checkTimeout_doaction (d : Defs) (s : Service) :
    (checkTimeout d s).1.doaction = s.doaction := by
  unfold checkTimeout; split
  · rfl
  · dsimp only; split <;> split <;> rfl

/-- The loop body leaves no action pending, and the only `Action` events it posts are those of
its scheduled action: no validator posts one. -/
theorem validateService_action (d : Defs) (w : World) (p : Probe) (s : Service) :
    (validateService d w p s).2.1.doaction = .ignore ∧
      (validateService d w p s).2.2.filter (fun e => e.kind = .action) =
        (doScheduledAction d p.control p.onAction s).2.2 := by
  constructor
  · unfold validateService
    dsimp only
    repeat' split
    all_goals simp only [Control.apply_doaction, checkService_doaction, checkTimeout_doaction,
      checkSkip_doaction, doScheduledAction_doaction]
  · obtain ⟨rest, hsplit, hrest⟩ := validateService_split d w p s
    have hnone : rest.filter (fun e => e.kind = .action) = [] := by
      refine List.filter_eq_nil_iff.2 fun e he hk => ?_
      have hmem := hrest.kind_mem he
      rw [of_decide_eq_true hk] at hmem
      revert hmem
      cases s.type <;> decide
    rw [hsplit, List.filter_append, hnone, List.append_nil, doScheduledAction_events]
    split <;> rfl

/-- Whether a cycle on the list `sl` runs the scheduled action of its `i`-th service: under
`Run.doaction` the first loop runs it, and otherwise the service loop does when it reaches the
service before `Run.stopped`. -/
def actionRuns (w : World) (sl : List (Service × Probe)) (i : Nat) : Bool :=
  w.doaction || (sl.take (i + 1)).all fun y => !y.2.stopped

/-- One cycle on the `i`-th service's request: when the cycle runs its scheduled action, the
request is cleared and the cycle's `Action` events for it are those one call of
`do_scheduled_action` posts, in whichever loop it ran; otherwise the request stays and the
cycle posts none. -/
theorem validate_action (d : Defs) (w : World) {sl : List (Service × Probe)} {i : Nat}
    {sp : Service × Probe} (h : sl[i]? = some sp) :
    ∃ y ∈ (validate d w sl).2[i]?,
      y.1.doaction = (if actionRuns w sl i then .ignore else sp.1.doaction) ∧
      y.2.filter (fun e => e.kind = .action) =
        if actionRuns w sl i then (doScheduledAction d sp.2.control sp.2.onAction sp.1).2.2
        else [] := by
  rw [validate_getElem?, h, Option.map_some']
  refine ⟨_, rfl, ?_⟩
  have hpa := validateService_action d w sp.2 (loopInput d w sp)
  have hev : ∀ e ∈ (doScheduledAction d sp.2.control sp.2.onAction sp.1).2.2,
      e.kind = .action := (doScheduledAction_oneKind ..).1
  cases hdo : w.doaction
  · -- only the service loop runs the action, on the service as the loop finds it
    have hin : loopInput d w sp = sp.2.before.apply sp.1 := by simp [loopInput, hdo]
    simp only [actionRuns, pendingEvents, hdo, Bool.false_or, Bool.false_eq_true, if_false]
    split
    · next hall =>
      simp only [hall, if_true]
      refine ⟨hpa.1, ?_⟩
      rw [List.nil_append, hpa.2, hin, doScheduledAction_events, doScheduledAction_events,
        Control.apply_doaction]
    · next hall =>
      simp only [hall, if_false]
      exact ⟨by rw [hin]; rfl, rfl⟩
  · -- the first loop runs it; the service loop finds nothing pending
    have hcleared : (loopInput d w sp).doaction = .ignore := by
      simp only [loopInput, hdo, if_true, Control.apply_doaction, actionPass]
      exact doScheduledAction_doaction ..
    have hidle := doScheduledAction_idle d sp.2.control sp.2.onAction hcleared
    simp only [actionRuns, pendingEvents, hdo, Bool.true_or, if_true, actionPass]
    split
    · refine ⟨hpa.1, ?_⟩
      rw [List.filter_append, hpa.2, hidle, List.append_nil,
        List.filter_eq_self.2 fun e he => decide_eq_true (hev e he)]
    · exact ⟨hcleared, List.filter_eq_self.2 fun e he => decide_eq_true (hev e he)⟩

/-! ## Runs of the monitor -/

/-- Whether some cycle of the run ran the `i`-th service's scheduled action. -/
def actionRan (d : Defs) (sl : List Service) (i : Nat) : List MonitorStep → Bool
  | [] => false
  | .restart _ :: run => actionRan d sl i run
  | .cycle w probe :: run =>
    actionRan d sl i run || actionRuns w (withProbes (monitorRun d sl run) probe) i

/-- The `Action` events the cycles of a run post for the `i`-th service, oldest first. -/
def actionHistory (d : Defs) (sl : List Service) (i : Nat) : List MonitorStep → List Event
  | [] => []
  | .restart _ :: run => actionHistory d sl i run
  | .cycle w probe :: run =>
    actionHistory d sl i run ++
      (((validate d w (withProbes (monitorRun d sl run) probe)).2[i]?.map fun y =>
        y.2.filter fun e => e.kind = .action).getD [])

/-- Over every run of the monitor, the action requested for the `i`-th service at the start is
announced once, by name, when some cycle runs it, and never otherwise; the request is cleared
exactly when some cycle ran it. -/
theorem monitorRun_action_once (d : Defs) {sl : List Service} {i : Nat} {s : Service}
    (hs : sl[i]? = some s) : ∀ run : List MonitorStep,
    actionHistory d sl i run =
      (if s.doaction ≠ .ignore ∧ actionRan d sl i run = true then
        [post .action .changed .action "%s action done" [.str (d.actionnames s.doaction)]]
      else []) ∧
    ∃ x ∈ (monitorRun d sl run)[i]?,
      x.doaction = if actionRan d sl i run then .ignore else s.doaction
  | [] => by
    refine ⟨?_, s, hs, rfl⟩
    simp [actionHistory, actionRan]
  | .restart j :: run => by
    obtain ⟨hl, x, hx, hxa⟩ := monitorRun_action_once d hs run
    exact ⟨hl, _, monitorRun_restart hx, by split <;> exact hxa⟩
  | .cycle w probe :: run => by
    obtain ⟨hl, x, hx, hxa⟩ := monitorRun_action_once d hs run
    obtain ⟨y, hy, hya, hyev⟩ := validate_action d w (withProbes_getElem?_some probe hx)
    rw [Option.mem_def] at hy
    refine ⟨?_, y.1, monitorRun_cycle hy, ?_⟩
    · rw [actionHistory, hy, Option.map_some', Option.getD_some, hyev, hl, actionRan,
        doScheduledAction_events]
      cases hran : actionRan d sl i run
      · -- the request is still the original one
        simp only [hran, Bool.false_eq_true, if_false] at hxa
        cases actionRuns w (withProbes (monitorRun d sl run) probe) i <;> simp [hxa]
      · -- an earlier cycle ran it: nothing is pending any more
        simp only [hran, if_true] at hxa
        simp [hxa]
    · rw [hya, actionRan]
      cases hran : actionRan d sl i run
      · simp only [hran, Bool.false_eq_true, if_false] at hxa
        simp [hxa]
      · simp only [hran, if_true] at hxa
        simp [hxa]

/-- A pending restart whose first cycle finds the monitor stopped and whose second runs: the
request waits through the first cycle and is announced once, by the second. -/
theorem monitorRun_action_once_after_stop :
    let s : Service := { (default : Service) with doaction := .restart }
    let run : List MonitorStep := [.cycle quietWorld fun _ => sampleProbe,
      .cycle quietWorld fun _ => { sampleProbe with stopped := true }]
    [s][0]? = some s ∧ actionRan default [s] 0 (run.drop 1) = false ∧
      actionRan default [s] 0 run = true ∧
      actionHistory default [s] 0 run =
        [post .action .changed .action "%s action done" [.str ((default : Defs).actionnames .restart)]] ∧
      ∃ x ∈ (monitorRun default [s] run)[0]?, x.doaction = .ignore := by
  intro s run
  have h1 : actionRan default [s] 0 (run.drop 1) = false := by decide
  have h2 : actionRan default [s] 0 run = true := by decide
  obtain ⟨hl, hx⟩ := @monitorRun_action_once default [s] 0 s rfl run
  simp only [h2, if_true] at hl hx
  exact ⟨rfl, h1, h2, by rw [hl, if_pos ⟨by decide, trivial⟩], hx⟩

end MonitValidation.Driver
