import MonitValidation.Scheduler.Skip
import MonitValidation.Scheduler.Timeout
import MonitValidation.Validators.Kinds
import MonitValidation.Validators.Program

/-!
# The cycle driver `validate`

`validate()` runs once per monitoring cycle. Under `Run.doaction` it first performs the
scheduled action of every service; it then walks the service list in order until
`Run.stopped` is set: a service whose scheduled action ran, that is not monitored, or whose
schedule skips this cycle is left alone; otherwise `check_timeout` runs, then (if the
service is still monitored) the validator of its type, `s->check`. The number of validators
that returned `FALSE` is returned; every service's dependency mark is cleared at the end.

Everything the world answers in a cycle is a parameter: per cycle the `Run` flags, the
clock, the system snapshot, the cron evaluator and the pattern matcher (`World`); per
service what each probe, the control layer and the event sink answer (`Probe`).

`control_service` and the sink's actions on the events posted may write into the service
under check and, through its dependencies, into any other service of the list: they
unmonitor it, start or monitor it again (`MONITOR_INIT`), and mark it visited (`Control`).
What they write is a world answer at each point where the code can hand control to them:
when the scheduled action of the service runs; before the loop reaches it (the quick loop
and the turns of the services before it); after `check_timeout` posts; within and after its
validator; and after its turn (the turns of the services after it). This is why `validate`
reads `s->monitor` again after `check_timeout` and after the validator. Of the fields
`validate.c` reads, these writes change the monitor word and the visit mark; the restart
counter the control layer moves is a step of a run between cycles (`MonitorStep.restart`),
and the sink's error bits are read as the service holds them.

The events are kept per service, in posting order. Each validator follows a post plan, so
in one cycle a service posts under a key at most once, except under three kinds, where two
of its sub-tests share an action record: a process clears the `Timeout` errors of the
action-rate rules that `check_timeout` may just have failed; a file posts `Data` from the
checksum test and again from the timestamp test; a filesystem behind a symbolic link posts
`Nonexist` for the link and again for its target.
-/

namespace MonitValidation.Driver

open MonitValidation.Scheduler MonitValidation.Validators MonitValidation.Tests

/-- `do_scheduled_action(s)`: `control` is what `control_service` returns and `written` what
it and the sink write into the service. The action event is posted whatever the control
layer answered. -/
def doScheduledAction (d : Defs) (control : Bool) (written : Control) (s : Service) :
    Bool × Service × List Event :=
  if s.doaction ≠ .ignore then
    (control, { written.apply s with doaction := .ignore, token := none },
      [post .action .changed .action "%s action done" [.str (d.actionnames s.doaction)]])
  else (false, s, [])

/-- What the world answers in one cycle, for all services. -/
structure World where
  /-- `Run.doaction`: some action is pending -/
  doaction : Bool
  /-- `Run.doprocess`: process sampling is enabled -/
  doprocess : Bool
  /-- `Time_now()` at the start of the service loop -/
  now : Int
  systeminfo : SystemInfo
  /-- `Time_incron` -/
  incron : String → Int → Bool
  /-- the content-pattern matcher of `check_pattern` -/
  pattern : String → List UInt8 → Bool

/-- What the world answers for one service in one cycle. -/
structure Probe where
  /-- `Run.stopped` when the loop reaches the service -/
  stopped : Bool
  /-- what `control_service` returns for the scheduled action -/
  control : Bool
  /-- what the scheduled action writes into the service -/
  onAction : Control
  /-- what the quick loop and the turns of the services before it write into the service
  before the loop reaches it -/
  before : Control
  /-- what the sink's actions on the events of `check_timeout` write -/
  onTimeout : Control
  /-- what the sink's actions on the validator's events have written when its `i`-th
  resource rule is tested -/
  onResource : Nat → Control
  /-- what the sink's actions on the validator's events write -/
  onCheck : Control
  /-- what the turns of the services after it write -/
  after : Control
  /-- `gettimeofday` for `s->collected` -/
  collected : Timeval
  /-- `Util_isProcessRunning`, `0` when the process does not run -/
  pid : Int
  /-- `update_process_data`, `none` when it fails -/
  processData : Option ProcessInfo
  lstat : Option Stat
  realpath : Except String String
  stat : Option Stat
  /-- `filesystem_usage`, `none` when it fails -/
  usage : Option FilesystemInfo
  /-- `Util_getChecksum`, `none` when it fails -/
  checksum : Option String
  /-- `time()` in `check_timestamp` -/
  time : Int
  /-- the content `check_match` opens, `none` when `fopen` fails -/
  content : Option (List UInt8)
  /-- `icmp_echo` for the `i`-th ICMP test -/
  echo : Nat → EchoResult
  /-- the `k`-th connection attempt at the `i`-th port -/
  attempt : Nat → Nat → Attempt
  /-- `Time_now()` in `check_program` -/
  clock : Int
  /-- `Command_execute` -/
  spawn : Except String Process

/-- `s->check(s)`: the validator of the service's type. -/
def checkService (d : Defs) (w : World) (p : Probe) (s : Service) : Bool × Service × List Event :=
  match s.type with
  | .process =>
    checkProcess d w.systeminfo w.doprocess p.pid p.processData p.onResource p.attempt s
  | .filesystem => checkFilesystem d p.lstat p.realpath p.stat p.usage s
  | .file => checkFile w.pattern p.stat p.checksum p.time p.content s
  | .directory => checkDirectory p.stat p.time s
  | .fifo => checkFifo p.stat p.time s
  | .program =>
    let r := checkProgram d s p.clock p.spawn
    (true, r.1, r.2.1)
  | .host => checkRemoteHost d p.echo p.attempt s
  | .system => checkSystem d w.systeminfo p.onResource s

/-- The body of the service loop of `validate` for one service: whether its validator
returned `FALSE` (`errors++`), the service, and the events posted for it. -/
def validateService (d : Defs) (w : World) (p : Probe) (s : Service) :
    Bool × Service × List Event :=
  let a := doScheduledAction d p.control p.onAction s
  if a.1 = false ∧ a.2.1.monitor ≠ 0 then
    let sk := checkSkip d w.incron a.2.1 w.now
    if sk.1 = false then
      let t := checkTimeout d sk.2
      let s := p.onTimeout.apply t.1
      if s.monitor ≠ 0 then
        let c := checkService d w p s
        let s := p.onCheck.apply c.2.1
        let s := if s.monitor ≠ d.MONITOR_NOT then { s with monitor := d.MONITOR_YES } else s
        (!c.1, { s with collected := p.collected }, a.2.2 ++ t.2 ++ c.2.2)
      else (false, { s with collected := p.collected }, a.2.2 ++ t.2)
    else (false, sk.2, a.2.2)
  else (false, a.2.1, a.2.2)

/-- The first loop of `validate`, under `Run.doaction`, for one service: the service with
its probe, and the events already posted for it. -/
def actionPass (d : Defs) (sp : Service × Probe) : Service × Probe × List Event :=
  let r := doScheduledAction d sp.2.control sp.2.onAction sp.1
  (r.2.1, sp.2, r.2.2)

/-- The service loop of `validate`: each service with its probe and the events already
posted for it; it stops at the first service at which `Run.stopped` is set. Each service is
taken as the writes before its turn have left it, and left to the writes after it. -/
def checkLoop (d : Defs) (w : World) :
    List (Service × Probe × List Event) → Nat × List (Service × List Event)
  | [] => (0, [])
  | (s, p, evs) :: rest =>
    if p.stopped then (0, ((s, p, evs) :: rest).map fun x => (x.2.1.before.apply x.1, x.2.2))
    else
      let r := validateService d w p (p.before.apply s)
      let after := checkLoop d w rest
      ((if r.1 then 1 else 0) + after.1, (p.after.apply r.2.1, evs ++ r.2.2) :: after.2)

/-- `reset_depend()`: the dependency walker's visit mark is cleared. -/
def resetDepend (s : Service) : Service := { s with visited := false }

/-- `validate()`: the number of validators that returned `FALSE`, and every service of the
list, in order, as the cycle leaves it, with the events posted for it in the cycle. -/
def validate (d : Defs) (w : World) (servicelist : List (Service × Probe)) :
    Nat × List (Service × List Event) :=
  let pending := if w.doaction then servicelist.map (actionPass d)
    else servicelist.map fun sp => (sp.1, sp.2, [])
  let r := checkLoop d w pending
  (r.1, r.2.map fun x => (resetDepend x.1, x.2))

/-- The service as the loop reaches it: its scheduled action performed by the quick loop
under `Run.doaction`, and the writes before its turn applied. -/
def loopInput (d : Defs) (w : World) (sp : Service × Probe) : Service :=
  sp.2.before.apply (if w.doaction then (actionPass d sp).1 else sp.1)

/-- The events posted for a service before the loop reaches it: those of its scheduled
action, under `Run.doaction`. -/
def pendingEvents (d : Defs) (w : World) (sp : Service × Probe) : List Event :=
  if w.doaction then (actionPass d sp).2.2 else []

/-! ## What each step keeps -/

theorem doScheduledAction_type (d : Defs) (control : Bool) (written : Control) (s : Service) :
    (doScheduledAction d control written s).2.1.type = s.type := by
  unfold doScheduledAction; split <;> rfl

theorem doScheduledAction_doaction (d : Defs) (control : Bool) (written : Control)
    (s : Service) : (doScheduledAction d control written s).2.1.doaction = .ignore := by
  unfold doScheduledAction; split
  · rfl
  · next h => simpa using h

/-- Once the scheduled action ran, a second call does nothing. -/
theorem doScheduledAction_idle (d : Defs) (control : Bool) (written : Control) {s : Service}
    (h : s.doaction = .ignore) : doScheduledAction d control written s = (false, s, []) := by
  simp [doScheduledAction, h]

theorem doScheduledAction_oneKind (d : Defs) (control : Bool) (written : Control)
    (s : Service) : OneKind .action (doScheduledAction d control written s).2.2 := by
  unfold doScheduledAction; split
  · exact oneKind_post ..
  · exact oneKind_nil _

theorem checkSkip_type (d : Defs) (incron : String → Int → Bool) (s : Service) (t : Int) :
    (checkSkip d incron s t).2.type = s.type := by
  unfold checkSkip; split
  · rfl
  · dsimp only; split <;> (try split) <;> rfl

theorem checkTimeout_type (d : Defs) (s : Service) : (checkTimeout d s).1.type = s.type := by
  unfold checkTimeout; split
  · rfl
  · dsimp only; split <;> split <;> rfl

/-! ## Post plans of a cycle -/

/-- The kinds of the sub-tests of each validator, in posting order. -/
def checkKinds : ServiceType → List EventKind
  | .process => [.nonexist, .exec, .timeout, .data, .pid, .ppid, .uptime, .resource, .connection]
  | .filesystem => [.nonexist, .nonexist, .data, .permission, .uid, .gid, .fsflag, .resource]
  | .file => [.nonexist, .invalid, .data, .checksum, .permission, .uid, .gid, .size, .data,
      .timestamp, .content]
  | .directory | .fifo => [.nonexist, .invalid, .permission, .uid, .gid, .data, .timestamp]
  | .program => [.status]
  | .host => [.icmp, .connection]
  | .system => [.resource]

theorem checkService_plan (d : Defs) (w : World) (p : Probe) (s : Service) :
    PostPlan (checkKinds s.type) (checkService d w p s).2.2 := by
  unfold checkService
  split <;> rename_i h <;> rw [h]
  · exact checkProcess_plan ..
  · exact checkFilesystem_plan ..
  · exact checkFile_plan ..
  · exact checkNode_plan ..
  · exact checkNode_plan ..
  · exact checkProgram_plan ..
  · exact checkRemoteHost_plan ..
  · exact checkSystem_plan ..

theorem checkTimeout_oneKind (d : Defs) (s : Service) : OneKind .timeout (checkTimeout d s).2 :=
  oneKind_of_sublist_range ActionRef.rate (fun _ _ h => by injection h) (checkTimeout_keys d s)

/-- The events of one pass of the loop: those of the scheduled action, then the rest, which
follow `check_timeout` and the validator of the service's type. -/
theorem validateService_split (d : Defs) (w : World) (p : Probe) (s : Service) :
    ∃ rest,
      (validateService d w p s).2.2 = (doScheduledAction d p.control p.onAction s).2.2 ++ rest ∧
      PostPlan (.timeout :: checkKinds s.type) rest := by
  unfold validateService
  dsimp only
  split
  · split
    · split
      · refine ⟨_, List.append_assoc .., PostPlan.cons (checkTimeout_oneKind ..) ?_⟩
        rw [← doScheduledAction_type d p.control p.onAction s,
          ← checkSkip_type d w.incron _ w.now, ← checkTimeout_type d, ← Control.apply_type p.onTimeout]
        exact checkService_plan ..
      · exact ⟨_, rfl, PostPlan.head (checkTimeout_oneKind ..)⟩
    · exact ⟨[], by simp, PostPlan.empty _⟩
  · exact ⟨[], by simp, PostPlan.empty _⟩

/-- Events posted for a service before the loop reaches it: those of its scheduled action,
which leaves nothing scheduled. -/
def Pending (x : Service × Probe × List Event) : Prop :=
  OneKind .action x.2.2 ∧ (x.2.2 = [] ∨ x.1.doaction = .ignore)

/-- A service's events over the whole cycle follow the plan of its type, behind one part for
its scheduled action and one for `check_timeout`. -/
theorem cycle_plan (d : Defs) (w : World) {s : Service} {p : Probe} {evs : List Event}
    (h : Pending (s, p, evs)) :
    PostPlan (.action :: .timeout :: checkKinds s.type) (evs ++ (validateService d w p s).2.2) := by
  obtain ⟨rest, hsplit, hrest⟩ := validateService_split d w p s
  rw [hsplit]
  rcases h.2 with hnil | hidle
  · subst hnil
    rw [List.nil_append]
    exact PostPlan.cons (doScheduledAction_oneKind ..) hrest
  · have hidle : s.doaction = .ignore := hidle
    rw [doScheduledAction_idle d p.control p.onAction hidle]
    exact PostPlan.cons h.1 hrest

/-- The service loop pairs every service with its events of the cycle, which follow its
plan. -/
theorem checkLoop_plan (d : Defs) (w : World) :
    ∀ l : List (Service × Probe × List Event), (∀ x ∈ l, Pending x) →
      List.Forall₂ (fun x y => PostPlan (.action :: .timeout :: checkKinds x.1.type) y.2)
        l (checkLoop d w l).2
  | [], _ => List.Forall₂.nil
  | (s, p, evs) :: rest, h => by
    unfold checkLoop
    split
    · exact List.forall₂_map_right_iff.2 (List.forall₂_same.2 fun x hx => PostPlan.head (h x hx).1)
    · have hs := h _ (List.mem_cons_self _ _)
      exact List.Forall₂.cons (cycle_plan (s := p.before.apply s) d w hs)
        (checkLoop_plan d w rest fun x hx => h x (List.mem_cons_of_mem _ hx))

/-- Every service's events of a cycle follow the plan of its type. -/
theorem validate_plan (d : Defs) (w : World) (servicelist : List (Service × Probe)) :
    List.Forall₂ (fun x y => PostPlan (.action :: .timeout :: checkKinds x.1.type) y.2)
      servicelist (validate d w servicelist).2 := by
  unfold validate
  simp only [List.forall₂_map_right_iff]
  split
  · refine (List.forall₂_map_left_iff.1 (checkLoop_plan d w _ ?_)).imp fun x y h => ?_
    · simp only [List.mem_map]
      rintro _ ⟨x, -, rfl⟩
      exact ⟨doScheduledAction_oneKind .., .inr (doScheduledAction_doaction ..)⟩
    · simpa only [actionPass, doScheduledAction_type] using h
  · have hloop := checkLoop_plan d w (servicelist.map fun sp => (sp.1, sp.2, [])) ?_
    · exact List.forall₂_map_left_iff.1 hloop
    simp only [List.mem_map]
    rintro _ ⟨x, -, rfl⟩
    exact ⟨oneKind_nil _, .inl rfl⟩

/-! ## Sample inputs -/

/-- A world in which nothing is pending, sampling is off, and every cron spec matches. -/
def quietWorld : World := ⟨false, false, 0, default, fun _ _ => true, fun _ _ => false⟩

/-- A probe in which the process runs with pid `42`, no file exists, the checksum cannot
be computed, a symbolic link resolves to `/mnt`, and the clock reads `1000`. -/
def sampleProbe : Probe where
  stopped := false
  control := false
  onAction := .keep
  before := .keep
  onTimeout := .keep
  onResource := fun _ => .keep
  onCheck := .keep
  after := .keep
  collected := default
  pid := 42
  processData := none
  lstat := none
  realpath := .ok "/mnt"
  stat := none
  usage := none
  checksum := none
  time := 1000
  content := none
  echo := fun _ => .noReply
  attempt := fun _ _ => default
  clock := 0
  spawn := .error ""

/-! ## Cancellation -/

/-- The service loop checks the services before the first one at which `Run.stopped` is
set, and leaves that one and every later one as the writes before their turns left them,
with the events already posted for them. -/
theorem checkLoop_stopped (d : Defs) (w : World) (x : Service × Probe × List Event)
    (post : List (Service × Probe × List Event)) (hx : x.2.1.stopped = true) :
    ∀ pre : List (Service × Probe × List Event), (∀ y ∈ pre, y.2.1.stopped = false) →
      (checkLoop d w (pre ++ x :: post)).2.drop pre.length =
        (x :: post).map fun y => (y.2.1.before.apply y.1, y.2.2)
  | [], _ => by
    obtain ⟨s, p, evs⟩ := x
    simp only at hx
    simp [checkLoop, hx]
  | (s, p, evs) :: pre, hpre => by
    have hp : p.stopped = false := hpre (s, p, evs) (List.mem_cons_self _ _)
    simp only [List.cons_append, checkLoop, hp, Bool.false_eq_true, if_false, List.length_cons,
      List.drop_succ_cons]
    exact checkLoop_stopped d w x post hx pre fun y hy => hpre y (List.mem_cons_of_mem _ hy)

/-- `Run.stopped` ends the cycle between two services: from the first service at which it is
set on, no service is checked. Each is left as the loop would have found it, with only its
scheduled action performed, under `Run.doaction`, and the writes of the control layer before
its turn, and with the dependency mark cleared. -/
theorem validate_stopped (d : Defs) (w : World) (pre post : List (Service × Probe))
    (x : Service × Probe) (hpre : ∀ y ∈ pre, y.2.stopped = false) (hx : x.2.stopped = true) :
    (validate d w (pre ++ x :: post)).2.drop pre.length =
      (x :: post).map fun y => (resetDepend (loopInput d w y), pendingEvents d w y) := by
  -- whichever first loop ran, it kept every probe, so the service loop stops at `x`
  have hloop : ∀ f : Service × Probe → Service × Probe × List Event, (∀ y, (f y).2.1 = y.2) →
      ((checkLoop d w ((pre ++ x :: post).map f)).2.map fun y => (resetDepend y.1, y.2)).drop
          pre.length =
        (x :: post).map fun y => (resetDepend (y.2.before.apply (f y).1), (f y).2.2) := by
    intro f hf
    have hpre' : ∀ y ∈ pre.map f, y.2.1.stopped = false := fun y hy => by
      obtain ⟨z, hz, rfl⟩ := List.mem_map.1 hy
      rw [hf]
      exact hpre z hz
    have h := checkLoop_stopped d w (f x) (post.map f) (by rw [hf]; exact hx) (pre.map f) hpre'
    rw [List.length_map] at h
    rw [List.map_append, List.map_cons, ← List.map_drop, h]
    simp [hf]
  unfold validate loopInput pendingEvents
  split <;> next hdo => simpa [hdo] using hloop _ fun _ => rfl

/-- Of two services, the second is reached with `Run.stopped` set while its stop action is
pending under `Run.doaction`: the quick loop performed the action, which unmonitored it, and
the service loop leaves it unchecked. -/
theorem validate_stopped_at_second :
    let s : Service := { (default : Service) with type := .system, monitor := 1 }
    let p : Probe := { sampleProbe with stopped := true, onAction := ⟨fun _ => 0, id⟩ }
    (validate default { quietWorld with doaction := true }
        [(s, sampleProbe), ({ s with doaction := .stop }, p)]).2.drop 1 =
      [(resetDepend { s with monitor := 0 }, [post .action .changed .action "%s action done"
        [.str ((default : Defs).actionnames .stop)]])] :=
  validate_stopped default { quietWorld with doaction := true } [(_, sampleProbe)] []
    (_, { sampleProbe with stopped := true, onAction := ⟨fun _ => 0, id⟩ })
    (by simp [sampleProbe]) rfl

/-! ## Errors are reported -/

/-- The validator of every type reports its failure, except `check_remote_host` stopped by an
ICMP test of unknown type. -/
theorem checkService_reported (d : Defs) (w : World) (p : Probe) (s : Service) :
    Reported (checkService d w p s) ∨
      (s.type = .host ∧ (icmpLoop d p.echo 0 s.icmplist none).unknown = true) := by
  cases ht : s.type <;> simp only [checkService, ht]
  · exact .inl (checkFilesystem_reported d p.lstat p.realpath p.stat p.usage s)
  · exact .inl (checkNode_reported _ _ _ _ _ p.stat p.time s)
  · exact .inl (checkFile_reported w.pattern p.stat p.checksum p.time p.content s)
  · exact .inl (checkProcess_reported d _ _ p.pid p.processData p.onResource p.attempt s)
  · exact (checkRemoteHost_reported d p.echo p.attempt s).imp_right fun h => ⟨trivial, h⟩
  · exact .inl fun h => absurd h Bool.noConfusion
  · exact .inl (checkNode_reported _ _ _ _ _ p.stat p.time s)
  · exact .inl fun h => absurd h Bool.noConfusion

/-- Every validator that returns `FALSE`, which `validate` counts as an error, has posted a
`FAILED` event in the same call, except `check_remote_host` stopped by an ICMP test of
unknown type, for which nothing is posted. -/
theorem checkService_false_reported (d : Defs) (w : World) (p : Probe) (s : Service)
    (hfalse : (checkService d w p s).1 = false) :
    (∃ e ∈ (checkService d w p s).2.2, e.state = .failed) ∨
      (s.type = .host ∧ (icmpLoop d p.echo 0 s.icmplist none).unknown = true) :=
  (checkService_reported d w p s).imp_left fun h => h hfalse

/-- A process that is not running: `check_process` returns `FALSE` after `Nonexist FAILED`. -/
theorem checkService_false_reported_process_gone :
    let s : Service := { (default : Service) with type := .process }
    let p : Probe := { sampleProbe with pid := 0 }
    (checkService default quietWorld p s).1 = false ∧
      ((∃ e ∈ (checkService default quietWorld p s).2.2, e.state = .failed) ∨
        (s.type = .host ∧ (icmpLoop default p.echo 0 s.icmplist none).unknown = true)) := by
  intro s p
  exact ⟨rfl, checkService_false_reported default quietWorld p s rfl⟩

/-! ## At most once per key, except three shared action records -/

/-- How often one cycle may post for a service of type `t` under one key of kind `kind`:
once, except under the three kinds whose action record two sub-tests share. -/
def postBound : ServiceType → EventKind → Nat
  | .process, .timeout => 2
  | .file, .data => 2
  | .filesystem, .nonexist => 2
  | _, _ => 1

theorem cycleKinds_count_le (t : ServiceType) (kind : EventKind) :
    (EventKind.action :: .timeout :: checkKinds t).count kind ≤ postBound t kind := by
  cases t <;> cases kind <;> decide

/-- In one call of `validate`, every service posts under each pair (event kind, action
record) at most once, except a process under a `Timeout` key, a file under `Data` and a
filesystem under `Nonexist`, at most twice. -/
theorem validate_posts_per_key_le_postBound (d : Defs) (w : World)
    (servicelist : List (Service × Probe)) :
    List.Forall₂ (fun x y => ∀ k, (statesFor y.2 k).length ≤ postBound x.1.type k.1)
      servicelist (validate d w servicelist).2 :=
  (validate_plan d w servicelist).imp fun x _ h k =>
    (h.statesFor_length_le k).trans (cycleKinds_count_le x.1.type k.1)

/-- Three cycles of one service each that post twice under one key, `FAILED` and then
`SUCCEEDED` or the reverse: a running process whose restart rule just fired while the sink
still holds its `Timeout` error; a regular file whose checksum cannot be computed and that has
a timestamp rule; a filesystem path that is a symbolic link to a target `stat` cannot
examine. -/
theorem validate_posts_twice_per_key :
    let process : Service := { (default : Service) with
      type := .process, monitor := 1, nstart := 1, actionratelist := [⟨1, 1, default⟩],
      error := (fun k => k == .timeout) }
    let file : Service := { (default : Service) with
      type := .file, monitor := 1, checksum := some ⟨.md5, "", false, false⟩,
      timestamplist := [⟨.greater, 0, false, 0⟩] }
    let filesystem : Service := { (default : Service) with type := .filesystem, monitor := 1 }
    let regular : Stat := ⟨0o100644, 1, 0, 0, 0, 0, 0⟩
    let link : Stat := ⟨0o120777, 1, 0, 0, 0, 0, 0⟩
    (validate default quietWorld [(process, sampleProbe)]).2.map
        (fun y => statesFor y.2 (.timeout, .rate 0)) = [[.failed, .succeeded]] ∧
    (validate default quietWorld [(file, { sampleProbe with stat := some regular })]).2.map
        (fun y => statesFor y.2 (.data, .data)) = [[.failed, .succeeded]] ∧
    (validate default quietWorld [(filesystem, { sampleProbe with lstat := some link })]).2.map
        (fun y => statesFor y.2 (.nonexist, .nonexist)) = [[.succeeded, .failed]] := by
  decide

end MonitValidation.Driver
