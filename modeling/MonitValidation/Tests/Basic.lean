import MonitValidation.Engine.Service

/-!
# The one-event test evaluators

`check_perm`, `check_uid`, `check_gid`, `check_uptime`, `check_process_state`,
`check_process_pid`, `check_process_ppid` and `check_filesystem_flags` each compare a field
of the snapshot with the configuration or with the previous sample. The three owner checks
and the two pid checks are one definition each with parameters; every test posts at most
one event per descriptor, under the descriptor's own action record.
-/

namespace MonitValidation.Tests

/-- The shared shape of `check_perm`, `check_uid` and `check_gid`: a field of the snapshot
must equal the configured value. -/
def checkField (kind : EventKind) (act : ActionRef) (current expected : Nat) (failed : String)
    (path : String) (succeeded : String) : List Event :=
  if current ≠ expected then [post kind .failed act failed [.str path, .int current]]
  else [post kind .succeeded act succeeded []]

/-- `check_perm(s)`. -/
def checkPerm (s : Service) (p : Perm) : List Event :=
  checkField .permission .perm (s.inf.st_mode &&& 0o7777) p.perm
    "permission test failed for %s -- current permission is %04o" s.path "permission succeeded"

/-- `check_uid(s)`. -/
def checkUid (s : Service) (u : Uid) : List Event :=
  checkField .uid .uid s.inf.st_uid u.uid "uid test failed for %s -- current uid is %d" s.path
    "uid succeeded"

/-- `check_gid(s)`. -/
def checkGid (s : Service) (g : Gid) : List Event :=
  checkField .gid .gid s.inf.st_gid g.gid "gid test failed for %s -- current gid is %d" s.path
    "gid succeeded"

theorem checkField_keys (kind : EventKind) (act : ActionRef) (current expected : Nat)
    (failed path succeeded : String) :
    (checkField kind act current expected failed path succeeded).map Event.key = [(kind, act)] := by
  unfold checkField; split <;> rfl

/-- The owner checks fail exactly on a mismatch. -/
theorem checkField_failed (kind : EventKind) (act : ActionRef) (current expected : Nat)
    (failed path succeeded : String) :
    (checkField kind act current expected failed path succeeded).map Event.state =
      [if current = expected then .succeeded else .failed] := by
  unfold checkField; split <;> simp_all

/-- `check_uptime(s)`: one event per uptime rule. -/
def checkUptime (s : Service) : List Event :=
  forEachFrom (fun i ul =>
    if evalQExpression ul.operator s.inf.process.uptime ul.uptime then
      [post .uptime .failed (.uptime i)
        "uptime test failed for %s -- current uptime is %llu seconds"
        [.str s.path, .int s.inf.process.uptime]]
    else [post .uptime .succeeded (.uptime i) "uptime succeeded" []]) 0 s.uptimelist

theorem checkUptime_keys (s : Service) :
    ((checkUptime s).map Event.key).Sublist
      ((List.range' 0 s.uptimelist.length).map fun i => (.uptime, .uptime i)) :=
  forEachFrom_keys (fun i ul => by split <;> simp) 0 s.uptimelist

/-- `check_process_state(s)`: a zombie fails the `Data` test. -/
def checkProcessState (d : Defs) (s : Service) : List Event :=
  if s.inf.process.status_flag &&& d.PROCESS_ZOMBIE ≠ 0 then
    [post .data .failed .data "process with pid %d is a zombie" [.int s.inf.process.pid]]
  else [post .data .succeeded .data "check process state succeeded" []]

theorem checkProcessState_keys (d : Defs) (s : Service) :
    (checkProcessState d s).map Event.key = [(.data, .data)] := by
  unfold checkProcessState; split <;> rfl

/-- The shared shape of `check_process_pid` and `check_process_ppid`: compare a value with
its previous sample, unless there is none yet (`-1`). -/
def checkChange (kind : EventKind) (act : ActionRef) (prev current : Int)
    (changed unchanged : String) : List Event :=
  if prev = -1 then []
  else if prev ≠ current then [post kind .changed act changed [.int prev, .int current]]
  else [post kind .changedNot act unchanged []]

/-- `check_process_pid(s)`. -/
def checkProcessPid (s : Service) : List Event :=
  checkChange .pid .pid s.inf.process._pid s.inf.process.pid "process PID changed from %d to %d"
    "process PID has not changed since last cycle"

/-- `check_process_ppid(s)`. -/
def checkProcessPpid (s : Service) : List Event :=
  checkChange .ppid .ppid s.inf.process._ppid s.inf.process.ppid
    "process PPID changed from %d to %d" "process PPID has not changed since last cycle"

theorem checkChange_keys (kind : EventKind) (act : ActionRef) (prev current : Int)
    (changed unchanged : String) :
    ((checkChange kind act prev current changed unchanged).map Event.key).Sublist
      [(kind, act)] := by
  unfold checkChange; split
  · simp
  · split <;> simp

/-- Without a previous sample nothing is posted; otherwise `CHANGED` exactly on a change. -/
theorem checkChange_states (kind : EventKind) (act : ActionRef) (prev current : Int)
    (changed unchanged : String) :
    (checkChange kind act prev current changed unchanged).map Event.state =
      if prev = -1 then [] else [if prev = current then .changedNot else .changed] := by
  unfold checkChange; split
  · rfl
  · split <;> simp_all

/-- `check_filesystem_flags(s)`. Unlike the pid checks it posts nothing when the flags did
not change. -/
def checkFilesystemFlags (s : Service) : List Event :=
  if s.inf.filesystem._flags = -1 then []
  else if s.inf.filesystem._flags ≠ s.inf.filesystem.flags then
    [post .fsflag .changed .fsflag "filesytem flags changed to %#lx" [.int s.inf.filesystem.flags]]
  else []

/-- What the missing branch means: the flag test never posts `CHANGEDNOT`, so it posts
exactly when a previous sample exists and differs. -/
theorem checkFilesystemFlags_posts (s : Service) :
    (checkFilesystemFlags s).map Event.key =
      (if s.inf.filesystem._flags ≠ -1 ∧ s.inf.filesystem._flags ≠ s.inf.filesystem.flags then
        [(.fsflag, .fsflag)] else []) ∧
    ∀ e ∈ checkFilesystemFlags s, e.state = .changed := by
  unfold checkFilesystemFlags
  by_cases h1 : s.inf.filesystem._flags = -1 <;>
    by_cases h2 : s.inf.filesystem._flags = s.inf.filesystem.flags <;> simp [h1, h2]

end MonitValidation.Tests
