import Mathlib.Algebra.Group.Nat.Basic
import MonitValidation.Engine.Plan
import MonitValidation.Tests.Basic
import MonitValidation.Tests.Resources
import MonitValidation.Tests.Change
import MonitValidation.Tests.Connection
import MonitValidation.Content.Match

/-!
# The validators of processes, filesystems, files, directories, fifos and the system

`check_process`, `check_filesystem`, `check_file`, `check_directory`, `check_fifo` and
`check_system`: each first establishes that the object exists (and for the filesystem
objects that it has the right type), stores what `stat` or the process sampler returned
into the snapshot, and then runs the configured tests in a fixed order. Each returns what
the C function returns (`FALSE` after an existence or type failure), the service as it
leaves it, and its events. What the operating system answers is a parameter of each call:
the pid `Util_isProcessRunning` found (`0` when none), the sample `update_process_data`
took, the `struct stat` of `lstat` and `stat`, the path `realpath` resolves, the statistics
`filesystem_usage` reads, the checksum `Util_getChecksum` computes, the clock, the content
of the file `check_match` opens, and the outcome of each connection attempt.

Every `Event_post` hands the event to the sink, whose actions may write into the service
(`Control`). Of the tests a validator runs after its first post, only the CPU rules of
`check_process_resources` read what the control layer writes, the `MONITOR_INIT` bit: each
resource rule is tested on the service as those writes have left it.

`check_directory` and `check_fifo` differ only in the type they test and in their texts,
and are one definition, `checkNode`. Each validator follows a post plan (`PostPlan`): the
kinds of its sub-tests in posting order.
-/

namespace MonitValidation.Validators

open MonitValidation.Tests MonitValidation.Content

/-- `if (s->perm) check_perm(s); if (s->uid) check_uid(s); if (s->gid) check_gid(s);` -/
def checkOwner (s : Service) : List Event :=
  (s.perm.map (checkPerm s)).getD [] ++ (s.uid.map (checkUid s)).getD [] ++
    (s.gid.map (checkGid s)).getD []

/-! ## `check_process` -/

/-- The loop over the resource rules of `check_process` and `check_system`: the `i`-th rule
is tested on the service as the sink's actions on the events posted before it in the same
call have left it (`written i`). -/
def resourceLoop (d : Defs) (si : SystemInfo) (written : Nat → Control) (s : Service) :
    List Event :=
  forEachFrom (fun i r => checkProcessResources d si ((written i).apply s) i r) 0 s.resourcelist

/-- The tests `check_process` runs on a fresh sample: state, pid, ppid, uptime, and every
resource rule. -/
def checkProcessData (d : Defs) (si : SystemInfo) (written : Nat → Control) (s : Service) :
    List Event :=
  checkProcessState d s ++ checkProcessPid s ++ checkProcessPpid s ++
    (if s.uptimelist.isEmpty then [] else checkUptime s) ++ resourceLoop d si written s

/-- The events a running process posts for errors the sink still holds: `Exec`, and
`Timeout` once per action-rate rule. -/
def clearedErrors (s : Service) : List Event :=
  (if s.error .exec then
    [post .exec .succeeded .exec
      "process is running after previous exec error (slow starting or manually recovered?)" []]
  else []) ++
  (if s.error .timeout then
    forEachFrom (fun i _ => [post .timeout .succeeded (.rate i)
      "process is running after previous restart timeout (manually recovered?)" []])
      0 s.actionratelist
  else [])

/-- The sampling step of `check_process`, under `Run.doprocess`: `data` is the sample
`update_process_data` takes, `none` when it fails. -/
def sampleProcess (d : Defs) (si : SystemInfo) (doprocess : Bool) (data : Option ProcessInfo)
    (written : Nat → Control) (s : Service) : Service × List Event :=
  match doprocess, data with
  | true, some info =>
    let s := { s with inf := { s.inf with process := info } }
    (s, checkProcessData d si written s)
  | _, _ => (s, [])

/-- `check_process(s)`. `pid` is what `Util_isProcessRunning` returns. -/
def checkProcess (d : Defs) (si : SystemInfo) (doprocess : Bool) (pid : Int)
    (data : Option ProcessInfo) (written : Nat → Control) (attempt : Nat → Nat → Attempt)
    (s : Service) : Bool × Service × List Event :=
  if pid = 0 then (false, s, [post .nonexist .failed .nonexist "process is not running" []]) else
  let sampled := sampleProcess d si doprocess data written s
  let ports := checkPorts attempt 0 sampled.1.portlist
  (true, { sampled.1 with portlist := ports.1 },
    post .nonexist .succeeded .nonexist "process is running with pid %d" [.int pid] ::
      clearedErrors s ++ sampled.2 ++ ports.2)

/-! ## `check_filesystem` -/

/-- How many low bits of `n` fall below a float's 24-bit significand, halving at most `fuel`
times. -/
def floatShift : Nat → Nat → Nat
  | 0, _ => 0
  | fuel + 1, n => if n < 2 ^ 24 then 0 else floatShift fuel (n / 2) + 1

/-- C's `(float)` conversion of a count of at most 64 bits: the nearest value with a 24-bit
significand, ties to even. Counts below `2^24` convert exactly. -/
def toCFloat (n : Nat) : Nat :=
  let shift := floatShift 64 n
  let q := n / 2 ^ shift
  let r := n % 2 ^ shift
  let half := 2 ^ shift / 2
  (if half < r ∨ (r = half ∧ 0 < shift ∧ q % 2 = 1) then q + 1 else q) * 2 ^ shift

/-- A full filesystem of `2^24 + 3` inodes: the divisor rounds up to `2^24 + 4`. -/
example : toCFloat (2 ^ 24 + 3) = 2 ^ 24 + 4 := by decide

/-- What `check_filesystem` derives from the statistics `filesystem_usage` read: usage in
tenths of a percent (`0` without blocks or inodes) and absolute totals. The divisor is the
C `(float)` of the count, promoted to `double` for the division. -/
def filesystemUsage (fs : FilesystemInfo) : FilesystemInfo :=
  { fs with
    inode_percent := if fs.f_files > 0 then
        truncToInt ((1000.0 * Float.ofInt (fs.f_files - fs.f_filesfree)) /
          Float.ofNat (toCFloat fs.f_files.toNat))
      else 0
    space_percent := if fs.f_blocks > 0 then
        truncToInt ((1000.0 * Float.ofInt (fs.f_blocks - fs.f_blocksfree)) /
          Float.ofNat (toCFloat fs.f_blocks.toNat))
      else 0
    inode_total := fs.f_files - fs.f_filesfree
    space_total := fs.f_blocks - fs.f_blocksfreetotal }

/-- The part of `check_filesystem` after the path `p` (the service's path, or what its
symbolic link resolves to) was found with status `st`; `evs` are the events posted while
resolving it. -/
def filesystemExists (d : Defs) (usage : Option FilesystemInfo) (p : String) (st : Stat)
    (evs : List Event) (s : Service) : Bool × Service × List Event :=
  let evs := evs ++ [post .nonexist .succeeded .nonexist "filesystem exists" []]
  let s := { s with inf := { s.inf with st_mode := st.st_mode, st_uid := st.st_uid,
                                        st_gid := st.st_gid } }
  match usage with
  | none => (false, s, evs ++ [post .data .failed .data "unable to read filesystem %s state" [.str p]])
  | some fs =>
    let s := { s with inf := { s.inf with filesystem := filesystemUsage fs } }
    (true, s, evs ++
      [post .data .succeeded .data "succeeded getting filesystem statistic for %s" [.str p]] ++
      checkOwner s ++ checkFilesystemFlags s ++
      (if s.filesystemlist.isEmpty then []
        else forEachFrom (checkFilesystemResources d s) 0 s.filesystemlist))

/-- `check_filesystem(s)`: `lstat` gives the status of the path itself; a symbolic link is
resolved by `realpath` (the text of `STRERROR` on failure) and its target examined by `stat`;
`usage` is what `filesystem_usage` reads. -/
def checkFilesystem (d : Defs) (lstat : Option Stat) (realpath : Except String String)
    (stat : Option Stat) (usage : Option FilesystemInfo) (s : Service) :
    Bool × Service × List Event :=
  let missing := post .nonexist .failed .nonexist "filesystem doesn't exist" []
  match lstat with
  | none => (false, s, [missing])
  | some st =>
    if S_ISLNK st.st_mode then
      match realpath with
      | .error err =>
        (false, s, [post .nonexist .failed .nonexist "filesystem symbolic link error -- %s" [.str err]])
      | .ok p =>
        let link := post .nonexist .succeeded .nonexist "filesystem symbolic link %s -> %s"
          [.str s.path, .str p]
        match stat with
        | none => (false, s, [link, missing])
        | some target => filesystemExists d usage p target [link] s
    else filesystemExists d usage s.path st [] s

/-! ## `check_file` -/

/-- What `check_file` stores from `stat`: the previous inode (when there was one), the
inode, mode, owner, size, and the later of the modification and change times. -/
def fileStat (s : Service) (st : Stat) : Service :=
  { s with inf := { s.inf with
      st_mode := st.st_mode, st_uid := st.st_uid, st_gid := st.st_gid,
      timestamp := max st.st_mtime st.st_ctime,
      file := { s.inf.file with
        st_ino_prev := if s.inf.file.st_ino ≠ 0 then s.inf.file.st_ino else s.inf.file.st_ino_prev,
        st_ino := st.st_ino, st_size := st.st_size } } }

/-- The tests of `check_file` once `stat` succeeded: the type test, then the checksum,
owner, size, timestamp and content tests that are configured. -/
def fileFound (pattern : String → List UInt8 → Bool) (computed : Option String) (time : Int)
    (file : Option (List UInt8)) (s : Service) : Bool × Service × List Event :=
  let found := post .nonexist .succeeded .nonexist "file exist" []
  if !S_ISREG s.inf.st_mode then
    (false, s, [found, post .invalid .failed .invalid "is not a regular file" []])
  else
    let regular := post .invalid .succeeded .invalid "is a regular file" []
    let cs := if s.checksum.isSome then checkChecksum s computed else (s, [])
    let owner := checkOwner cs.1
    let size := if cs.1.sizelist.isEmpty then (cs.1, []) else checkSize cs.1
    let ts := if size.1.timestamplist.isEmpty then (size.1, []) else checkTimestamp size.1 time
    let m := if ts.1.matchlist.isEmpty then (ts.1, []) else checkMatch pattern file ts.1
    (true, m.1, [found, regular] ++ cs.2 ++ owner ++ size.2 ++ ts.2 ++ m.2)

/-- `check_file(s)`: `computed` is the checksum `Util_getChecksum` computes, `time` what
`time()` returns in `check_timestamp`, `file` the content `check_match` opens. -/
def checkFile (pattern : String → List UInt8 → Bool) (stat : Option Stat)
    (computed : Option String) (time : Int) (file : Option (List UInt8)) (s : Service) :
    Bool × Service × List Event :=
  match stat with
  | none => (false, s, [post .nonexist .failed .nonexist "file doesn't exist" []])
  | some st => fileFound pattern computed time file (fileStat s st)

/-! ## `check_directory` and `check_fifo` -/

/-- What `check_directory` and `check_fifo` store from `stat`. -/
def nodeStat (s : Service) (st : Stat) : Service :=
  { s with inf := { s.inf with st_mode := st.st_mode, st_uid := st.st_uid, st_gid := st.st_gid,
                               timestamp := max st.st_mtime st.st_ctime } }

/-- The shared shape of `check_directory` and `check_fifo`: `isType` is the file-type test
of `st_mode`, the texts are those of the existence and type events. -/
def checkNode (isType : Nat → Bool) (missing found notType typed : String)
    (stat : Option Stat) (time : Int) (s : Service) : Bool × Service × List Event :=
  match stat with
  | none => (false, s, [post .nonexist .failed .nonexist missing []])
  | some st =>
    let s := nodeStat s st
    let found := post .nonexist .succeeded .nonexist found []
    if !isType s.inf.st_mode then (false, s, [found, post .invalid .failed .invalid notType []])
    else
      let ts := if s.timestamplist.isEmpty then (s, []) else checkTimestamp s time
      (true, ts.1, [found, post .invalid .succeeded .invalid typed []] ++ checkOwner s ++ ts.2)

/-- `check_directory(s)`. -/
def checkDirectory (stat : Option Stat) (time : Int) (s : Service) : Bool × Service × List Event :=
  checkNode S_ISDIR "directory doesn't exist" "directory exist" "is not directory" "is directory"
    stat time s

/-- `check_fifo(s)`. -/
def checkFifo (stat : Option Stat) (time : Int) (s : Service) : Bool × Service × List Event :=
  checkNode S_ISFIFO "fifo doesn't exist" "fifo exist" "is not fifo" "is fifo" stat time s

/-! ## `check_system` -/

/-- `check_system(s)`: every resource rule, against the system-wide snapshot. -/
def checkSystem (d : Defs) (si : SystemInfo) (written : Nat → Control) (s : Service) :
    Bool × Service × List Event :=
  (true, s, resourceLoop d si written s)

/-! ## Post plans -/

theorem checkOwner_plan (s : Service) : PostPlan [.permission, .uid, .gid] (checkOwner s) := by
  have hpart : ∀ (kind : EventKind) (act : ActionRef) {α : Type} (o : Option α)
      (test : α → List Event), (∀ x, (test x).map Event.key = [(kind, act)]) →
      PostPlan [kind] ((o.map test).getD []) := fun kind act _ o test h => by
    cases o
    · exact PostPlan.single (oneKind_nil kind)
    · exact PostPlan.single (oneKind_of_keys_eq (h _))
  exact ((hpart .permission .perm s.perm (checkPerm s) fun _ => checkField_keys ..).append
    (hpart .uid .uid s.uid (checkUid s) fun _ => checkField_keys ..)).append
    (hpart .gid .gid s.gid (checkGid s) fun _ => checkField_keys ..)

theorem resourceLoop_oneKind (d : Defs) (si : SystemInfo) (written : Nat → Control)
    (s : Service) : OneKind .resource (resourceLoop d si written s) :=
  oneKind_of_sublist_range ActionRef.resource (fun _ _ h => by injection h)
    (forEachFrom_keys (fun i _ => checkProcessResources_keys d si _ i _) 0 _)

theorem checkProcessData_plan (d : Defs) (si : SystemInfo) (written : Nat → Control)
    (s : Service) :
    PostPlan [.data, .pid, .ppid, .uptime, .resource] (checkProcessData d si written s) := by
  have huptime : PostPlan [.uptime] (if s.uptimelist.isEmpty then [] else checkUptime s) := by
    split
    · exact PostPlan.empty _
    · exact PostPlan.single (oneKind_of_sublist_range ActionRef.uptime
        (fun _ _ h => by injection h) (checkUptime_keys s))
  exact ((((PostPlan.single (oneKind_of_keys_eq (checkProcessState_keys d s))).append
    (PostPlan.single (oneKind_of_sublist_single (checkChange_keys ..)))).append
    (PostPlan.single (oneKind_of_sublist_single (checkChange_keys ..)))).append huptime).append
    (PostPlan.single (resourceLoop_oneKind ..))

theorem clearedErrors_plan (s : Service) : PostPlan [.exec, .timeout] (clearedErrors s) := by
  have hexec : PostPlan [.exec] (if s.error .exec then
      [post .exec .succeeded .exec
        "process is running after previous exec error (slow starting or manually recovered?)" []]
      else []) := by
    split
    · exact PostPlan.single (oneKind_post ..)
    · exact PostPlan.empty _
  have htimeout : PostPlan [.timeout] (if s.error .timeout then
      forEachFrom (fun i _ => [post .timeout .succeeded (.rate i)
        "process is running after previous restart timeout (manually recovered?)" []])
        0 s.actionratelist else []) := by
    split
    · exact PostPlan.single (oneKind_of_sublist_range ActionRef.rate (fun _ _ h => by injection h)
        (forEachFrom_keys (fun _ _ => by simp) _ _))
    · exact PostPlan.empty _
  exact hexec.append htimeout

/-- The errors a running process clears are all reported as `SUCCEEDED`. -/
theorem clearedErrors_succeeded (s : Service) : ∀ e ∈ clearedErrors s, e.state = .succeeded := by
  intro e he
  rcases List.mem_append.1 he with he | he <;> split at he
  · rw [List.mem_singleton.1 he]; rfl
  · cases he
  · obtain ⟨j, x, hj⟩ := forEachFrom_mem he
    rw [List.mem_singleton.1 hj]; rfl
  · cases he

theorem sampleProcess_plan (d : Defs) (si : SystemInfo) (doprocess : Bool)
    (data : Option ProcessInfo) (written : Nat → Control) (s : Service) :
    PostPlan [.data, .pid, .ppid, .uptime, .resource]
      (sampleProcess d si doprocess data written s).2 := by
  unfold sampleProcess
  split
  · exact checkProcessData_plan ..
  · exact PostPlan.empty _

theorem checkPorts_oneKind (attempt : Nat → Nat → Attempt) (l : List Port) :
    OneKind .connection (checkPorts attempt 0 l).2 :=
  oneKind_of_sublist_range ActionRef.port (fun _ _ h => by injection h) (by rw [checkPorts_keys])

theorem checkProcess_plan (d : Defs) (si : SystemInfo) (doprocess : Bool) (pid : Int)
    (data : Option ProcessInfo) (written : Nat → Control) (attempt : Nat → Nat → Attempt)
    (s : Service) :
    PostPlan [.nonexist, .exec, .timeout, .data, .pid, .ppid, .uptime, .resource, .connection]
      (checkProcess d si doprocess pid data written attempt s).2.2 := by
  unfold checkProcess
  split
  · exact PostPlan.head (oneKind_post ..)
  · exact PostPlan.post (((clearedErrors_plan s).append (sampleProcess_plan ..)).append
      (PostPlan.single (checkPorts_oneKind ..)))

theorem filesystemExists_plan (d : Defs) (usage : Option FilesystemInfo) (p : String) (st : Stat)
    {evs : List Event} (hevs : OneKind .nonexist evs) (s : Service) :
    PostPlan [.nonexist, .nonexist, .data, .permission, .uid, .gid, .fsflag, .resource]
      (filesystemExists d usage p st evs s).2.2 := by
  have hstart : PostPlan [.nonexist, .nonexist]
      (evs ++ [post .nonexist .succeeded .nonexist "filesystem exists" []]) :=
    PostPlan.cons hevs (PostPlan.single (oneKind_post ..))
  have hflags (s' : Service) : PostPlan [.fsflag] (checkFilesystemFlags s') :=
    PostPlan.single (@oneKind_of_sublist_single _ .fsflag .fsflag (by
      rw [(checkFilesystemFlags_posts s').1]; split <;> simp))
  have hresources (s' : Service) : PostPlan [.resource] (if s'.filesystemlist.isEmpty then []
      else forEachFrom (checkFilesystemResources d s') 0 s'.filesystemlist) := by
    split
    · exact PostPlan.empty _
    · exact PostPlan.single (oneKind_of_sublist_range ActionRef.filesystem
        (fun _ _ h => by injection h) (forEachFrom_keys (checkFilesystemResources_keys d s') 0 _))
  unfold filesystemExists
  split
  · exact hstart.append (PostPlan.head (oneKind_post ..))
  · exact (((hstart.append (PostPlan.single (oneKind_post ..))).append (checkOwner_plan _)).append
      (hflags _)).append (hresources _)

theorem checkFilesystem_plan (d : Defs) (lstat : Option Stat) (realpath : Except String String)
    (stat : Option Stat) (usage : Option FilesystemInfo) (s : Service) :
    PostPlan [.nonexist, .nonexist, .data, .permission, .uid, .gid, .fsflag, .resource]
      (checkFilesystem d lstat realpath stat usage s).2.2 := by
  unfold checkFilesystem
  split
  · exact PostPlan.head (oneKind_post ..)
  · split
    · split
      · exact PostPlan.head (oneKind_post ..)
      · split
        · exact PostPlan.post (PostPlan.head (oneKind_post ..))
        · exact filesystemExists_plan d usage _ _ (oneKind_post ..) s
    · exact filesystemExists_plan d usage _ _ (oneKind_nil _) s

/-- `check_checksum` posts `Data`, then the checksum's own verdict. -/
theorem checkChecksum_plan (s : Service) (computed : Option String) :
    PostPlan [.data, .checksum] (checkChecksum s computed).2 := by
  unfold checkChecksum
  dsimp only
  repeat' split
  all_goals first
    | exact PostPlan.empty _
    | exact PostPlan.head (oneKind_post ..)
    | exact PostPlan.post (PostPlan.single (oneKind_post ..))

/-- `check_timestamp` posts `Data` for the clock, then one event per timestamp rule it
reaches. -/
theorem checkTimestamp_plan (s : Service) (now : Int) :
    PostPlan [.data, .timestamp] (checkTimestamp s now).2 := by
  unfold checkTimestamp
  split
  · exact PostPlan.head (oneKind_post ..)
  · exact PostPlan.post (PostPlan.single (oneKind_of_sublist_range ActionRef.timestamp
      (fun _ _ h => by injection h) (testUntilChange_keys _ _ _ (timestampConstant_key s now)
        (fun j t => (timestampChange_spec s j t).2.1) 0 s.timestamplist)))

theorem checkMatch_oneKind (pattern : String → List UInt8 → Bool) (file : Option (List UInt8))
    (s : Service) : OneKind .content (checkMatch pattern file s).2 := by
  unfold checkMatch
  split
  · exact oneKind_nil _
  · exact oneKind_of_sublist_range ActionRef.matchRule (fun _ _ h => by injection h)
      (forEachFrom_keys (fun i m => by cases m.log <;> simp) 0 _)

/-- The timestamp rules of a file, directory or fifo, when it has any. -/
theorem guardedTimestamp_plan (s : Service) (time : Int) :
    PostPlan [.data, .timestamp]
      (if s.timestamplist.isEmpty then (s, []) else checkTimestamp s time).2 := by
  split
  · exact PostPlan.empty _
  · exact checkTimestamp_plan _ _

theorem checkFile_plan (pattern : String → List UInt8 → Bool) (stat : Option Stat)
    (computed : Option String) (time : Int) (file : Option (List UInt8)) (s : Service) :
    PostPlan [.nonexist, .invalid, .data, .checksum, .permission, .uid, .gid, .size, .data,
      .timestamp, .content] (checkFile pattern stat computed time file s).2.2 := by
  have hcs : ∀ s' : Service, PostPlan [.data, .checksum]
      (if s'.checksum.isSome then checkChecksum s' computed else (s', [])).2 := by
    intro s'; split
    · exact checkChecksum_plan _ _
    · exact PostPlan.empty _
  have hsize : ∀ s' : Service, PostPlan [.size]
      (if s'.sizelist.isEmpty then (s', []) else checkSize s').2 := by
    intro s'; split
    · exact PostPlan.empty _
    · exact PostPlan.single (oneKind_of_sublist_range ActionRef.size (fun _ _ h => by injection h)
        (checkSize_keys s'))
  have hmatch : ∀ s' : Service, PostPlan [.content]
      (if s'.matchlist.isEmpty then (s', []) else checkMatch pattern file s').2 := by
    intro s'; split
    · exact PostPlan.empty _
    · exact PostPlan.single (checkMatch_oneKind _ _ _)
  unfold checkFile
  split
  · exact PostPlan.head (oneKind_post ..)
  · unfold fileFound
    split
    · exact PostPlan.post (PostPlan.head (oneKind_post ..))
    · exact PostPlan.post (PostPlan.post (((((hcs _).append (checkOwner_plan _)).append
        (hsize _)).append (guardedTimestamp_plan _ _)).append (hmatch _)))

theorem checkNode_plan (isType : Nat → Bool) (missing found notType typed : String)
    (stat : Option Stat) (time : Int) (s : Service) :
    PostPlan [.nonexist, .invalid, .permission, .uid, .gid, .data, .timestamp]
      (checkNode isType missing found notType typed stat time s).2.2 := by
  unfold checkNode
  split
  · exact PostPlan.head (oneKind_post ..)
  · generalize nodeStat s _ = s'
    dsimp only
    split
    · exact PostPlan.post (PostPlan.head (oneKind_post ..))
    · exact PostPlan.post (PostPlan.post ((checkOwner_plan _).append (guardedTimestamp_plan _ _)))

theorem checkSystem_plan (d : Defs) (si : SystemInfo) (written : Nat → Control) (s : Service) :
    PostPlan [.resource] (checkSystem d si written s).2.2 :=
  PostPlan.single (resourceLoop_oneKind ..)

theorem checkRemoteHost_plan (d : Defs) (echo : Nat → EchoResult)
    (attempt : Nat → Nat → Attempt) (s : Service) :
    PostPlan [.icmp, .connection] (checkRemoteHost d echo attempt s).2.2 := by
  have hicmp := oneKind_of_sublist_range ActionRef.icmp (fun _ _ h => by injection h)
    (icmpLoop_keys d echo 0 s.icmplist none)
  unfold checkRemoteHost
  dsimp only
  split
  · exact PostPlan.head hicmp
  · split
    · exact PostPlan.head hicmp
    · exact PostPlan.cons hicmp (PostPlan.single (checkPorts_oneKind ..))

/-! ## Fatal results are reported -/

/-- A validator's result reports its failure: when it returns `FALSE`, it has posted a
`FAILED` event. -/
def Reported (r : Bool × Service × List Event) : Prop :=
  r.1 = false → ∃ e ∈ r.2.2, e.state = .failed

theorem checkProcess_reported (d : Defs) (si : SystemInfo) (doprocess : Bool) (pid : Int)
    (data : Option ProcessInfo) (written : Nat → Control) (attempt : Nat → Nat → Attempt)
    (s : Service) : Reported (checkProcess d si doprocess pid data written attempt s) := by
  unfold Reported checkProcess; split <;> simp

theorem filesystemExists_reported (d : Defs) (usage : Option FilesystemInfo) (p : String)
    (st : Stat) (evs : List Event) (s : Service) :
    Reported (filesystemExists d usage p st evs s) := by
  unfold Reported filesystemExists
  split
  · exact fun _ => ⟨_, List.mem_append_right _ (List.mem_singleton_self _), rfl⟩
  · simp

theorem checkFilesystem_reported (d : Defs) (lstat : Option Stat) (realpath : Except String String)
    (stat : Option Stat) (usage : Option FilesystemInfo) (s : Service) :
    Reported (checkFilesystem d lstat realpath stat usage s) := by
  unfold checkFilesystem
  split
  · simp [Reported]
  · split
    · split
      · simp [Reported]
      · split
        · simp [Reported]
        · exact filesystemExists_reported d usage _ _ _ s
    · exact filesystemExists_reported d usage _ _ _ s

theorem checkFile_reported (pattern : String → List UInt8 → Bool) (stat : Option Stat)
    (computed : Option String) (time : Int) (file : Option (List UInt8)) (s : Service) :
    Reported (checkFile pattern stat computed time file s) := by
  unfold Reported checkFile
  split
  · simp
  · unfold fileFound; split <;> simp

theorem checkNode_reported (isType : Nat → Bool) (missing found notType typed : String)
    (stat : Option Stat) (time : Int) (s : Service) :
    Reported (checkNode isType missing found notType typed stat time s) := by
  unfold Reported checkNode
  split
  · simp
  · dsimp only; split <;> simp

/-- `check_remote_host` returns `FALSE` after a failed echo test, or after an ICMP test of
unknown type, for which it posts nothing. -/
theorem checkRemoteHost_reported (d : Defs) (echo : Nat → EchoResult)
    (attempt : Nat → Nat → Attempt) (s : Service) :
    Reported (checkRemoteHost d echo attempt s) ∨
      (icmpLoop d echo 0 s.icmplist none).unknown = true := by
  unfold Reported checkRemoteHost
  dsimp only
  split
  · exact .inr ‹_›
  · refine .inl fun hfalse => ?_
    by_cases hl : (icmpLoop d echo 0 s.icmplist none).lastPing = some false
    · simpa [hl] using icmpLoop_lastPing_false d echo 0 s.icmplist none hl
    · simp [hl] at hfalse

end MonitValidation.Validators
