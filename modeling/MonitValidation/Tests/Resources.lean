import MonitValidation.Engine.Service

/-!
# Resource tests

`check_process_resources` compares one resource of a process or of the whole system with a
rule's limit; `check_filesystem_resources` does the same for the inode or space usage of a
filesystem. Percentages are scaled by ten on both sides, so every comparison is between
integers (`Util_evalQExpression`); only the load averages are C `double`s, read through the
`(int)(loadavg * 10.0)` conversion. A report is the `snprintf` format and arguments; a test
that was skipped still posts `SUCCEEDED`, with an empty report. An id that is not in the
test's `switch` posts nothing.
-/

namespace MonitValidation.Tests

/-- `(int)x` for a `double` within the range of `int`: truncation toward zero. -/
def truncToInt (x : Float) : Int :=
  if x < 0 then -((-x).toUInt64.toNat : Int) else (x.toUInt64.toNat : Int)

/-- The `double` `v / 10.0` printed for a value scaled by ten. -/
def tenths (v : Int) : Arg := .double (Float.ofInt v / 10)

/-- The `switch` of `check_process_resources`: whether the value stayed off the limit
(`okay`) and the report; `none` for an id the `switch` does not know. -/
def processResourceReport (d : Defs) (si : SystemInfo) (s : Service) (r : Resource) :
    Option (Bool × Message) :=
  let op := Arg.str (d.operatorshortnames r.operator)
  let initializing := s.monitor &&& d.MONITOR_INIT ≠ 0
  let p := s.inf.process
  let empty : Message := ⟨"", []⟩
  let test (value : Int) (matched succeeded : Message) : Option (Bool × Message) :=
    some (if evalQExpression r.operator value r.limit then (false, matched) else (true, succeeded))
  match r.resource_id with
  | .cpuPercent =>
    if initializing ∨ p.cpu_percent < 0 then some (true, empty) else
    test p.cpu_percent
      ⟨"cpu usage of %.1f%% matches resource limit [cpu usage%s%.1f%%]",
        [tenths p.cpu_percent, op, tenths r.limit]⟩
      ⟨"'%s' cpu usage check succeeded [current cpu usage=%.1f%%]",
        [.str s.name, tenths p.cpu_percent]⟩
  | .totalCpuPercent =>
    if initializing ∨ p.total_cpu_percent < 0 then some (true, empty) else
    test p.total_cpu_percent
      ⟨"total cpu usage of %.1f%% matches resource limit [cpu usage%s%.1f%%]",
        [tenths p.total_cpu_percent, op, tenths r.limit]⟩
      ⟨"'%s' total cpu usage check succeeded [current cpu usage=%.1f%%]",
        [.str s.name, tenths p.total_cpu_percent]⟩
  | .cpuUser =>
    if initializing ∨ si.total_cpu_user_percent < 0 then some (true, empty) else
    test si.total_cpu_user_percent
      ⟨"cpu user usage of %.1f%% matches resource limit [cpu user usage%s%.1f%%]",
        [tenths si.total_cpu_user_percent, op, tenths r.limit]⟩
      ⟨"'%s' cpu user usage check succeeded [current cpu user usage=%.1f%%]",
        [.str s.name, tenths si.total_cpu_user_percent]⟩
  | .cpuSystem =>
    if initializing ∨ si.total_cpu_syst_percent < 0 then some (true, empty) else
    test si.total_cpu_syst_percent
      ⟨"cpu system usage of %.1f%% matches resource limit [cpu system usage%s%.1f%%]",
        [tenths si.total_cpu_syst_percent, op, tenths r.limit]⟩
      ⟨"'%s' cpu system usage check succeeded [current cpu system usage=%.1f%%]",
        [.str s.name, tenths si.total_cpu_syst_percent]⟩
  | .cpuWait =>
    if initializing ∨ si.total_cpu_wait_percent < 0 then some (true, empty) else
    test si.total_cpu_wait_percent
      ⟨"cpu wait usage of %.1f%% matches resource limit [cpu wait usage%s%.1f%%]",
        [tenths si.total_cpu_wait_percent, op, tenths r.limit]⟩
      ⟨"'%s' cpu wait usage check succeeded [current cpu wait usage=%.1f%%]",
        [.str s.name, tenths si.total_cpu_wait_percent]⟩
  | .memPercent =>
    let v := if s.type = .system then si.total_mem_percent else p.mem_percent
    test v
      ⟨"mem usage of %.1f%% matches resource limit [mem usage%s%.1f%%]",
        [tenths v, op, tenths r.limit]⟩
      ⟨"'%s' mem usage check succeeded [current mem usage=%.1f%%]", [.str s.name, tenths v]⟩
  | .memKbyte =>
    let v := if s.type = .system then si.total_mem_kbyte else p.mem_kbyte
    test v
      ⟨"mem amount of %ldkB matches resource limit [mem amount%s%ldkB]", [.int v, op, .int r.limit]⟩
      ⟨"'%s' mem amount check succeeded [current mem amount=%ldkB]", [.str s.name, .int v]⟩
  | .swapPercent =>
    if s.type = .system then
      test si.total_swap_percent
        ⟨"swap usage of %.1f%% matches resource limit [swap usage%s%.1f%%]",
          [tenths si.total_swap_percent, op, tenths r.limit]⟩
        ⟨"'%s' swap usage check succeeded [current swap usage=%.1f%%]",
          [.str s.name, tenths si.total_swap_percent]⟩
    else some (true, empty)
  | .swapKbyte =>
    if s.type = .system then
      test si.total_swap_kbyte
        ⟨"swap amount of %ldkB matches resource limit [swap amount%s%ldkB]",
          [.int si.total_swap_kbyte, op, .int r.limit]⟩
        ⟨"'%s' swap amount check succeeded [current swap amount=%ldkB]",
          [.str s.name, .int si.total_swap_kbyte]⟩
    else some (true, empty)
  | .load1 =>
    test (truncToInt (si.loadavg 0 * 10))
      ⟨"loadavg(1min) of %.1f matches resource limit [loadavg(1min)%s%.1f]",
        [.double (si.loadavg 0), op, tenths r.limit]⟩
      ⟨"'%s' loadavg(1min) check succeeded [current loadavg(1min)=%.1f]",
        [.str s.name, .double (si.loadavg 0)]⟩
  | .load5 =>
    test (truncToInt (si.loadavg 1 * 10))
      ⟨"loadavg(5min) of %.1f matches resource limit [loadavg(5min)%s%.1f]",
        [.double (si.loadavg 1), op, tenths r.limit]⟩
      ⟨"'%s' loadavg(5min) check succeeded [current loadavg(5min)=%.1f]",
        [.str s.name, .double (si.loadavg 1)]⟩
  | .load15 =>
    test (truncToInt (si.loadavg 2 * 10))
      ⟨"loadavg(15min) of %.1f matches resource limit [loadavg(15min)%s%.1f]",
        [.double (si.loadavg 2), op, tenths r.limit]⟩
      ⟨"'%s' loadavg(15min) check succeeded [current loadavg(15min)=%.1f]",
        [.str s.name, .double (si.loadavg 2)]⟩
  | .children =>
    test p.children
      ⟨"children of %i matches resource limit [children%s%ld]", [.int p.children, op, .int r.limit]⟩
      ⟨"'%s' children check succeeded [current children=%i]", [.str s.name, .int p.children]⟩
  | .totalMemKbyte =>
    test p.total_mem_kbyte
      ⟨"total mem amount of %ldkB matches resource limit [total mem amount%s%ldkB]",
        [.int p.total_mem_kbyte, op, .int r.limit]⟩
      ⟨"'%s' total mem amount check succeeded [current total mem amount=%ldkB]",
        [.str s.name, .int p.total_mem_kbyte]⟩
  | .totalMemPercent =>
    test p.total_mem_percent
      ⟨"total mem amount of %.1f%% matches resource limit [total mem amount%s%.1f%%]",
        [tenths p.total_mem_percent, op, tenths r.limit]⟩
      ⟨"'%s' total mem amount check succeeded [current total mem amount=%.1f%%]",
        [.str s.name, tenths p.total_mem_percent]⟩
  | .inode | .space => none

/-- `check_process_resources(s, r)` for the `i`-th rule of the resource list. -/
def checkProcessResources (d : Defs) (si : SystemInfo) (s : Service) (i : Nat) (r : Resource) :
    List Event :=
  match processResourceReport d si s r with
  | none => []
  | some (okay, report) =>
    [post .resource (if okay then .succeeded else .failed) (.resource i) report.format report.args]

theorem checkProcessResources_keys (d : Defs) (si : SystemInfo) (s : Service) (i : Nat)
    (r : Resource) :
    ((checkProcessResources d si s i r).map Event.key).Sublist [(.resource, .resource i)] := by
  unfold checkProcessResources; split <;> simp

/-- A rule fails exactly when the test was not skipped and the value meets the limit. -/
theorem checkProcessResources_failed (d : Defs) (si : SystemInfo) (s : Service) (i : Nat)
    (r : Resource) (e : Event) (he : e ∈ checkProcessResources d si s i r) :
    e.state = .failed ↔ ∃ m, processResourceReport d si s r = some (false, m) := by
  unfold checkProcessResources at he
  split at he
  · simp at he
  · next okay report h =>
    simp only [List.mem_singleton] at he
    subst he
    cases okay <;> simp [h]

/-! ## Filesystem resources -/

/-- The shared test of the inode and space rules: a percentage limit when one is set, else
an absolute one. -/
def filesystemLimitTest (i : Nat) (td : Filesystem) (op : Arg) (percent total : Int)
    (percentFormat totalFormat : String) : List Event :=
  let succeeded := [post .resource .succeeded (.filesystem i) "filesystem resources succeeded" []]
  if td.limit_percent ≥ 0 then
    if evalQExpression td.operator percent td.limit_percent then
      [post .resource .failed (.filesystem i) percentFormat
        [tenths percent, op, tenths td.limit_percent]]
    else succeeded
  else if evalQExpression td.operator total td.limit_absolute then
    [post .resource .failed (.filesystem i) totalFormat [.int total, op, .int td.limit_absolute]]
  else succeeded

/-- `check_filesystem_resources(s, td)` for the `i`-th rule of the filesystem list. Only the
inode rule first checks that the filesystem has inodes at all. -/
def checkFilesystemResources (d : Defs) (s : Service) (i : Nat) (td : Filesystem) :
    List Event :=
  let fs := s.inf.filesystem
  let op := Arg.str (d.operatorshortnames td.operator)
  if td.limit_percent < 0 ∧ td.limit_absolute < 0 then [] else
  match td.resource with
  | .inode =>
    if fs.f_files ≤ 0 then [] else
    filesystemLimitTest i td op fs.inode_percent fs.inode_total
      "inode usage %.1f%% matches resource limit [inode usage%s%.1f%%]"
      "inode usage %ld matches resource limit [inode usage%s%ld]"
  | .space =>
    filesystemLimitTest i td op fs.space_percent fs.space_total
      "space usage %.1f%% matches resource limit [space usage%s%.1f%%]"
      "space usage %ld blocks matches resource limit [space usage%s%ld blocks]"
  | _ => []

theorem filesystemLimitTest_keys (i : Nat) (td : Filesystem) (op : Arg) (percent total : Int)
    (percentFormat totalFormat : String) :
    (filesystemLimitTest i td op percent total percentFormat totalFormat).map Event.key =
      [(.resource, .filesystem i)] := by
  unfold filesystemLimitTest; split_ifs <;> rfl

theorem checkFilesystemResources_keys (d : Defs) (s : Service) (i : Nat) (td : Filesystem) :
    ((checkFilesystemResources d s i td).map Event.key).Sublist [(.resource, .filesystem i)] := by
  unfold checkFilesystemResources
  split
  · simp
  · split
    · dsimp only
      split
      · simp
      · rw [filesystemLimitTest_keys]
    · rw [filesystemLimitTest_keys]
    · simp

/-- What the inode rule's extra guard means: on a filesystem without inode support an inode
rule posts nothing, while a space rule with a limit set always posts exactly one event. -/
theorem checkFilesystemResources_inode_space (d : Defs) (s : Service) (i : Nat)
    (td : Filesystem) (hlimit : ¬(td.limit_percent < 0 ∧ td.limit_absolute < 0)) :
    (td.resource = .inode → s.inf.filesystem.f_files ≤ 0 → checkFilesystemResources d s i td = []) ∧
    (td.resource = .space →
      (checkFilesystemResources d s i td).map Event.key = [(.resource, .filesystem i)]) := by
  constructor
  · intro hr hf
    simp [checkFilesystemResources, hlimit, hr, hf]
  · intro hr
    simp only [checkFilesystemResources, hlimit, hr, if_false]
    exact filesystemLimitTest_keys _ _ _ _ _ _ _

end MonitValidation.Tests
