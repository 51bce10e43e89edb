import MonitValidation.Engine.Event

/-!
# Services, their snapshots and their test descriptors

The records `validate.c` reads and writes: a service with its monitoring state, schedule,
restart counters, info snapshot and test lists; the system-wide snapshot refreshed at the
start of a cycle; and the declarations of `monit.h` the engine depends on but `src/` does
not hold, which are kept as a parameter `Defs` so that every result holds for each choice
of them.

C `int`s that the code only compares or counts are `Int` (or `Nat` where the source keeps
them non-negative); the monitoring state is the 32-bit flag word it is in C. The `union`
of kind-specific snapshots is a product: each validator reads only its own part.
-/

namespace MonitValidation

/-- Which validator `s->check` is (`TYPE_FILESYSTEM`, ...). -/
inductive ServiceType
  | filesystem | directory | file | process | host | system | fifo | program
  deriving DecidableEq, Repr, Inhabited

/-- `EVERY_CYCLE`, `EVERY_SKIPCYCLES`, `EVERY_CRON`, `EVERY_NOTINCRON`. -/
inductive EveryType
  | cycle | skipCycles | cron | notInCron
  deriving DecidableEq, Repr, Inhabited

/-- `s->every`: the schedule `check_skip` reads. -/
structure Every where
  type : EveryType
  /-- `every.spec.cycle.counter` -/
  counter : Int
  /-- `every.spec.cycle.number` -/
  number : Int
  /-- `every.spec.cron` -/
  cron : String
  deriving Inhabited

/-- `HASH_UNKNOWN`, `HASH_MD5`, `HASH_SHA1`. -/
inductive HashType
  | unknown | md5 | sha1
  deriving DecidableEq, Repr, Inhabited

/-- ICMP test types; only `ICMP_ECHO` is handled, any other code takes the `default:` branch. -/
inductive IcmpType
  | echo
  | other (code : Nat)
  deriving DecidableEq, Repr, Inhabited

/-- `RESOURCE_ID_*`: the process, system and filesystem resources a rule can name. -/
inductive ResourceId
  | cpuPercent | totalCpuPercent | cpuUser | cpuSystem | cpuWait | memPercent | memKbyte
  | swapPercent | swapKbyte | load1 | load5 | load15 | children | totalMemKbyte
  | totalMemPercent | inode | space
  deriving DecidableEq, Repr, Inhabited

/-- The declarations of `monit.h` and `process.h` that `validate.c` uses and `src/` does not
hold: the monitoring-state flags, the buffer size `STRLEN`, the zombie flag, and the tables
of names printed into event messages. -/
structure Defs where
  MONITOR_NOT : BitVec 32
  MONITOR_YES : BitVec 32
  MONITOR_INIT : BitVec 32
  MONITOR_WAITING : BitVec 32
  STRLEN : Nat
  PROCESS_ZOMBIE : Nat
  actionnames : Action → String
  operatorshortnames : Operator → String
  icmpnames : IcmpType → String
  deriving Inhabited

/-- `struct timeval`. -/
structure Timeval where
  sec : Int
  usec : Int
  deriving DecidableEq, Repr, Inhabited

/-! ## Info snapshot -/

/-- `s->inf->priv.file`. -/
structure FileInfo where
  st_size : Nat
  st_ino : Nat
  st_ino_prev : Nat
  /-- the checksum computed in this cycle, as hex text -/
  cs_sum : String
  readpos : Nat
  deriving Inhabited

/-- `s->inf->priv.filesystem`. -/
structure FilesystemInfo where
  f_blocks : Int
  f_blocksfree : Int
  f_blocksfreetotal : Int
  f_files : Int
  f_filesfree : Int
  flags : Int
  /-- the flags of the previous sample, `-1` before the first -/
  _flags : Int
  inode_percent : Int
  space_percent : Int
  inode_total : Int
  space_total : Int
  deriving Inhabited

/-- `s->inf->priv.process`; percentages are scaled by ten. -/
structure ProcessInfo where
  pid : Int
  /-- the pid of the previous sample, `-1` before the first -/
  _pid : Int
  ppid : Int
  _ppid : Int
  status_flag : Nat
  cpu_percent : Int
  total_cpu_percent : Int
  mem_percent : Int
  total_mem_percent : Int
  mem_kbyte : Int
  total_mem_kbyte : Int
  children : Int
  uptime : Int
  deriving Inhabited

/-- `s->inf`. -/
structure Info where
  st_mode : Nat
  st_uid : Nat
  st_gid : Nat
  /-- `MAX(st_mtime, st_ctime)` of the last `stat` -/
  timestamp : Int
  file : FileInfo
  filesystem : FilesystemInfo
  process : ProcessInfo
  deriving Inhabited

/-! ## Test descriptors -/

/-- `Checksum_T`. -/
structure Checksum where
  type : HashType
  /-- the expected hash -/
  hash : String
  initialized : Bool
  test_changes : Bool
  deriving Inhabited

/-- `Perm_T`. -/
structure Perm where
  perm : Nat
  deriving Inhabited

/-- `Uid_T`. -/
structure Uid where
  uid : Nat
  deriving Inhabited

/-- `Gid_T`. -/
structure Gid where
  gid : Nat
  deriving Inhabited

/-- `Size_T`: a size limit, or with `test_changes` the last size seen. -/
structure Size where
  operator : Operator
  size : Nat
  test_changes : Bool
  initialized : Bool
  deriving Inhabited

/-- `Timestamp_T`: an age limit in seconds, or with `test_changes` the last timestamp seen. -/
structure Timestamp where
  operator : Operator
  time : Int
  test_changes : Bool
  timestamp : Int
  deriving Inhabited

/-- `Uptime_T`. -/
structure Uptime where
  operator : Operator
  uptime : Int
  deriving Inhabited

/-- `Match_T`: a content pattern, its negation flag, and the text collected in this cycle
(`ml->log`, `NULL` outside `check_match`). -/
structure Match where
  match_string : String
  not : Bool
  log : Option (List UInt8)
  deriving Inhabited

/-- `Resource_T`. -/
structure Resource where
  resource_id : ResourceId
  operator : Operator
  limit : Int
  deriving Inhabited

/-- `Filesystem_T`: a limit in tenths of a percent, or absolute (`-1` when unset). -/
structure Filesystem where
  resource : ResourceId
  operator : Operator
  limit_percent : Int
  limit_absolute : Int
  deriving Inhabited

/-- `Port_T`: the fields `check_connection` reads and writes. `description` is the text
`Util_portDescription` renders for the port; `default_check` says whether the protocol's
check is `check_default`. -/
structure Port where
  retry : Int
  response : Float
  is_available : Bool
  protocol_name : String
  default_check : Bool
  description : String
  deriving Inhabited

/-- `Icmp_T`. -/
structure Icmp where
  type : IcmpType
  timeout : Int
  count : Int
  response : Float
  is_available : Bool
  deriving Inhabited

/-- `Status_T`: a rule on a program's exit status. -/
structure Status where
  operator : Operator
  return_value : Int
  deriving Inhabited

/-- `ActionRate_T`: `if restarted count times within cycle cycles then action`. -/
structure ActionRate where
  count : Nat
  cycle : Nat
  action : EventAction
  deriving DecidableEq, Inhabited

/-- A child started by `Command_execute`, as the operating system runs it: it exits by
itself at clock time `exitTime` (if ever) with status `exitStatus`, reports `killStatus`
when killed and waited for, and has written `errorOutput` and `inputOutput`. -/
structure Process where
  pid : Int
  exitTime : Option Int
  exitStatus : Nat
  killStatus : Nat
  errorOutput : List UInt8
  inputOutput : List UInt8
  deriving Inhabited

/-- `Program_T`. -/
structure Program where
  P : Option Process
  started : Int
  timeout : Int
  exitStatus : Int
  deriving Inhabited

/-- `Service_T`, with the fields the engine reads or writes. `error` is the sink's bitmap of
currently failed event kinds. -/
structure Service where
  name : String
  path : String
  type : ServiceType
  monitor : BitVec 32
  visited : Bool
  every : Every
  doaction : Action
  token : Option String
  error : EventKind → Bool
  nstart : Nat
  ncycle : Nat
  actionratelist : List ActionRate
  inf : Info
  checksum : Option Checksum
  perm : Option Perm
  uid : Option Uid
  gid : Option Gid
  sizelist : List Size
  timestamplist : List Timestamp
  uptimelist : List Uptime
  matchlist : List Match
  matchignorelist : List Match
  resourcelist : List Resource
  filesystemlist : List Filesystem
  portlist : List Port
  icmplist : List Icmp
  statuslist : List Status
  program : Program
  collected : Timeval
  deriving Inhabited

/-- `systeminfo`: the system-wide snapshot the driver refreshes at the start of a cycle. -/
structure SystemInfo where
  total_cpu_user_percent : Int
  total_cpu_syst_percent : Int
  total_cpu_wait_percent : Int
  total_mem_percent : Int
  total_mem_kbyte : Int
  total_swap_percent : Int
  total_swap_kbyte : Int
  loadavg : Fin 3 → Float
  collected : Timeval
  deriving Inhabited

/-! ## Updates of the snapshot -/

/-- `s->inf->priv.file.cs_sum := sum`. -/
def Service.setCsSum (s : Service) (sum : String) : Service :=
  { s with inf := { s.inf with file := { s.inf.file with cs_sum := sum } } }

/-- `s->inf->priv.file.st_size := v`, the size `check_file` stores from `stat`. -/
def Service.setStSize (s : Service) (v : Nat) : Service :=
  { s with inf := { s.inf with file := { s.inf.file with st_size := v } } }

/-- `s->inf->timestamp := ts`, the time `check_file` stores from `stat`. -/
def Service.setTimestamp (s : Service) (ts : Int) : Service :=
  { s with inf := { s.inf with timestamp := ts } }

@[simp]
theorem Service.setCsSum_checksum (s : Service) (sum : String) :
    (s.setCsSum sum).checksum = s.checksum := rfl

@[simp]
theorem Service.setStSize_sizelist (s : Service) (v : Nat) :
    (s.setStSize v).sizelist = s.sizelist := rfl

@[simp]
theorem Service.setStSize_st_size (s : Service) (v : Nat) :
    (s.setStSize v).inf.file.st_size = v := rfl

@[simp]
theorem Service.setTimestamp_timestamplist (s : Service) (ts : Int) :
    (s.setTimestamp ts).timestamplist = s.timestamplist := rfl

@[simp]
theorem Service.setTimestamp_timestamp (s : Service) (ts : Int) :
    (s.setTimestamp ts).inf.timestamp = ts := rfl

/-! ## Writes of the control layer -/

/-- What `control_service` or the actions of the event sink write into a service at one point
of a cycle, given what they find there: they may unmonitor it (`MONITOR_NOT`), start or
monitor it again (`MONITOR_INIT`), also as a dependant of another service, and mark it visited
in a dependency walk. Of what the control layer writes, these are the fields `validate.c`
reads. -/
structure Control where
  monitor : BitVec 32 → BitVec 32
  visited : Bool → Bool

/-- The service after the write. -/
def Control.apply (c : Control) (s : Service) : Service :=
  { s with monitor := c.monitor s.monitor, visited := c.visited s.visited }

/-- No write. -/
def Control.keep : Control := ⟨id, id⟩

@[simp]
theorem Control.keep_apply (s : Service) : Control.keep.apply s = s := rfl

@[simp]
theorem Control.apply_monitor (c : Control) (s : Service) :
    (c.apply s).monitor = c.monitor s.monitor := rfl

@[simp]
theorem Control.apply_visited (c : Control) (s : Service) :
    (c.apply s).visited = c.visited s.visited := rfl

@[simp]
theorem Control.apply_type (c : Control) (s : Service) : (c.apply s).type = s.type := rfl

@[simp]
theorem Control.apply_doaction (c : Control) (s : Service) :
    (c.apply s).doaction = s.doaction := rfl

/-! ## File modes -/

/-- `struct stat`, as far as the engine reads it. -/
structure Stat where
  st_mode : Nat
  st_ino : Nat
  st_uid : Nat
  st_gid : Nat
  st_size : Nat
  st_mtime : Int
  st_ctime : Int
  deriving Inhabited

/-- File-type bits of `st_mode` (`<sys/stat.h>`). -/
def S_IFMT : Nat := 0o170000

def S_ISREG (m : Nat) : Bool := m &&& S_IFMT == 0o100000

def S_ISDIR (m : Nat) : Bool := m &&& S_IFMT == 0o040000

def S_ISFIFO (m : Nat) : Bool := m &&& S_IFMT == 0o010000

def S_ISLNK (m : Nat) : Bool := m &&& S_IFMT == 0o120000

end MonitValidation
