import MonitValidation.Driver.Schedule

/-!
# Following a log file across cycles

`check_match` keeps its read position in the service from one cycle to the next, and
`check_file` keeps beside it the inode and the size of the last `stat`: the position is reset
when the inode changed or the file shrank, and reading is skipped when the file neither
changed its inode nor grew. On a log file that is only appended to, this makes the content
test read every complete line exactly once over a run of the monitor: the lines it examines
in all the cycles that check the file, in order, are those one read of the last content from
its start gives, and the read position ends where that read stops. Nothing is lost or read
twice however the appends fall between cycles (a line whose start a cycle saw without its
newline is read whole, once, by a later cycle), and NUL bytes do not change this: they stall
the one read and the run alike.

The observations of one cycle are those of its probe: what `stat` answers and the content
`fopen` gives. A log that is only appended to is a history of observations each of which
keeps the inode and extends the last content read (`Appended`).
-/

namespace MonitValidation.Driver

open MonitValidation.Scheduler MonitValidation.Validators MonitValidation.Tests
  MonitValidation.Content

/-! ## One call of `check_file` -/

/-- What the content test carries from one cycle to the next: the service's type and path,
whether there are content patterns, the size, inode and previous inode `check_file` stores
from `stat`, and the read position. -/
def tailFields (s : Service) : ServiceType × String × Bool × Nat × Nat × Nat × Nat :=
  (s.type, s.path, s.matchlist.isEmpty, s.inf.file.st_size, s.inf.file.st_ino,
    s.inf.file.st_ino_prev, s.inf.file.readpos)

theorem matchStart_congr {s s' : Service} (h : tailFields s = tailFields s') :
    matchStart s = matchStart s' := by
  simp only [tailFields, Prod.mk.injEq] at h
  obtain ⟨-, hp, -, hsz, hino, hprev, hpos⟩ := h
  simp only [matchStart, hp, hsz, hino, hprev, hpos]

theorem checkChecksum_tailFields (s : Service) (computed : Option String) :
    tailFields (checkChecksum s computed).1 = tailFields s := by
  unfold checkChecksum
  rcases s.checksum with _ | cs <;> rcases computed with _ | sum <;> try rfl
  dsimp only
  rcases hashLength _ with _ | n
  · rfl
  · simp only [apply_ite (fun r : Service × List Event => tailFields r.1)]
    simp only [tailFields, Service.setCsSum, ite_self]

theorem checkSize_tailFields (s : Service) : tailFields (checkSize s).1 = tailFields s := rfl

theorem checkTimestamp_tailFields (s : Service) (now : Int) :
    tailFields (checkTimestamp s now).1 = tailFields s := by
  unfold checkTimestamp; split <;> rfl

/-- `check_match` on a file it opens moves only the read position. -/
theorem checkMatch_tailFields (pattern : String → List UInt8 → Bool) (c : List UInt8)
    (s : Service) :
    tailFields (checkMatch pattern (some c) s).1 =
      (s.type, s.path, s.matchlist.isEmpty, s.inf.file.st_size, s.inf.file.st_ino,
        s.inf.file.st_ino_prev, finalReadpos c s) := by
  rw [checkMatch_some]
  simp only [tailFields, postMatches, foldl_examineLine, Prod.mk.injEq, and_true, true_and]
  cases s.matchlist <;> rfl

/-- The content test is the last test of `check_file`: on a regular file, the tests before it
keep the fields it carries, and it runs, when there are content patterns, on the service
they leave. -/
theorem fileFound_match (pattern : String → List UInt8 → Bool) (computed : Option String)
    (time : Int) (file : Option (List UInt8)) (s : Service) (hreg : S_ISREG s.inf.st_mode = true) :
    ∃ t, tailFields t = tailFields s ∧ ∃ evs,
      fileFound pattern computed time file s =
        if s.matchlist.isEmpty then (true, t, evs)
        else (true, (checkMatch pattern file t).1, evs ++ (checkMatch pattern file t).2) := by
  unfold fileFound
  rw [if_neg (by simp [hreg])]
  dsimp only
  have hcs : tailFields (if s.checksum.isSome then checkChecksum s computed else (s, [])).1 =
      tailFields s := by
    split
    · exact checkChecksum_tailFields ..
    · rfl
  generalize (if s.checksum.isSome then checkChecksum s computed else (s, [])) = cs at hcs ⊢
  have hsize : tailFields (if cs.1.sizelist.isEmpty then (cs.1, []) else checkSize cs.1).1 =
      tailFields s := by
    split
    · exact hcs
    · exact (checkSize_tailFields _).trans hcs
  generalize (if cs.1.sizelist.isEmpty then (cs.1, []) else checkSize cs.1) = size at hsize ⊢
  have hts : tailFields (if size.1.timestamplist.isEmpty then (size.1, [])
      else checkTimestamp size.1 time).1 = tailFields s := by
    split
    · exact hsize
    · exact (checkTimestamp_tailFields ..).trans hsize
  generalize (if size.1.timestamplist.isEmpty then (size.1, [])
    else checkTimestamp size.1 time) = ts at hts ⊢
  have hm : ts.1.matchlist.isEmpty = s.matchlist.isEmpty := congrArg (·.2.2.1) hts
  refine ⟨ts.1, hts, [post .nonexist .succeeded .nonexist "file exist" [],
    post .invalid .succeeded .invalid "is a regular file" []] ++ cs.2 ++ checkOwner cs.1 ++
      size.2 ++ ts.2, ?_⟩
  rw [hm]
  split
  · simp only [List.append_nil]
  · rfl

/-- The lines the content test of one call of `check_file` hands to its tests: those
`check_match` reads when `stat` succeeds on a regular file, the service has content patterns
and `fopen` succeeds; none otherwise. -/
def fileExamined (stat : Option Stat) (file : Option (List UInt8)) (s : Service) :
    List (List UInt8) :=
  match stat, file with
  | some st, some c =>
    if S_ISREG st.st_mode && !s.matchlist.isEmpty then examinedLines c (fileStat s st) else []
  | _, _ => []

/-- `fileStat` stores what `stat` answers over the fields the content test carries; the
previous inode it stores is the stored inode when there is one. -/
theorem fileStat_tailFields (s : Service) (st : Stat) :
    tailFields (fileStat s st) = (s.type, s.path, s.matchlist.isEmpty, st.st_size, st.st_ino,
      if s.inf.file.st_ino ≠ 0 then s.inf.file.st_ino else s.inf.file.st_ino_prev,
      s.inf.file.readpos) := rfl

theorem fileExamined_congr {s s' : Service} (h : tailFields s = tailFields s')
    (stat : Option Stat) (file : Option (List UInt8)) :
    fileExamined stat file s = fileExamined stat file s' := by
  have hpat : s.matchlist.isEmpty = s'.matchlist.isEmpty := congrArg (·.2.2.1) h
  match stat, file with
  | some st, some c =>
    have hst : tailFields (fileStat s st) = tailFields (fileStat s' st) := by
      simp only [tailFields, Prod.mk.injEq] at h
      simp only [fileStat_tailFields, h]
    simp only [fileExamined, hpat, examinedLines, matchStart_congr hst]
  | some _, none => rfl
  | none, _ => rfl

/-- A call of `check_file` whose `fopen` fails stores what `stat` answers and leaves the read
position. -/
theorem checkFile_unread (pattern : String → List UInt8 → Bool) (st : Stat)
    (computed : Option String) (time : Int) (s : Service) :
    tailFields (checkFile pattern (some st) computed time none s).2.1 =
      tailFields (fileStat s st) := by
  by_cases hreg : S_ISREG st.st_mode = true
  · obtain ⟨t, ht, evs, h⟩ := fileFound_match pattern computed time none (fileStat s st) hreg
    rw [checkFile, h]
    split
    · exact ht
    · exact ht
  · have hreg' : S_ISREG (fileStat s st).inf.st_mode = false := by simpa using hreg
    simp only [checkFile, fileFound, hreg', Bool.not_false, if_true]

/-- A call of `check_file` on a regular file it opens, for a service with content patterns,
ends with `check_match` on a service that carries what `fileStat` stored; so its content test
examines `fileExamined`. -/
theorem checkFile_match (pattern : String → List UInt8 → Bool) (st : Stat)
    (computed : Option String) (time : Int) (c : List UInt8) (s : Service)
    (hreg : S_ISREG st.st_mode = true) (hpat : s.matchlist.isEmpty = false) :
    ∃ t, tailFields t = tailFields (fileStat s st) ∧
      examinedLines c t = fileExamined (some st) (some c) s ∧ ∃ evs,
        checkFile pattern (some st) computed time (some c) s =
          (true, (checkMatch pattern (some c) t).1, evs ++ (checkMatch pattern (some c) t).2) := by
  obtain ⟨t, ht, evs, h⟩ := fileFound_match pattern computed time (some c) (fileStat s st) hreg
  have hpat' : (fileStat s st).matchlist.isEmpty = false := hpat
  refine ⟨t, ht, ?_, evs, ?_⟩
  · simp only [fileExamined, hreg, hpat, Bool.not_false, Bool.and_self, if_true, examinedLines,
      matchStart_congr ht]
  · rw [checkFile, h, hpat', if_neg Bool.false_ne_true]

/-! ## Reading on from where the last cycle stopped -/

/-- Where `check_match` starts after `fileStat`, outside `/proc`: at the stored position, when
the inode is the stored one (or nothing has been read yet) and the file did not shrink. -/
theorem matchStart_fileStat {s : Service} {st : Stat}
    (hproc : strStartsWith s.path "/proc" = false) (hino : st.st_ino ≠ 0)
    (hsame : s.inf.file.readpos = 0 ∨ s.inf.file.st_ino = st.st_ino)
    (hle : s.inf.file.readpos ≤ st.st_size) :
    (matchStart (fileStat s st)).1 = s.inf.file.readpos := by
  simp only [matchStart, fileStat, hproc, Bool.false_eq_true, if_false]
  rcases hsame with h0 | hsame
  · simp [h0]
  · have hne : s.inf.file.st_ino ≠ 0 := hsame ▸ hino
    simp [hne, hsame, hino, Nat.not_lt.2 hle]

/-- When `check_match` skips reading, it starts at the end of the file. -/
theorem matchStart_skip {s : Service} (h : (matchStart s).2 = true) :
    (matchStart s).1 = s.inf.file.st_size := by
  unfold matchStart at h ⊢
  split at h
  · cases h
  · next hp => rw [if_neg hp]; simpa using h

/-- A call of `check_match` on a file that has grown from `c` to `c ++ more`, starting where one
read of `c` stops, examines and stops where the read of the grown file from there does. -/
theorem checkMatch_continues {c more : List UInt8} {s : Service}
    (hstart : (matchStart s).1 = (readLines c 0).2)
    (hsize : s.inf.file.st_size = (c ++ more).length) :
    examinedLines (c ++ more) s = (readLines (c ++ more) (readLines c 0).2).1 ∧
      finalReadpos (c ++ more) s = (readLines (c ++ more) (readLines c 0).2).2 := by
  unfold examinedLines finalReadpos
  split
  · next hskip =>
    -- nothing was appended since: the read from the end of the file reads nothing
    have hend : (readLines c 0).2 = (c ++ more).length := by
      rw [← hstart, matchStart_skip hskip, hsize]
    have hnil : readLine ((c ++ more).drop (readLines c 0).2) = .final := by
      rw [hend, List.drop_length]; rfl
    rw [readLines_final hnil, hstart]
    exact ⟨rfl, rfl⟩
  · rw [hstart]
    exact ⟨rfl, rfl⟩

/-! ## A log that is only appended to -/

/-- One cycle's observation of a log file that is only appended to, from the content `c` the
content test read last to the one it has read after the cycle: `stat` fails; or it shows the
inode `ino` and `fopen` fails; or it shows the inode and a regular file, and `fopen` gives a
content that extends `c`, of the size `stat` gives. -/
inductive LogStep (ino : Nat) (c : List UInt8) : Probe → List UInt8 → Prop
  | missing {p : Probe} (hs : p.stat = none) : LogStep ino c p c
  | unread {p : Probe} {st : Stat} (hs : p.stat = some st) (hino : st.st_ino = ino)
      (hc : p.content = none) : LogStep ino c p c
  | grown {p : Probe} {st : Stat} (more : List UInt8) (hs : p.stat = some st)
      (hino : st.st_ino = ino) (hreg : S_ISREG st.st_mode = true)
      (hc : p.content = some (c ++ more)) (hsize : st.st_size = (c ++ more).length) :
      LogStep ino c p (c ++ more)

/-- What the content test carries after it read a log up to the content `c`: a file service
with its path and content patterns, the read position where one read of `c` from its start
stops, and, once anything was read, the log's inode. -/
structure TailInv (path : String) (ino : Nat) (c : List UInt8) (s : Service) : Prop where
  type_eq : s.type = .file
  path_eq : s.path = path
  patterns : s.matchlist.isEmpty = false
  readpos_eq : s.inf.file.readpos = (readLines c 0).2
  ino_eq : c = [] ∨ s.inf.file.st_ino = ino

/-- The invariant reads only the fields the content test carries. -/
theorem TailInv.of_tailFields {path : String} {ino : Nat} {c : List UInt8} {s s' : Service}
    (hi : TailInv path ino c s') (h : tailFields s = tailFields s') : TailInv path ino c s := by
  simp only [tailFields, Prod.mk.injEq] at h
  obtain ⟨hty, hp, hpat, -, hino, -, hpos⟩ := h
  exact ⟨hty.trans hi.type_eq, hp.trans hi.path_eq, hpat.trans hi.patterns,
    hpos.trans hi.readpos_eq, hi.ino_eq.imp_right hino.trans⟩

theorem readLines_nil : readLines [] 0 = ([], 0) := readLines_final rfl

/-- One call of `check_file` keeps the invariant, and the lines its content test examines are
those by which one read of the new content goes past one read of the old. -/
theorem tailInv_checkFile {path : String} (hproc : strStartsWith path "/proc" = false)
    {ino : Nat} (hino : ino ≠ 0) (pattern : String → List UInt8 → Bool) {c c' : List UInt8}
    {p : Probe} (hstep : LogStep ino c p c') {s : Service} (hi : TailInv path ino c s) :
    TailInv path ino c' (checkFile pattern p.stat p.checksum p.time p.content s).2.1 ∧
      (readLines c 0).1 ++ fileExamined p.stat p.content s = (readLines c' 0).1 := by
  cases hstep with
  | missing hs =>
    rw [hs]
    exact ⟨hi, by simp [fileExamined]⟩
  | unread hs hst hc =>
    rw [hs, hc]
    refine ⟨TailInv.of_tailFields ?_ (checkFile_unread ..), by simp [fileExamined]⟩
    exact ⟨hi.type_eq, hi.path_eq, hi.patterns, hi.readpos_eq, .inr hst⟩
  | grown more hs hst hreg hc hsize =>
    rw [hs, hc]
    obtain ⟨t, ht, hex, evs, h⟩ :=
      checkFile_match pattern _ p.checksum p.time (c ++ more) s hreg hi.patterns
    -- `check_match` starts where the read of `c` stopped
    have hstart : (matchStart t).1 = (readLines c 0).2 := by
      rw [matchStart_congr ht, matchStart_fileStat (hi.path_eq ▸ hproc) (hst ▸ hino), hi.readpos_eq]
      · rcases hi.ino_eq with rfl | h
        · exact .inl (by rw [hi.readpos_eq, readLines_nil])
        · exact .inr (h.trans hst.symm)
      · have hle := (readLines_snd_le (Nat.zero_le c.length)).2
        rw [hi.readpos_eq, hsize, List.length_append]
        omega
    have hsize' : t.inf.file.st_size = (c ++ more).length :=
      (congrArg (·.2.2.2.1) ht).trans hsize
    obtain ⟨hlines, hpos⟩ := checkMatch_continues hstart hsize'
    have hall := readLines_append c more 0
    have hm := checkMatch_tailFields pattern (c ++ more) t
    simp only [tailFields, Prod.mk.injEq] at hm ht
    rw [h]
    refine ⟨⟨hm.1.trans (ht.1.trans hi.type_eq), hm.2.1.trans (ht.2.1.trans hi.path_eq),
      hm.2.2.1.trans (ht.2.2.1.trans hi.patterns),
      hm.2.2.2.2.2.2.trans (hpos.trans (congrArg Prod.snd hall).symm),
      .inr (hm.2.2.2.2.1.trans (ht.2.2.2.2.1.trans hst))⟩, ?_⟩
    rw [← hex, hlines, hall]

/-- The observations of the cycles that check a log file that is only appended to, most
recent first, and the last content the content test read. -/
inductive Appended (ino : Nat) : List (World × Probe) → List UInt8 → Prop
  | nil : Appended ino [] []
  | cons {h : List (World × Probe)} {c c' : List UInt8} (w : World) (p : Probe) :
      Appended ino h c → LogStep ino c p c' → Appended ino ((w, p) :: h) c'

/-! ## Runs of the monitor

Only `check_file` writes the fields the content test carries: the scheduled action, the
schedule, the restart counters, the writes of the control layer and the driver's own writes
leave them. So over a run of the monitor the content test sees the history of the cycles that
call the file's validator, as a run of `check_file` calls. -/

theorem doScheduledAction_tailFields (d : Defs) (control : Bool) (written : Control)
    (s : Service) : tailFields (doScheduledAction d control written s).2.1 = tailFields s := by
  unfold doScheduledAction; split <;> rfl

theorem checkSkip_tailFields (d : Defs) (incron : String → Int → Bool) (s : Service) (t : Int) :
    tailFields (checkSkip d incron s t).2 = tailFields s := by
  unfold checkSkip; split
  · rfl
  · dsimp only; split <;> (try split) <;> rfl

theorem checkTimeout_tailFields (d : Defs) (s : Service) :
    tailFields (checkTimeout d s).1 = tailFields s := by
  unfold checkTimeout; split
  · rfl
  · dsimp only; split <;> split <;> rfl

@[simp]
theorem Control.apply_tailFields (c : Control) (s : Service) :
    tailFields (c.apply s) = tailFields s := rfl

theorem loopInput_tailFields (d : Defs) (w : World) (sp : Service × Probe) :
    tailFields (loopInput d w sp) = tailFields sp.1 := by
  unfold loopInput; split
  · exact doScheduledAction_tailFields ..
  · rfl

/-- Whether the loop body of `validate` calls the service's validator: it reaches
`check_timeout`, and the service is still monitored after the sink's answer to its events. -/
def reachesCheck (d : Defs) (w : World) (p : Probe) (s : Service) : Bool :=
  reachesTimeout d w p s &&
    decide ((p.onTimeout.apply (checkTimeout d (checkSkip d w.incron
      (doScheduledAction d p.control p.onAction s).2.1 w.now).2).1).monitor ≠ 0)

/-- Whether a cycle of `validate` on the list `sl` calls the validator of its `i`-th service:
the loop reaches the service before `Run.stopped` is set, and the loop body calls it on the
service as the loop finds it. -/
def checkCalled (d : Defs) (w : World) (sl : List (Service × Probe)) (i : Nat) : Bool :=
  (sl.take (i + 1)).all (fun sp => !sp.2.stopped) &&
    match sl[i]? with
    | some sp => reachesCheck d w sp.2 (loopInput d w sp)
    | none => false

theorem checkCalled_of_getElem? (d : Defs) (w : World) {sl : List (Service × Probe)} {i : Nat}
    {sp : Service × Probe} (h : sl[i]? = some sp) :
    checkCalled d w sl i = ((sl.take (i + 1)).all (fun y => !y.2.stopped) &&
      reachesCheck d w sp.2 (loopInput d w sp)) := by
  simp only [checkCalled, h]

/-- The loop body on the fields the content test carries: when it calls the validator, they
are what the validator leaves on a service that carries the fields of the service itself;
otherwise they are the service's. -/
theorem validateService_tailFields (d : Defs) (w : World) (p : Probe) (s : Service) :
    ∃ x, tailFields x = tailFields s ∧
      tailFields (validateService d w p s).2.1 =
        if reachesCheck d w p s then tailFields (checkService d w p x).2.1 else tailFields s := by
  have hx : tailFields (p.onTimeout.apply (checkTimeout d
      (checkSkip d w.incron (doScheduledAction d p.control p.onAction s).2.1 w.now).2).1) =
      tailFields s :=
    (checkTimeout_tailFields ..).trans
      ((checkSkip_tailFields ..).trans (doScheduledAction_tailFields ..))
  refine ⟨_, hx, ?_⟩
  unfold validateService
  dsimp only
  by_cases ha : (doScheduledAction d p.control p.onAction s).1 = false ∧
      (doScheduledAction d p.control p.onAction s).2.1.monitor ≠ 0
  · rw [if_pos ha]
    by_cases hsk : (checkSkip d w.incron (doScheduledAction d p.control p.onAction s).2.1 w.now).1
        = false
    · rw [if_pos hsk]
      by_cases hm : (p.onTimeout.apply (checkTimeout d (checkSkip d w.incron
          (doScheduledAction d p.control p.onAction s).2.1 w.now).2).1).monitor ≠ 0
      · have hr : reachesCheck d w p s = true := by
          simp only [reachesCheck, reachesTimeout, decide_eq_true ha, hsk, decide_eq_true hm,
            Bool.not_false, Bool.and_self]
        rw [if_pos hm, if_pos hr]
        split <;> rfl
      · have hr : reachesCheck d w p s = false := by
          simp only [reachesCheck, decide_eq_false hm, Bool.and_false]
        rw [if_neg hm, if_neg (by simp [hr])]
        exact hx
    · have hr : reachesCheck d w p s = false := by simp [reachesCheck, reachesTimeout, hsk]
      rw [if_neg hsk, if_neg (by simp [hr])]
      exact (checkSkip_tailFields ..).trans (doScheduledAction_tailFields ..)
  · have hr : reachesCheck d w p s = false := by
      simp only [reachesCheck, reachesTimeout, decide_eq_false ha, Bool.false_and]
    rw [if_neg ha, if_neg (by simp [hr])]
    exact doScheduledAction_tailFields ..

/-- One cycle of `validate` on the fields the content test of the `i`-th service carries. -/
theorem validate_tailFields (d : Defs) (w : World) {sl : List (Service × Probe)} {i : Nat}
    {sp : Service × Probe} (h : sl[i]? = some sp) :
    ∃ y ∈ (validate d w sl).2[i]?, ∃ x, tailFields x = tailFields sp.1 ∧
      tailFields y.1 =
        if checkCalled d w sl i then tailFields (checkService d w sp.2 x).2.1 else tailFields sp.1 := by
  rw [validate_getElem?, h, Option.map_some']
  refine ⟨_, rfl, ?_⟩
  have hpre := loopInput_tailFields d w sp
  obtain ⟨x, hx, hv⟩ := validateService_tailFields d w sp.2 (loopInput d w sp)
  refine ⟨x, hx.trans hpre, ?_⟩
  dsimp only
  rw [checkCalled_of_getElem? d w h]
  by_cases hall : ((sl.take (i + 1)).all fun y => !y.2.stopped) = true
  · rw [if_pos hall, hall, Bool.true_and]
    exact hv.trans (by rw [hpre])
  · rw [if_neg hall, Bool.eq_false_iff.2 hall, Bool.false_and, if_neg Bool.false_ne_true]
    exact hpre

/-- The cycles of a run that call the `i`-th service's validator, most recent first, each
with its world and the service's probe. -/
def checkHistory (d : Defs) (sl : List Service) (i : Nat) : List MonitorStep → List (World × Probe)
  | [] => []
  | .restart _ :: run => checkHistory d sl i run
  | .cycle w probe :: run =>
    if checkCalled d w (withProbes (monitorRun d sl run) probe) i then
      (w, probe i) :: checkHistory d sl i run
    else checkHistory d sl i run

/-- The lines the content test of the `i`-th service examined over a run, oldest first. -/
def tailHistory (d : Defs) (sl : List Service) (i : Nat) : List MonitorStep → List (List UInt8)
  | [] => []
  | .restart _ :: run => tailHistory d sl i run
  | .cycle w probe :: run =>
    if checkCalled d w (withProbes (monitorRun d sl run) probe) i then
      tailHistory d sl i run ++
        ((monitorRun d sl run)[i]?.map (fileExamined (probe i).stat (probe i).content)).getD []
    else tailHistory d sl i run

/-- The invariant over every run of the monitor whose checks of a file service observe a log
that is only appended to. -/
theorem monitorRun_tailInv (d : Defs) {sl : List Service} {i : Nat} {s : Service}
    (hs : sl[i]? = some s) (hfile : s.type = .file) (hproc : strStartsWith s.path "/proc" = false)
    (hpat : s.matchlist ≠ []) (h0 : s.inf.file.readpos = 0) {ino : Nat} (hino : ino ≠ 0) :
    ∀ (run : List MonitorStep) (c : List UInt8), Appended ino (checkHistory d sl i run) c →
      tailHistory d sl i run = (readLines c 0).1 ∧
        ∃ x ∈ (monitorRun d sl run)[i]?, TailInv s.path ino c x
  | [], c, happ => by
    rw [checkHistory] at happ
    cases happ
    refine ⟨by rw [readLines_nil]; rfl, s, hs, hfile, rfl, ?_, by rw [h0, readLines_nil], .inl rfl⟩
    simpa [List.isEmpty_iff] using hpat
  | .restart j :: run, c, happ => by
    rw [checkHistory] at happ
    obtain ⟨hl, x, hx, hi⟩ := monitorRun_tailInv d hs hfile hproc hpat h0 hino run c happ
    exact ⟨hl, _, monitorRun_restart hx, hi.of_tailFields (by split <;> rfl)⟩
  | .cycle w probe :: run, c, happ => by
    by_cases hc : checkCalled d w (withProbes (monitorRun d sl run) probe) i = true
    · rw [checkHistory, if_pos hc] at happ
      cases happ with
      | cons _ _ happ hstep =>
        obtain ⟨hl, x, hx, hi⟩ := monitorRun_tailInv d hs hfile hproc hpat h0 hino run _ happ
        obtain ⟨y, hy, x', hx', hyv⟩ := validate_tailFields d w (withProbes_getElem?_some probe hx)
        rw [if_pos hc] at hyv
        have hi' := hi.of_tailFields hx'
        -- the validator of a file service is `check_file`
        have hcs : checkService d w (probe i) x' = checkFile w.pattern (probe i).stat
            (probe i).checksum (probe i).time (probe i).content x' := by
          simp [checkService, hi'.type_eq]
        obtain ⟨hnext, hex⟩ := tailInv_checkFile hproc hino w.pattern hstep hi'
        refine ⟨?_, y.1, monitorRun_cycle hy, hnext.of_tailFields (hyv.trans (by rw [hcs]))⟩
        rw [Option.mem_def] at hx
        simp only [tailHistory, hc, if_true, hx, Option.map_some', Option.getD_some, hl,
          fileExamined_congr hx'.symm]
        exact hex
    · rw [checkHistory, if_neg hc] at happ
      obtain ⟨hl, x, hx, hi⟩ := monitorRun_tailInv d hs hfile hproc hpat h0 hino run c happ
      obtain ⟨y, hy, _, -, hyv⟩ := validate_tailFields d w (withProbes_getElem?_some probe hx)
      rw [if_neg hc] at hyv
      exact ⟨by simp only [tailHistory, hc, hl, Bool.false_eq_true, if_false], y.1,
        monitorRun_cycle hy, hi.of_tailFields hyv⟩

/-- Over every run of the monitor, take a file service outside `/proc` with content patterns
whose read position starts at `0`, and suppose the cycles that call its validator observe a
log that is only appended to. Then its content test has examined, over the whole run and in
order, exactly the lines one read of the last content from its start gives, and the read
position stands where that read stops. -/
theorem monitorRun_reads_log_once (d : Defs) {sl : List Service} {i : Nat} {s : Service}
    (hs : sl[i]? = some s) (hfile : s.type = .file) (hproc : strStartsWith s.path "/proc" = false)
    (hpat : s.matchlist ≠ []) (h0 : s.inf.file.readpos = 0) {ino : Nat} (hino : ino ≠ 0)
    (run : List MonitorStep) {c : List UInt8} (happ : Appended ino (checkHistory d sl i run) c) :
    tailHistory d sl i run = (readLines c 0).1 ∧
      ∃ x ∈ (monitorRun d sl run)[i]?, x.inf.file.readpos = (readLines c 0).2 := by
  obtain ⟨hl, x, hx, hi⟩ := monitorRun_tailInv d hs hfile hproc hpat h0 hino run c happ
  exact ⟨hl, x, hx, hi.readpos_eq⟩

/-- A log that holds `"ab\nc"` at the first check and `"ab\nc\nd"` at the second: the first
cycle examines `"ab"`, the second the line `"c"` it completed, and `"d"` waits for its
newline, at position `5`. -/
theorem monitorRun_reads_log_once_growing_line :
    let d : Defs := { (default : Defs) with MONITOR_YES := 1 }
    let s : Service := { (default : Service) with
      type := .file, path := "/var/log/app.log", monitor := 1, matchlist := [⟨"", false, none⟩] }
    let p1 : Probe := { sampleProbe with
      stat := some { (default : Stat) with st_mode := 0o100644, st_ino := 7, st_size := 4 },
      content := some [97, 98, 10, 99] }
    let p2 : Probe := { sampleProbe with
      stat := some { (default : Stat) with st_mode := 0o100644, st_ino := 7, st_size := 6 },
      content := some [97, 98, 10, 99, 10, 100] }
    let run : List MonitorStep := [.cycle quietWorld fun _ => p2, .cycle quietWorld fun _ => p1]
    ([s][0]? = some s ∧ s.type = .file ∧ strStartsWith s.path "/proc" = false ∧
      s.matchlist ≠ [] ∧ s.inf.file.readpos = 0 ∧ (7 : Nat) ≠ 0 ∧
      Appended 7 (checkHistory d [s] 0 run) [97, 98, 10, 99, 10, 100]) ∧
    tailHistory d [s] 0 run = [[97, 98], [99]] ∧
      ∃ x ∈ (monitorRun d [s] run)[0]?, x.inf.file.readpos = 5 := by
  intro d s p1 p2 run
  have hhist : checkHistory d [s] 0 run = [(quietWorld, p2), (quietWorld, p1)] := by
    have h1 : checkCalled d quietWorld (withProbes (monitorRun d [s] []) fun _ => p1) 0 = true := by
      decide
    have h2 : checkCalled d quietWorld
        (withProbes (monitorRun d [s] [.cycle quietWorld fun _ => p1]) fun _ => p2) 0 = true := by
      decide
    simp only [run, checkHistory, h1, h2, if_true]
  have happ : Appended 7 (checkHistory d [s] 0 run) [97, 98, 10, 99, 10, 100] := by
    rw [hhist]
    exact .cons _ _ (.cons _ _ .nil (.grown [97, 98, 10, 99] rfl rfl (by decide) rfl rfl))
      (.grown [10, 100] rfl rfl (by decide) rfl rfl)
  have hread : readLines [97, 98, 10, 99, 10, 100] 0 = ([[97, 98], [99]], 5) := by
    rw [@readLines_of_nul_free [97, 98, 10, 99, 10, 100] 0 [[97, 98], [99]] [100] (by decide)
      (by decide) (by decide) (by decide)]
    rfl
  have hne : s.matchlist ≠ [] := List.cons_ne_nil _ _
  obtain ⟨hl, hx⟩ := monitorRun_reads_log_once d rfl rfl (by decide) hne rfl (by decide) run happ
  rw [hread] at hl hx
  exact ⟨⟨rfl, rfl, by decide, hne, rfl, by decide, happ⟩, hl, hx⟩

end MonitValidation.Driver
