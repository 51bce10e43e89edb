import MonitValidation.Engine.Plan
import MonitValidation.Engine.Service

/-!
# The program check: `check_program`

A program service runs a command every cycle and evaluates its exit status. The child
outlives the call that started it: the next call asks for its exit status, and either
defers (the child still runs and has not timed out), or kills and waits for it (timed out),
or finds it exited; it then evaluates the status against every status rule, frees the
handle and starts the command again.

The operating system is the environment: each child is a `Process` that exits by itself at
some clock time or never, and each call is given the clock value and what `Command_execute`
returns. Besides the service and its events, a call returns the calls it made to the
process library. The library's rules for a handle are a small state machine (`HandleState`):
a handle is freed only once its child has reported an exit status or has been killed and
waited for, and a command is started only while no handle is held. Every run of
`check_program` follows these rules, and every child is evaluated once, in the first call
that finds it exited or timed out, with its final status.
-/

namespace MonitValidation.Validators

/-- `Process_exitStatus(P)` at time `now`: the child's exit status once it has exited, `-1`
while it runs. -/
def processExitStatus (P : Process) (now : Int) : Int :=
  match P.exitTime with
  | some t => if t ≤ now then P.exitStatus else -1
  | none => -1

/-- A call to the process library made by `check_program`. -/
inductive ProcessOp
  /-- `Process_exitStatus(P)` and what it returned -/
  | exitStatus (pid status : Int)
  | kill (pid : Int)
  | waitFor (pid : Int)
  | free (pid : Int)
  /-- `Command_execute(C)`: the pid of the new child, `none` for `NULL` -/
  | execute (child : Option Int)
  deriving DecidableEq

/-- `InputStream_readBytes(stream, buf, STRLEN)`: up to `STRLEN` bytes of what the child
wrote, and what is left to read. -/
def readBytes (d : Defs) (stream : List UInt8) : List UInt8 × List UInt8 :=
  (stream.take d.STRLEN, stream.drop d.STRLEN)

/-- The loop over the status rules, from the `i`-th, for the exit status `status`; a failed
rule reads its message from the child's error stream, or its output when that is empty. -/
def statusLoop (d : Defs) (s : Service) (status : Int) :
    Nat → List Status → List UInt8 × List UInt8 → List Event
  | _, [], _ => []
  | i, st :: rest, (err, out) =>
    if evalQExpression st.operator status st.return_value then
      let e := readBytes d err
      let o := if e.1.length = 0 then readBytes d out else (e.1, out)
      let ev := if o.1.length > 0 then
          post .status .failed (.status i) "%s" [.bytes (o.1.takeWhile fun b => b != 0)]
        else
          post .status .failed (.status i)
            "'%s' failed with exit status (%d) -- no output from program" [.str s.path, .int status]
      ev :: statusLoop d s status (i + 1) rest (e.2, o.2)
    else
      post .status .succeeded (.status i) "status succeeded" [] ::
        statusLoop d s status (i + 1) rest (err, out)

/-- The end of `check_program`: start the command, `spawn` being what `Command_execute`
returns (the text of `STRERROR` on failure). -/
def startProgram (s : Service) (now : Int) (spawn : Except String Process) (evs : List Event)
    (ops : List ProcessOp) : Service × List Event × List ProcessOp :=
  match spawn with
  | .error err =>
    ({ s with program := { s.program with P := none } },
      evs ++ [post .status .failed .exec "failed to execute '%s' -- %s" [.str s.path, .str err]],
      ops ++ [.execute none])
  | .ok P =>
    ({ s with program := { s.program with P := some P, started := now } },
      evs ++ [post .status .succeeded .exec "'%s' program started" [.str s.name]],
      ops ++ [.execute (some P.pid)])

/-- The evaluation of a child that is no longer running, with its exit status `status`:
save it, test every status rule, free the handle, and start the command again. -/
def reapProgram (d : Defs) (s : Service) (now : Int) (spawn : Except String Process)
    (P : Process) (status : Int) (ops : List ProcessOp) : Service × List Event × List ProcessOp :=
  let s := { s with program := { s.program with exitStatus := status } }
  let evs := statusLoop d s status 0 s.statuslist (P.errorOutput, P.inputOutput)
  startProgram { s with program := { s.program with P := none } } now spawn evs
    (ops ++ [.exitStatus P.pid status, .free P.pid])

/-- `check_program(s)` at clock time `now`: the service, its events, and the calls it made to
the process library. -/
def checkProgram (d : Defs) (s : Service) (now : Int) (spawn : Except String Process) :
    Service × List Event × List ProcessOp :=
  match s.program.P with
  | none => startProgram s now spawn [] []
  | some P =>
    if processExitStatus P now < 0 then
      if now - s.program.started > s.program.timeout then
        reapProgram d s now spawn P P.killStatus
          [.exitStatus P.pid (processExitStatus P now), .kill P.pid, .waitFor P.pid]
      else (s, [], [.exitStatus P.pid (processExitStatus P now)])
    else
      reapProgram d s now spawn P (processExitStatus P now)
        [.exitStatus P.pid (processExitStatus P now)]

/-- Successive calls of `check_program`, each at its clock time and with what
`Command_execute` returns in it; the events and library calls of all of them. -/
def programRun (d : Defs) (s : Service) :
    List (Int × Except String Process) → Service × List Event × List ProcessOp
  | [] => (s, [], [])
  | (now, spawn) :: calls =>
    let r := checkProgram d s now spawn
    let rest := programRun d r.1 calls
    (rest.1, r.2.1 ++ rest.2.1, r.2.2 ++ rest.2.2)

/-- Whether a call at time `now` need no longer wait for the child `P`: it has exited, or has
run for longer than the timeout. -/
def childFinished (prog : Program) (P : Process) (now : Int) : Prop :=
  0 ≤ processExitStatus P now ∨ now - prog.started > prog.timeout

/-- The exit status a finished child is evaluated with: its own once it has exited, else the
status `Process_waitFor` reports after the kill. -/
def finalStatus (P : Process) (now : Int) : Int :=
  if 0 ≤ processExitStatus P now then processExitStatus P now else P.killStatus

/-! ## The rules of the process library -/

/-- What the owner of a child handle knows: the child it holds, whether the child can no
longer run (it reported an exit status, or was killed and waited for), and whether it was
killed. -/
structure HandleState where
  held : Option Int
  done : Bool
  killed : Bool
  deriving DecidableEq

/-- One library call under the rules; `none` when the call breaks them. -/
def HandleState.step (h : HandleState) : ProcessOp → Option HandleState
  | .exitStatus pid status =>
    if h.held = some pid then some { h with done := h.done || decide (0 ≤ status) } else none
  | .kill pid => if h.held = some pid then some { h with killed := true } else none
  | .waitFor pid => if h.held = some pid ∧ h.killed then some { h with done := true } else none
  | .free pid => if h.held = some pid ∧ h.done then some ⟨none, false, false⟩ else none
  | .execute child => if h.held = none then some ⟨child, false, false⟩ else none

/-- A sequence of library calls under the rules. -/
def HandleState.run : HandleState → List ProcessOp → Option HandleState
  | h, [] => some h
  | h, op :: ops => (h.step op).bind fun h => h.run ops

theorem HandleState.run_append (h : HandleState) (ops ops' : List ProcessOp) :
    h.run (ops ++ ops') = (h.run ops).bind fun h => h.run ops' := by
  induction ops generalizing h with
  | nil => rfl
  | cons op ops ih =>
    simp only [List.cons_append, run]
    cases h.step op <;> simp [ih]

/-- The handle state a service stands for between two calls: the child it holds, fresh. -/
def handleOf (s : Service) : HandleState := ⟨s.program.P.map Process.pid, false, false⟩

/-! ## One call -/

theorem statusLoop_states (d : Defs) (s : Service) (status : Int) (i : Nat) (l : List Status)
    (streams : List UInt8 × List UInt8) :
    (statusLoop d s status i l streams).map Event.state = l.map fun st =>
      if evalQExpression st.operator status st.return_value then .failed else .succeeded := by
  induction l generalizing i streams with
  | nil => rfl
  | cons st rest ih =>
    obtain ⟨err, out⟩ := streams
    unfold statusLoop
    split
    · next h =>
      simp only [List.map_cons, ih, h, ite_true, List.cons.injEq, and_true]
      split <;> split <;> rfl
    · next h => simp [ih, h]

theorem statusLoop_not_exec (d : Defs) (s : Service) (status : Int) (i : Nat) (l : List Status)
    (streams : List UInt8 × List UInt8) : ∀ e ∈ statusLoop d s status i l streams, e.action ≠ .exec := by
  induction l generalizing i streams with
  | nil => simp [statusLoop]
  | cons st rest ih =>
    obtain ⟨err, out⟩ := streams
    unfold statusLoop
    split <;> simp only [List.mem_cons, forall_eq_or_imp]
    · exact ⟨by split <;> split <;> simp, ih _ _⟩
    · exact ⟨by simp, ih _ _⟩

/-- Every status rule posts exactly once, under its own action record. -/
theorem statusLoop_keys (d : Defs) (s : Service) (status : Int) (i : Nat) (l : List Status)
    (streams : List UInt8 × List UInt8) :
    (statusLoop d s status i l streams).map Event.key =
      (List.range' i l.length).map fun j => (.status, .status j) := by
  induction l generalizing i streams with
  | nil => rfl
  | cons st rest ih =>
    obtain ⟨err, out⟩ := streams
    unfold statusLoop
    split
    · simp only [List.map_cons, ih, List.length_cons, List.range'_succ]
      split <;> split <;> rfl
    · simp [ih, List.range'_succ]

/-- Starting the command posts its `exec` event after the events `evs` of the status rules. -/
theorem startProgram_oneKind (s : Service) (now : Int) (spawn : Except String Process)
    {evs : List Event} (hevs : OneKind .status evs) (hnot : ∀ e ∈ evs, e.action ≠ .exec)
    (ops : List ProcessOp) : OneKind .status (startProgram s now spawn evs ops).2.1 := by
  cases spawn <;>
    exact hevs.append (oneKind_post ..) fun e he e' he' hkey => hnot e he (by
      simp only [List.mem_singleton] at he'
      subst he'
      exact congrArg Prod.snd hkey)

/-- `check_program` posts only `Status` events, at most one per status rule and one for
starting the command. -/
theorem checkProgram_plan (d : Defs) (s : Service) (now : Int) (spawn : Except String Process) :
    PostPlan [.status] (checkProgram d s now spawn).2.1 := by
  have hreap : ∀ s' P status ops, OneKind .status (reapProgram d s' now spawn P status ops).2.1 :=
    fun s' P status ops => startProgram_oneKind _ _ _
      (oneKind_of_sublist_range ActionRef.status (fun _ _ h => by injection h)
        (by rw [statusLoop_keys]))
      (statusLoop_not_exec d _ _ _ _ _) _
  refine PostPlan.single ?_
  unfold checkProgram
  split
  · exact startProgram_oneKind _ _ _ (oneKind_nil _) (by simp) _
  · split
    · split
      · exact hreap ..
      · exact oneKind_nil _
    · exact hreap ..

/-- Starting the command replaces the handle by the new child and posts the `exec` event. -/
theorem startProgram_spec (s : Service) (now : Int) (spawn : Except String Process)
    (evs : List Event) (ops : List ProcessOp) :
    let r := startProgram s now spawn evs ops
    r.1.program.P = spawn.toOption ∧ r.1.program.exitStatus = s.program.exitStatus ∧
    r.2.2 = ops ++ [.execute (spawn.toOption.map Process.pid)] ∧
    ∃ e, r.2.1 = evs ++ [e] ∧ e.action = .exec := by
  cases spawn <;> simp [startProgram, Except.toOption]

/-- A call that finds its child still running and within its timeout changes nothing and
posts nothing. -/
theorem checkProgram_defer {d : Defs} {s : Service} {P : Process} {now : Int}
    (hP : s.program.P = some P) (hfin : ¬ childFinished s.program P now)
    (spawn : Except String Process) :
    checkProgram d s now spawn = (s, [], [.exitStatus P.pid (processExitStatus P now)]) := by
  unfold childFinished at hfin
  simp only [not_or, Int.not_le, gt_iff_lt, Int.not_lt] at hfin
  simp [checkProgram, hP, hfin.1, Int.not_lt.2 hfin.2]

/-- A call that finds its child exited or timed out evaluates it with its final status,
after library calls that leave the child known to be done. -/
theorem checkProgram_reap {d : Defs} {s : Service} {P : Process} {now : Int}
    (hP : s.program.P = some P) (hfin : childFinished s.program P now)
    (spawn : Except String Process) :
    ∃ ops, checkProgram d s now spawn = reapProgram d s now spawn P (finalStatus P now) ops ∧
      ∃ k, (⟨some P.pid, false, false⟩ : HandleState).run ops = some ⟨some P.pid, true, k⟩ := by
  unfold childFinished at hfin
  unfold checkProgram finalStatus
  simp only [hP]
  split
  · next hrun =>
    have hlate : now - s.program.started > s.program.timeout := by
      rcases hfin with h | h
      · omega
      · exact h
    simp only [hlate, ite_true, Int.not_le.2 hrun, ite_false]
    refine ⟨_, rfl, true, ?_⟩
    simp [HandleState.run, HandleState.step, Int.not_le.2 hrun]
  · next hexit =>
    simp only [Int.not_lt.1 hexit, ite_true]
    refine ⟨_, rfl, false, ?_⟩
    simp [HandleState.run, HandleState.step, Int.not_lt.1 hexit]

theorem reapProgram_spec (d : Defs) (s : Service) (now : Int) (spawn : Except String Process)
    (P : Process) (status : Int) (ops : List ProcessOp) :
    let r := reapProgram d s now spawn P status ops
    r.1.program.P = spawn.toOption ∧ r.1.program.exitStatus = status ∧
    r.2.2 = ops ++ [.exitStatus P.pid status, .free P.pid,
      .execute (spawn.toOption.map Process.pid)] ∧
    (r.2.1.filter fun e => e.action ≠ .exec).map Event.state = s.statuslist.map fun st =>
      if evalQExpression st.operator status st.return_value then .failed else .succeeded := by
  cases spawn <;> simp only [reapProgram, startProgram, Except.toOption, List.filter_append] <;>
    refine ⟨trivial, trivial, by simp, ?_⟩ <;>
    rw [List.filter_eq_self.2 (fun e he => by simpa using statusLoop_not_exec _ _ _ _ _ _ e he)] <;>
    simp [statusLoop_states]

/-! ## The library's rules -/

/-- Every call of `check_program` keeps the rules of the process library, from the handle its
service holds to the one it leaves. -/
theorem checkProgram_handles (d : Defs) (s : Service) (now : Int)
    (spawn : Except String Process) :
    (handleOf s).run (checkProgram d s now spawn).2.2 =
      some (handleOf (checkProgram d s now spawn).1) := by
  cases hP : s.program.P with
  | none =>
    have h : checkProgram d s now spawn = startProgram s now spawn [] [] := by
      simp [checkProgram, hP]
    obtain ⟨hP', -, hops, -⟩ := startProgram_spec s now spawn [] []
    rw [h, hops, handleOf, handleOf, hP', hP]
    simp [HandleState.run, HandleState.step]
  | some P =>
    by_cases hfin : childFinished s.program P now
    · obtain ⟨ops, hr, k, hrun⟩ := checkProgram_reap hP hfin spawn
      obtain ⟨hP', -, hops, -⟩ := reapProgram_spec d s now spawn P (finalStatus P now) ops
      rw [hr, hops, HandleState.run_append, handleOf, handleOf, hP, hP', Option.map_some', hrun]
      simp [HandleState.run, HandleState.step]
    · have hv : processExitStatus P now < 0 := by
        unfold childFinished at hfin; omega
      rw [checkProgram_defer hP hfin]
      simp [handleOf, hP, HandleState.run, HandleState.step, Int.not_le.2 hv]

/-- Every run of `check_program` keeps the rules of the process library. -/
theorem programRun_handles (d : Defs) (s : Service) (calls : List (Int × Except String Process)) :
    (handleOf s).run (programRun d s calls).2.2 = some (handleOf (programRun d s calls).1) := by
  induction calls generalizing s with
  | nil => rfl
  | cons c calls ih =>
    simp only [programRun, HandleState.run_append, checkProgram_handles, Option.some_bind, ih]

/-! ## Deferral and evaluation -/

/-- Calls that find the child still running and within its timeout change nothing and post
nothing; each only asks for the exit status. -/
theorem programRun_defer {d : Defs} {s : Service} {P : Process} (hP : s.program.P = some P) :
    ∀ calls : List (Int × Except String Process),
      (∀ c ∈ calls, ¬ childFinished s.program P c.1) →
      programRun d s calls =
        (s, [], calls.map fun c => .exitStatus P.pid (processExitStatus P c.1))
  | [], _ => rfl
  | (now, spawn) :: calls, h => by
    have hnow := h (now, spawn) (List.mem_cons_self _ _)
    have hrest := @programRun_defer d s P hP calls fun c hc => h c (List.mem_cons_of_mem _ hc)
    simp [programRun, checkProgram_defer hP hnow spawn, hrest]

/-- The child lifecycle of `check_program`: every run keeps the library's rules (a command is
started only while no handle is held, and a handle is freed only once its child has exited or
was killed and waited for); and a child is evaluated in the first call that finds it exited or
timed out, with its final status, against every status rule, after which the service holds the
new child, while the calls before it defer without a change and without an event. -/
theorem checkProgram_child_lifecycle (d : Defs) :
    (∀ (s : Service) (calls : List (Int × Except String Process)),
      (handleOf s).run (programRun d s calls).2.2 = some (handleOf (programRun d s calls).1)) ∧
    (∀ (s : Service) (P : Process) (calls : List (Int × Except String Process)) (now : Int)
        (spawn : Except String Process),
      s.program.P = some P → (∀ c ∈ calls, ¬ childFinished s.program P c.1) →
      childFinished s.program P now →
      let before := programRun d s calls
      let r := checkProgram d before.1 now spawn
      before.1 = s ∧ before.2.1 = [] ∧ r.1.program.exitStatus = finalStatus P now ∧
      (r.2.1.filter fun e => e.action ≠ .exec).map Event.state =
        s.statuslist.map (fun st =>
          if evalQExpression st.operator (finalStatus P now) st.return_value then .failed
          else .succeeded) ∧
      r.1.program.P = spawn.toOption) := by
  refine ⟨programRun_handles d, fun s P calls now spawn hP hcalls hfin => ?_⟩
  obtain ⟨ops, hr, -⟩ := @checkProgram_reap d s P now hP hfin spawn
  obtain ⟨hP', hst, -, hevs⟩ := reapProgram_spec d s now spawn P (finalStatus P now) ops
  simp only [programRun_defer hP calls hcalls, hr]
  exact ⟨trivial, trivial, hst, hevs, hP'⟩

/-- A child that exits at time 20 with status 3, checked at 10 (deferred) and at 20 under the
rule "if status != 0": the first call posts nothing, the second evaluates status 3 and fails
the rule. -/
theorem checkProgram_child_lifecycle_exit_after_deferral :
    let P : Process := ⟨7, some 20, 3, 9, [], []⟩
    let s : Service :=
      { (default : Service) with program := ⟨some P, 0, 60, 0⟩, statuslist := [⟨.notEqual, 0⟩] }
    let before := programRun default s [(10, .error "")]
    let r := checkProgram default before.1 20 (.error "")
    before.2.1 = [] ∧ r.1.program.exitStatus = 3 ∧
      (r.2.1.filter fun e => e.action ≠ .exec).map Event.state = [.failed] := by
  intro P s before r
  have h := (checkProgram_child_lifecycle default).2 s P [(10, .error "")] 20 (.error "") rfl
    (by simp [childFinished, processExitStatus, s, P]) (by simp [childFinished, processExitStatus, s, P])
  exact ⟨h.2.1, h.2.2.1, h.2.2.2.1⟩

end MonitValidation.Validators
