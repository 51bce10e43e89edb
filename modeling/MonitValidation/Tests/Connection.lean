import MonitValidation.Engine.Service

/-!
# Remote hosts: ICMP and port connections

`check_connection(s, p)` opens a connection to a port, waits until the socket is ready,
runs the protocol's check, and retries from the `retry:` label while `retry_count` allows.
Its verdict is kept in `rv`, which the retry does not reset: after one failed attempt every
later attempt is made, but the verdict stays `FALSE`. The model follows the `goto`s exactly,
takes the outcome of each step of the `k`-th attempt from the environment, and counts the
attempts made. `check_remote_host` runs the ICMP tests first and the ports only if the last
ping answered.
-/

namespace MonitValidation.Tests

/-! ## One connection attempt -/

/-- What the `k`-th attempt meets: whether `socket_create` returned a socket, whether it is
a datagram socket, whether `socket_is_ready` and the protocol check succeed, the error text
they leave, and the two clock readings. -/
structure Attempt where
  socket : Bool
  dgram : Bool
  ready : Bool
  protocol : Bool
  error : String
  t1 : Timeval
  t2 : Timeval
  deriving Inhabited

/-- Whether every step of an attempt succeeds; `socket_is_ready` is skipped for a datagram
socket whose protocol has a check of its own. -/
def Attempt.succeeds (p : Port) (a : Attempt) : Bool :=
  a.socket && (!((!a.dgram || p.default_check) && !a.ready)) && a.protocol

/-- The locals of `check_connection` that live across `goto retry`. -/
structure ConnectionState where
  rv : Bool
  report : Message
  response : Float

/-- `(double)(t2.tv_sec - t1.tv_sec) + (double)(t2.tv_usec - t1.tv_usec)/1000000`. -/
def responseTime (t1 t2 : Timeval) : Float :=
  Float.ofInt (t2.sec - t1.sec) + Float.ofInt (t2.usec - t1.usec) / 1000000

/-- From `retry:` to `error:`: one attempt, which on a failure writes the report and clears
`rv`, and on success measures the response time. It never sets `rv`. -/
def connectionAttempt (p : Port) (a : Attempt) (st : ConnectionState) : ConnectionState :=
  if !a.socket then
    { st with report := ⟨"failed, cannot open a connection to %s", [.str p.description]⟩,
              rv := false }
  else if (!a.dgram || p.default_check) && !a.ready then
    { st with report := ⟨"connection failed, %s is not ready for i|o -- %s",
                [.str p.description, .str a.error]⟩,
              rv := false }
  else if !a.protocol then
    { st with report := ⟨"failed protocol test [%s] at %s -- %s",
                [.str p.protocol_name, .str p.description, .str a.error]⟩,
              rv := false }
  else { st with response := responseTime a.t1 a.t2 }

@[simp]
theorem connectionAttempt_rv (p : Port) (a : Attempt) (st : ConnectionState) :
    (connectionAttempt p a st).rv = (st.rv && a.succeeds p) := by
  unfold connectionAttempt Attempt.succeeds
  cases a.socket <;> cases a.dgram <;> cases a.ready <;> cases a.protocol <;>
    cases p.default_check <;> simp

theorem connectionAttempt_response {p : Port} {a : Attempt} (h : a.succeeds p = true)
    (st : ConnectionState) : (connectionAttempt p a st).response = responseTime a.t1 a.t2 := by
  unfold Attempt.succeeds at h
  simp only [Bool.and_eq_true, Bool.not_eq_true'] at h
  simp [connectionAttempt, h.1.1, h.1.2, h.2]

/-! ## The retry loop -/

/-- The `retry:` loop from attempt `k`, with `c` the value of `retry_count` (the
configured count, taken as `0` when negative, which retries just as little): the state at
`error:` when the loop stops, and the number of attempts made. -/
def connectionLoop (p : Port) (attempt : Nat → Attempt) :
    Nat → Nat → ConnectionState → ConnectionState × Nat
  | 0, k, st => (connectionAttempt p (attempt k) st, k + 1)
  | c + 1, k, st =>
    let st := connectionAttempt p (attempt k) st
    if !st.rv && c + 1 > 1 then connectionLoop p attempt c (k + 1) st else (st, k + 1)

/-- `check_connection(s, p)` for the `i`-th port: the port as it leaves it, the event it
posts, and the number of attempts. The report is the text `snprintf` rendered; the code
hands it to `Event_post` as the format. -/
def checkConnection (p : Port) (attempt : Nat → Attempt) (i : Nat) : Port × List Event × Nat :=
  let r := connectionLoop p attempt p.retry.toNat 0 ⟨true, ⟨"", []⟩, p.response⟩
  if !r.1.rv then
    ({ p with response := -1, is_available := false },
      [post .connection .failed (.port i) r.1.report.format r.1.report.args], r.2)
  else
    ({ p with response := r.1.response, is_available := true },
      [post .connection .succeeded (.port i) "connection succeeded to %s" [.str p.description]],
      r.2)

/-- Once an attempt has failed, `rv` stays cleared and every remaining attempt is made. -/
theorem connectionLoop_failed (p : Port) (attempt : Nat → Attempt) (c k : Nat)
    (st : ConnectionState) (h : st.rv = false) :
    (connectionLoop p attempt c k st).1.rv = false ∧
      (connectionLoop p attempt c k st).2 = k + max c 1 := by
  induction c generalizing k st with
  | zero => simp [connectionLoop, h]
  | succ c ih =>
    have hrv : (connectionAttempt p (attempt k) st).rv = false := by simp [h]
    obtain ⟨h1, h2⟩ := ih (k + 1) _ hrv
    rcases Nat.eq_zero_or_pos c with rfl | hc
    · simp [connectionLoop, h]
    · simp only [connectionLoop, hrv, Bool.not_false, Bool.true_and, decide_eq_true_eq]
      rw [if_pos (by omega)]
      exact ⟨h1, by omega⟩

/-- From the start of the loop: a first attempt that succeeds ends it at once with `rv` set;
after a first attempt that fails, all `max c 1` attempts are made and `rv` stays cleared. -/
theorem connectionLoop_spec (p : Port) (attempt : Nat → Attempt) (c : Nat)
    (st : ConnectionState) (h : st.rv = true) :
    let r := connectionLoop p attempt c 0 st
    if (attempt 0).succeeds p then
      r.1.rv = true ∧ r.2 = 1 ∧ r.1.response = responseTime (attempt 0).t1 (attempt 0).t2
    else r.1.rv = false ∧ r.2 = max c 1 := by
  intro r
  split
  · next hs =>
    cases c <;> simp [r, connectionLoop, h, hs, connectionAttempt_response hs]
  · next hs =>
    have hrv : (connectionAttempt p (attempt 0) st).rv = false := by simp [h, hs]
    rcases c with _ | _ | c
    · simp [r, connectionLoop, h, hs]
    · simp [r, connectionLoop, h, hs]
    · obtain ⟨h1, h2⟩ := connectionLoop_failed p attempt (c + 1) 1 _ hrv
      simp only [r]
      rw [connectionLoop]
      simp only [hrv, Bool.not_false, Bool.true_and, decide_eq_true_eq, Nat.zero_add]
      rw [if_pos (by omega)]
      exact ⟨h1, by omega⟩

/-- What `check_connection` does for every retry count and every sequence of attempt
outcomes: it posts one `Connection` event; it succeeds, after one attempt, exactly when the
first attempt succeeds; otherwise it makes `max retry 1` attempts and fails, marking the
port unavailable with response `-1`, whatever the later attempts meet. -/
theorem checkConnection_outcome (p : Port) (attempt : Nat → Attempt) (i : Nat) :
    let r := checkConnection p attempt i
    r.2.1.map Event.key = [(.connection, .port i)] ∧
    if (attempt 0).succeeds p then
      r.2.1.map Event.state = [.succeeded] ∧ r.2.2 = 1 ∧ r.1.is_available = true ∧
        r.1.response = responseTime (attempt 0).t1 (attempt 0).t2
    else
      r.2.1.map Event.state = [.failed] ∧ r.2.2 = max p.retry.toNat 1 ∧
        r.1.is_available = false ∧ r.1.response = -1 := by
  intro r
  have hloop := connectionLoop_spec p attempt p.retry.toNat ⟨true, ⟨"", []⟩, p.response⟩ rfl
  split at hloop
  · next hs =>
    obtain ⟨hrv, hn, hresp⟩ := hloop
    simp [r, checkConnection, hs, hrv, hn, hresp]
  · next hs =>
    obtain ⟨hrv, hn⟩ := hloop
    simp [r, checkConnection, hs, hrv, hn]

/-- The retry the spec describes: `retry 3`, the first two attempts fail the protocol test,
the third succeeds; the port is still reported down after three attempts. -/
theorem checkConnection_retry_then_success_fails :
    let p : Port := { (default : Port) with retry := 3 }
    let attempt : Nat → Attempt := fun k =>
      { (default : Attempt) with socket := true, ready := true, protocol := decide (k = 2) }
    let r := checkConnection p attempt 0
    (attempt 2).succeeds p = true ∧
      r.2.1.map Event.state = [.failed] ∧ r.2.2 = 3 ∧ r.1.is_available = false := by
  decide

/-! ## `check_remote_host` -/

/-- Each port of the list in turn, the `k`-th attempt at the `i`-th port meeting
`attempt i k`. -/
def checkPorts (attempt : Nat → Nat → Attempt) : Nat → List Port → List Port × List Event
  | _, [] => ([], [])
  | i, p :: ps =>
    let r := checkConnection p (attempt i) i
    let rest := checkPorts attempt (i + 1) ps
    (r.1 :: rest.1, r.2.1 ++ rest.2)

theorem checkPorts_keys (attempt : Nat → Nat → Attempt) (i : Nat) (ps : List Port) :
    (checkPorts attempt i ps).2.map Event.key =
      (List.range' i ps.length).map fun j => (.connection, .port j) := by
  induction ps generalizing i with
  | nil => rfl
  | cons p ps ih =>
    simp only [checkPorts, List.map_append, ih, List.length_cons, List.range'_succ, List.map_cons,
      (checkConnection_outcome p (attempt i) i).1, List.singleton_append]

/-- What `icmp_echo` returns, as `check_remote_host` reads it: `-2` when the monit user may
not open a raw socket, `-1` when no reply came, otherwise the response time. -/
inductive EchoResult
  | noPermission
  | noReply
  | reply (time : Float)

/-- The ICMP loop as it ends: the tests as it leaves them, its events, whether an unknown
type stopped it, and whether the last ping answered (`last_ping->is_available`). -/
structure IcmpRun where
  icmps : List Icmp
  events : List Event
  unknown : Bool
  lastPing : Option Bool

/-- One `ICMP_ECHO` test, the `i`-th of the list. -/
def checkIcmpEcho (d : Defs) (i : Nat) (icmp : Icmp) : EchoResult → Icmp × List Event
  | .noPermission => ({ icmp with response := -2, is_available := true }, [])
  | .noReply =>
    ({ icmp with response := -1, is_available := false },
      [post .icmp .failed (.icmp i) "failed ICMP test [%s]" [.str (d.icmpnames icmp.type)]])
  | .reply t =>
    ({ icmp with response := t, is_available := true },
      [post .icmp .succeeded (.icmp i) "succeeded ICMP test [%s]" [.str (d.icmpnames icmp.type)]])

/-- The ICMP loop of `check_remote_host` from the `i`-th test; `echo i` is what `icmp_echo`
returns for it. An unknown type ends the loop (`return FALSE`). -/
def icmpLoop (d : Defs) (echo : Nat → EchoResult) :
    Nat → List Icmp → Option Bool → IcmpRun
  | _, [], last => ⟨[], [], false, last⟩
  | i, icmp :: rest, last =>
    match icmp.type with
    | .echo =>
      let r := checkIcmpEcho d i icmp (echo i)
      let run := icmpLoop d echo (i + 1) rest (some r.1.is_available)
      ⟨r.1 :: run.icmps, r.2 ++ run.events, run.unknown, run.lastPing⟩
    | .other _ => ⟨icmp :: rest, [], true, last⟩

/-- `check_remote_host(s)`: whether it returns `TRUE`, the service as it leaves it, and its
events. -/
def checkRemoteHost (d : Defs) (echo : Nat → EchoResult) (attempt : Nat → Nat → Attempt)
    (s : Service) : Bool × Service × List Event :=
  let run := icmpLoop d echo 0 s.icmplist none
  let s := { s with icmplist := run.icmps }
  if run.unknown then (false, s, run.events)
  else if run.lastPing = some false then (false, s, run.events)
  else
    let ports := checkPorts attempt 0 s.portlist
    (true, { s with portlist := ports.1 }, run.events ++ ports.2)

theorem checkIcmpEcho_keys (d : Defs) (i : Nat) (icmp : Icmp) (e : EchoResult) :
    ((checkIcmpEcho d i icmp e).2.map Event.key).Sublist [(.icmp, .icmp i)] := by
  cases e <;> simp [checkIcmpEcho]

theorem icmpLoop_keys (d : Defs) (echo : Nat → EchoResult) (i : Nat) (l : List Icmp)
    (last : Option Bool) :
    ((icmpLoop d echo i l last).events.map Event.key).Sublist
      ((List.range' i l.length).map fun j => (.icmp, .icmp j)) := by
  induction l generalizing i last with
  | nil => simp [icmpLoop]
  | cons icmp rest ih =>
    simp only [icmpLoop, List.length_cons, List.range'_succ, List.map_cons]
    split
    · simp only [List.map_append]
      exact (checkIcmpEcho_keys d i icmp (echo i)).append (ih (i + 1) _)
    · simp

/-- The last echo test reported no reply only by posting `FAILED` for it. -/
theorem icmpLoop_lastPing_false (d : Defs) (echo : Nat → EchoResult) (i : Nat) (l : List Icmp)
    (last : Option Bool) (h : (icmpLoop d echo i l last).lastPing = some false) :
    last = some false ∨ ∃ e ∈ (icmpLoop d echo i l last).events, e.state = .failed := by
  induction l generalizing i last with
  | nil => exact .inl h
  | cons icmp rest ih =>
    unfold icmpLoop at h ⊢
    split at h
    next =>
      rcases ih (i + 1) _ h with hlast | ⟨e, he, hs⟩
      · refine .inr ?_
        cases hecho : echo i <;> simp_all [checkIcmpEcho]
      · exact .inr ⟨e, List.mem_append_right _ he, hs⟩
    next => exact .inl h

end MonitValidation.Tests
