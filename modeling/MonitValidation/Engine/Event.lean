import Mathlib.Data.List.Basic

/-!
# Events, operators and action records of the validation engine

Every test of `validate.c` reports its outcome through
`Event_post(s, id, state, action, fmt, ...)`. An `Event` records exactly those arguments:
the kind, the state, the action record it is bound to, and the format string with its
arguments. Rendering the text and deciding what to alert is the event sink's business and
is not modelled.

Action records are identified by their owner, which is how the configuration allocates
them: a service's own record for an event kind (`s->action_DATA`, ...), the record of its
checksum, permission, uid or gid descriptor, or the record of the `i`-th entry of one of
its test lists. Two events are posted "for the same action" exactly when their
`ActionRef`s are equal.
-/

namespace MonitValidation

/-- The event kinds of the sink (`Event_Nonexist`, ...). -/
inductive EventKind
  | nonexist | invalid | data | exec | timeout | pid | ppid | fsflag | icmp | connection
  | status | action | content | checksum | permission | uid | gid | size | timestamp
  | uptime | resource
  deriving DecidableEq, Repr, Inhabited

/-- `STATE_SUCCEEDED`, `STATE_FAILED`, `STATE_CHANGED`, `STATE_CHANGEDNOT`. -/
inductive EventState
  | succeeded | failed | changed | changedNot
  deriving DecidableEq, Repr, Inhabited

/-- The action record an event is bound to, named by its owner. -/
inductive ActionRef
  | nonexist | invalid | data | exec | pid | ppid | fsflag | action
  | checksum | perm | uid | gid
  | port (i : Nat) | icmp (i : Nat) | resource (i : Nat) | filesystem (i : Nat)
  | size (i : Nat) | timestamp (i : Nat) | uptime (i : Nat) | matchRule (i : Nat)
  | status (i : Nat) | rate (i : Nat)
  deriving DecidableEq, Repr, Inhabited

/-- One argument of a `printf`-style format. `double` is the C `double` the source passes. -/
inductive Arg
  | int (v : Int)
  | str (v : String)
  | double (v : Float)
  | bytes (v : List UInt8)

/-- A format string with its arguments, as handed to `Event_post` or `snprintf`. -/
structure Message where
  format : String
  args : List Arg

/-- The arguments of one `Event_post` call (the service is implicit). -/
structure Event where
  kind : EventKind
  state : EventState
  action : ActionRef
  message : Message

/-- `Event_post(s, kind, state, action, format, args...)`. -/
def post (kind : EventKind) (state : EventState) (act : ActionRef) (format : String)
    (args : List Arg) : Event :=
  ⟨kind, state, act, ⟨format, args⟩⟩

/-- What "the same event" means for the at-most-once property: kind and action record. -/
def Event.key (e : Event) : EventKind × ActionRef := (e.kind, e.action)

@[simp]
theorem post_key (kind : EventKind) (state : EventState) (act : ActionRef)
    (format : String) (args : List Arg) :
    (post kind state act format args).key = (kind, act) := rfl

@[simp]
theorem post_kind (kind : EventKind) (state : EventState) (act : ActionRef)
    (format : String) (args : List Arg) : (post kind state act format args).kind = kind :=
  rfl

@[simp]
theorem post_state (kind : EventKind) (state : EventState) (act : ActionRef)
    (format : String) (args : List Arg) :
    (post kind state act format args).state = state := rfl

@[simp]
theorem post_action (kind : EventKind) (state : EventState) (act : ActionRef)
    (format : String) (args : List Arg) :
    (post kind state act format args).action = act := rfl

/-- The states of the events posted under one (kind, action record), in posting order. -/
def statesFor (evs : List Event) (k : EventKind × ActionRef) : List EventState :=
  (evs.filter fun e => e.key = k).map Event.state

@[simp]
theorem statesFor_nil (k : EventKind × ActionRef) : statesFor [] k = [] := rfl

@[simp]
theorem statesFor_append (evs evs' : List Event) (k : EventKind × ActionRef) :
    statesFor (evs ++ evs') k = statesFor evs k ++ statesFor evs' k := by
  simp [statesFor, List.filter_append]

@[simp]
theorem statesFor_cons (e : Event) (evs : List Event) (k : EventKind × ActionRef) :
    statesFor (e :: evs) k = if e.key = k then e.state :: statesFor evs k else statesFor evs k := by
  by_cases h : e.key = k <;> simp [statesFor, List.filter_cons, h]

/-- Events posted under other keys leave no state under `k`. -/
theorem statesFor_eq_nil {evs : List Event} {k : EventKind × ActionRef}
    (h : ∀ e ∈ evs, e.key ≠ k) : statesFor evs k = [] := by
  simpa [statesFor, List.filter_eq_nil_iff] using h

/-- Events posted under keys numbered in `[i, i + n)` leave no state under a key numbered
outside it. -/
theorem statesFor_eq_nil_of_sublist {evs : List Event} {key : Nat → EventKind × ActionRef}
    (hkey : Function.Injective key) {i n k : Nat}
    (h : (evs.map Event.key).Sublist ((List.range' i n).map key)) (hk : k < i ∨ i + n ≤ k) :
    statesFor evs (key k) = [] := by
  refine statesFor_eq_nil fun e he hek => ?_
  obtain ⟨j, hj, hje⟩ := List.mem_map.1 (h.subset (List.mem_map_of_mem Event.key he))
  have hjk : j = k := hkey (hje.trans hek)
  rw [List.mem_range'_1] at hj
  omega

/-- Events posted under `k` only contribute all their states. -/
theorem statesFor_of_sublist {evs : List Event} {k : EventKind × ActionRef}
    (h : (evs.map Event.key).Sublist [k]) : statesFor evs k = evs.map Event.state := by
  have hk : ∀ e ∈ evs, e.key = k := fun e he =>
    List.mem_singleton.1 (h.subset (List.mem_map_of_mem Event.key he))
  simp [statesFor, List.filter_eq_self.2 (fun e he => decide_eq_true (hk e he))]

/-! ## Loops over descriptor lists -/

/-- `for (x = list; x; x = x->next) test(s, x)` for a test that only posts: the events of
each entry in list order, the entry's index (from `i`) naming its action record. -/
def forEachFrom {α : Type} (test : Nat → α → List Event) : Nat → List α → List Event
  | _, [] => []
  | i, x :: xs => test i x ++ forEachFrom test (i + 1) xs

theorem forEachFrom_mem {α : Type} {test : Nat → α → List Event} {i : Nat} {l : List α}
    {e : Event} (he : e ∈ forEachFrom test i l) : ∃ j x, e ∈ test j x := by
  induction l generalizing i with
  | nil => cases he
  | cons x xs ih => exact (List.mem_append.1 he).elim (fun h => ⟨i, x, h⟩) ih

/-- If the test posts at most once, under the entry's own key, the loop posts each entry's
key at most once, in list order. -/
theorem forEachFrom_keys {α : Type} {test : Nat → α → List Event}
    {key : Nat → EventKind × ActionRef} (htest : ∀ i x, ((test i x).map Event.key).Sublist [key i])
    (i : Nat) (l : List α) :
    ((forEachFrom test i l).map Event.key).Sublist ((List.range' i l.length).map key) := by
  induction l generalizing i with
  | nil => simp [forEachFrom]
  | cons x xs ih =>
    simp only [forEachFrom, List.map_append, List.length_cons, List.range'_succ, List.map_cons]
    exact (htest i x).append (ih (i + 1))

/-- In a loop whose test posts under the entry's own key, every event carries the key of an
entry of the list. -/
theorem forEachFrom_key_mem {α : Type} {test : Nat → α → List Event}
    {key : Nat → EventKind × ActionRef} (htest : ∀ i x, ∀ e ∈ test i x, e.key = key i)
    {i : Nat} {l : List α} {e : Event} (he : e ∈ forEachFrom test i l) :
    ∃ k, i ≤ k ∧ k < i + l.length ∧ e.key = key k := by
  induction l generalizing i with
  | nil => simp [forEachFrom] at he
  | cons x xs ih =>
    rcases List.mem_append.1 he with h | h
    · exact ⟨i, le_rfl, by simp, htest i x e h⟩
    · obtain ⟨k, hk1, hk2, hk⟩ := ih h
      exact ⟨k, by omega, by simp; omega, hk⟩

/-- Under the key of the `j`-th entry such a loop posts exactly that entry's events. -/
theorem forEachFrom_filter_key {α : Type} {test : Nat → α → List Event}
    {key : Nat → EventKind × ActionRef} (hkey : Function.Injective key)
    (htest : ∀ i x, ∀ e ∈ test i x, e.key = key i) {l : List α} {j : Nat} {x : α}
    (hx : l[j]? = some x) (i : Nat) :
    (forEachFrom test i l).filter (fun e => e.key = key (i + j)) = test (i + j) x := by
  induction l generalizing i j with
  | nil => simp at hx
  | cons y ys ih =>
    simp only [forEachFrom, List.filter_append]
    cases j with
    | zero =>
      obtain rfl : y = x := by simpa using hx
      have hrest : (forEachFrom test (i + 1) ys).filter (fun e => e.key = key (i + 0)) = [] := by
        refine List.filter_eq_nil_iff.2 fun e he hk => ?_
        obtain ⟨k, hk1, -, hke⟩ := forEachFrom_key_mem htest he
        have : k = i := hkey (hke.symm.trans (by simpa using hk))
        omega
      rw [List.filter_eq_self.2 (fun e he => by simpa using htest i y e he), hrest, List.append_nil,
        Nat.add_zero]
    | succ j =>
      have hfirst : (test i y).filter (fun e => e.key = key (i + (j + 1))) = [] := by
        refine List.filter_eq_nil_iff.2 fun e he hk => ?_
        have : i = i + (j + 1) := hkey ((htest i y e he).symm.trans (by simpa using hk))
        omega
      rw [hfirst, List.nil_append, show i + (j + 1) = i + 1 + j by omega]
      exact ih (by simpa using hx) (i + 1)

/-! ## Relational operators -/

/-- The relational operators of a test (`OPERATOR_*`). -/
inductive Operator
  | greater | less | equal | notEqual | greaterOrEqual | lessOrEqual
  deriving DecidableEq, Repr, Inhabited

/-- Modelled from the spec: `Util_evalQExpression(operator, left, right)` of `util.c`, the
expression evaluator, compares a measured integer `left` against a limit `right` under the
operator ("quantitative comparison of a measured integer/scaled value against a limit under
a relational operator", operator ∈ {<, ≤, =, ≠, ≥, >}). -/
def evalQExpression : Operator → Int → Int → Bool
  | .greater, l, r => decide (l > r)
  | .less, l, r => decide (l < r)
  | .equal, l, r => decide (l = r)
  | .notEqual, l, r => decide (l ≠ r)
  | .greaterOrEqual, l, r => decide (l ≥ r)
  | .lessOrEqual, l, r => decide (l ≤ r)

/-- The mathematical relation each operator names. -/
def Operator.holds : Operator → Int → Int → Prop
  | .greater, l, r => l > r
  | .less, l, r => l < r
  | .equal, l, r => l = r
  | .notEqual, l, r => l ≠ r
  | .greaterOrEqual, l, r => l ≥ r
  | .lessOrEqual, l, r => l ≤ r

theorem evalQExpression_iff (op : Operator) (l r : Int) :
    evalQExpression op l r = true ↔ op.holds l r := by
  cases op <;> simp [evalQExpression, Operator.holds]

/-! ## Actions -/

/-- The recovery actions (`ACTION_IGNORE`, `ACTION_ALERT`, ...) a rule or a control request
names. -/
inductive Action
  | ignore | alert | restart | stop | exec | unmonitor | start | monitor
  deriving DecidableEq, Repr, Inhabited

/-- An event action record `EventAction_T`; the engine reads only the action it runs on
failure (`ar->action->failed->id`). -/
structure EventAction where
  failed : Action
  deriving DecidableEq, Repr, Inhabited

end MonitValidation
