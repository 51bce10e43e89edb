import MonitValidation.Engine.Service

/-!
# The change tests: checksum, size and timestamp

`check_checksum`, `check_size` and `check_timestamp` compare a value of the file either with
a constant of the configuration or, under `test_changes`, with the value they stored at the
previous evaluation, which they then replace. This module models the three tests and the
loop `check_size` and `check_timestamp` share, and follows a change-detecting descriptor
over any run of evaluations: its stored value is the last value observed, and every
evaluation after the first reports exactly whether the value changed since the previous
one. The age of a file is converted to a C `int` before it is compared; the conversion is
modelled as C compilers perform it, modulo `2^32`.
-/

namespace MonitValidation.Tests

/-! ## `check_checksum` -/

/-- The number of hex digits `check_checksum` compares: 32 for MD5, 40 for SHA1, and `none`
for an unknown hash type, on which the test gives up. -/
def hashLength : HashType → Option Nat
  | .md5 => some 32
  | .sha1 => some 40
  | .unknown => none

/-- `strncmp(a, b, n) != 0` on two C strings without a NUL inside. -/
def strncmpDiffers (a b : String) (n : Nat) : Bool := a.toList.take n != b.toList.take n

@[simp]
theorem strncmpDiffers_self (a : String) (n : Nat) : strncmpDiffers a a n = false := by
  simp [strncmpDiffers]

/-- After the reset of a changed hash the stored hash agrees with the computed one. -/
@[simp]
theorem strncmpDiffers_reset (a v : String) (n : Nat) :
    strncmpDiffers (if strncmpDiffers a v n then v else a) v n = false := by
  split <;> simp_all

theorem strncmpDiffers_eq_false_iff {a b : String} {n : Nat} :
    strncmpDiffers a b n = false ↔ a.toList.take n = b.toList.take n := by
  simp [strncmpDiffers]

theorem ite_strncmpDiffers {α : Type} (a b : String) (n : Nat) (x y : α) :
    (if strncmpDiffers a b n then x else y) =
      if a.toList.take n = b.toList.take n then y else x := by
  by_cases h : a.toList.take n = b.toList.take n <;> simp [strncmpDiffers, h]

theorem strncmpDiffers_congr_left {a b : String} {n : Nat} (h : strncmpDiffers a b n = false)
    (c : String) : strncmpDiffers a c n = strncmpDiffers b c n := by
  simp only [strncmpDiffers, bne_eq_false_iff_eq] at h
  simp only [strncmpDiffers, h]

/-- `check_checksum(s)`. `computed` is what `Util_getChecksum` writes into `cs_sum`, `none`
when it fails. The `ASSERT` on `s->checksum` holds at every call. -/
def checkChecksum (s : Service) (computed : Option String) : Service × List Event :=
  match s.checksum, computed with
  | none, _ => (s, [])
  | some _, none => (s, [post .data .failed .data "cannot compute checksum for %s" [.str s.path]])
  | some cs, some sum =>
    let computedEvent := post .data .succeeded .data "checksum computed for %s" [.str s.path]
    let cs := if cs.initialized then cs else { cs with initialized := true, hash := sum }
    let s := s.setCsSum sum
    match hashLength cs.type with
    | none => ({ s with checksum := some cs }.setCsSum "", [computedEvent])
    | some n =>
      if strncmpDiffers cs.hash sum n then
        if cs.test_changes then
          ({ s with checksum := some { cs with hash := sum } },
            [computedEvent,
              post .checksum .changed .checksum "checksum was changed for %s" [.str s.path]])
        else
          ({ s with checksum := some cs },
            [computedEvent,
              post .checksum .failed .checksum "checksum test failed for %s" [.str s.path]])
      else if cs.test_changes then
        ({ s with checksum := some cs },
          [computedEvent, post .checksum .changedNot .checksum "checksum has not changed" []])
      else
        ({ s with checksum := some cs },
          [computedEvent, post .checksum .succeeded .checksum "checksum succeeded" []])

/-- A cycle in which the checksum cannot be computed changes nothing and fails `Data`. -/
theorem checkChecksum_none {s : Service} {cs : Checksum} (hcs : s.checksum = some cs) :
    checkChecksum s none =
      (s, [post .data .failed .data "cannot compute checksum for %s" [.str s.path]]) := by
  simp [checkChecksum, hcs]

/-- One evaluation of a change-detecting checksum that could be computed: the stored hash
(the computed one, on the first evaluation) is compared on its first `n` digits, replaced
when it differs, and the outcome is posted as `CHANGED` or `CHANGEDNOT`. -/
theorem checkChecksum_test_changes {s : Service} {cs : Checksum} {n : Nat}
    (hcs : s.checksum = some cs) (htc : cs.test_changes = true) (hn : hashLength cs.type = some n)
    (sum : String) :
    let stored := if cs.initialized then cs.hash else sum
    (checkChecksum s (some sum)).1.checksum =
      some { cs with initialized := true,
                     hash := if strncmpDiffers stored sum n then sum else stored } ∧
    statesFor (checkChecksum s (some sum)).2 (.checksum, .checksum) =
      [if strncmpDiffers stored sum n then .changed else .changedNot] := by
  obtain ⟨type, hash, initialized, test_changes⟩ := cs
  simp only at htc hn
  subst htc
  cases initialized <;> simp only [checkChecksum, hcs, ite_true, ite_false, Bool.false_eq_true]
  all_goals simp only [hn]
  · simp
  · split <;> simp

/-! ## The loop of `check_size` and `check_timestamp` -/

section Loop

variable {α : Type} (isChange : α → Bool) (change : Nat → α → α × List Event)
  (constant : Nat → α → Event)

/-- The loop `check_size` and `check_timestamp` share: every entry testing a constant value
posts its verdict, and the first `test_changes` entry is handled by `change`, after which
the loop stops (`break`). `i` is the index of the first entry. -/
def testUntilChange : Nat → List α → List α × List Event
  | _, [] => ([], [])
  | i, x :: xs =>
    if isChange x then ((change i x).1 :: xs, (change i x).2)
    else
      let r := testUntilChange (i + 1) xs
      (x :: r.1, constant i x :: r.2)

/-- Over a prefix of constant-value entries the loop only posts their verdicts. -/
theorem testUntilChange_append {pre : List α} (hpre : ∀ y ∈ pre, isChange y = false)
    (l : List α) (i : Nat) :
    testUntilChange isChange change constant i (pre ++ l) =
      (pre ++ (testUntilChange isChange change constant (i + pre.length) l).1,
        (testUntilChange isChange change constant i pre).2 ++
          (testUntilChange isChange change constant (i + pre.length) l).2) := by
  induction pre generalizing i with
  | nil => simp [testUntilChange]
  | cons y ys ih =>
    have hy : isChange y = false := hpre y (List.mem_cons_self y ys)
    have hys := ih (fun z hz => hpre z (List.mem_cons_of_mem y hz)) (i + 1)
    have hlen : i + (y :: ys).length = i + 1 + ys.length := by simp only [List.length_cons]; omega
    simp only [List.cons_append, hlen, testUntilChange, hy, Bool.false_eq_true, ite_false,
      List.append_eq, hys]

/-- Each entry's events carry its own key, and the loop stops at the first change entry. -/
theorem testUntilChange_keys {key : Nat → EventKind × ActionRef}
    (hconstant : ∀ j x, (constant j x).key = key j)
    (hchange : ∀ j x, ((change j x).2.map Event.key).Sublist [key j]) (i : Nat) (l : List α) :
    ((testUntilChange isChange change constant i l).2.map Event.key).Sublist
      ((List.range' i l.length).map key) := by
  induction l generalizing i with
  | nil => simp [testUntilChange]
  | cons x xs ih =>
    simp only [testUntilChange, List.length_cons, List.range'_succ, List.map_cons]
    split
    · exact (hchange i x).trans ((List.nil_sublist _).cons₂ _)
    · simpa [hconstant] using ih (i + 1)

variable {key : Nat → EventKind × ActionRef} (hkey : Function.Injective key)
  (hconstant : ∀ j x, (constant j x).key = key j)
  (hchange : ∀ j x, ((change j x).2.map Event.key).Sublist [key j])
include hkey hconstant hchange

/-- The first change entry, behind constant-value entries only, is the one `change` updates,
and its key carries exactly the states `change` posts. -/
theorem testUntilChange_at_change {pre : List α} (hpre : ∀ y ∈ pre, isChange y = false) {x : α}
    (hx : isChange x = true) (post : List α) :
    (testUntilChange isChange change constant 0 (pre ++ x :: post)).1 =
        pre ++ (change pre.length x).1 :: post ∧
    statesFor (testUntilChange isChange change constant 0 (pre ++ x :: post)).2 (key pre.length) =
      (change pre.length x).2.map Event.state := by
  rw [testUntilChange_append isChange change constant hpre, Nat.zero_add]
  simp only [testUntilChange, hx, ite_true, statesFor_append, true_and]
  rw [statesFor_eq_nil_of_sublist hkey (testUntilChange_keys isChange change constant hconstant
    hchange 0 pre) (Or.inr (Nat.zero_add _).le), statesFor_of_sublist (hchange _ _), List.nil_append]

/-- A constant-value entry behind constant-value entries only posts its verdict once. -/
theorem testUntilChange_at_constant {pre : List α} (hpre : ∀ y ∈ pre, isChange y = false)
    {x : α} (hx : isChange x = false) (post : List α) :
    statesFor (testUntilChange isChange change constant 0 (pre ++ x :: post)).2 (key pre.length) =
      [(constant pre.length x).state] := by
  rw [testUntilChange_append isChange change constant hpre, Nat.zero_add]
  simp only [testUntilChange, hx, Bool.false_eq_true, ite_false, statesFor_append, statesFor_cons,
    hconstant, ite_true]
  rw [statesFor_eq_nil_of_sublist hkey (testUntilChange_keys isChange change constant hconstant
    hchange 0 pre) (Or.inr (Nat.zero_add _).le), statesFor_eq_nil_of_sublist hkey
    (testUntilChange_keys isChange change constant hconstant hchange _ post) (Or.inl (by omega))]
  rfl

end Loop

/-! ## `check_size` -/

/-- The `test_changes` branch of `check_size` for the `i`-th entry. -/
def sizeChange (s : Service) (i : Nat) (sl : Size) : Size × List Event :=
  let size := s.inf.file.st_size
  if !sl.initialized then ({ sl with initialized := true, size := size }, [])
  else if sl.size ≠ size then
    ({ sl with size := size }, [post .size .changed (.size i) "size was changed for %s" [.str s.path]])
  else (sl, [post .size .changedNot (.size i) "size was not changed" [.str s.path]])

/-- The constant-value branch of `check_size` for the `i`-th entry. -/
def sizeConstant (s : Service) (i : Nat) (sl : Size) : Event :=
  if evalQExpression sl.operator s.inf.file.st_size sl.size then
    post .size .failed (.size i) "size test failed for %s -- current size is %llu B"
      [.str s.path, .int s.inf.file.st_size]
  else post .size .succeeded (.size i) "size succeeded" []

/-- `check_size(s)`. -/
def checkSize (s : Service) : Service × List Event :=
  let r := testUntilChange (fun sl => sl.test_changes) (sizeChange s) (sizeConstant s) 0 s.sizelist
  ({ s with sizelist := r.1 }, r.2)

/-- The change branch stores the current size; it posts nothing on the first evaluation,
and afterwards `CHANGED` exactly when the stored size differs. -/
theorem sizeChange_spec (s : Service) (i : Nat) (sl : Size) :
    (sizeChange s i sl).1 = { sl with initialized := true, size := s.inf.file.st_size } ∧
    ((sizeChange s i sl).2.map Event.key).Sublist [(.size, .size i)] ∧
    (sizeChange s i sl).2.map Event.state =
      if sl.initialized then [if sl.size = s.inf.file.st_size then .changedNot else .changed]
      else [] := by
  obtain ⟨operator, size, test_changes, initialized⟩ := sl
  unfold sizeChange
  cases initialized <;> by_cases h : size = s.inf.file.st_size <;> simp [h]

theorem sizeConstant_key (s : Service) (i : Nat) (sl : Size) :
    (sizeConstant s i sl).key = (.size, .size i) := by
  unfold sizeConstant; split <;> rfl

theorem sizeKey_injective :
    Function.Injective fun i => ((.size, .size i) : EventKind × ActionRef) :=
  fun _ _ h => by simpa using h

theorem checkSize_keys (s : Service) :
    ((checkSize s).2.map Event.key).Sublist
      ((List.range' 0 s.sizelist.length).map fun i => (.size, .size i)) :=
  testUntilChange_keys _ _ _ (sizeConstant_key s) (fun j sl => (sizeChange_spec s j sl).2.1) 0 _

/-- `check_size` at its first change entry `sl`, behind the constant-value entries `pre`. -/
theorem checkSize_at_change {s : Service} {pre post : List Size} {sl : Size}
    (hl : s.sizelist = pre ++ sl :: post) (hpre : ∀ x ∈ pre, x.test_changes = false)
    (htc : sl.test_changes = true) :
    (checkSize s).1.sizelist = pre ++ (sizeChange s pre.length sl).1 :: post ∧
    statesFor (checkSize s).2 (.size, .size pre.length) =
      (sizeChange s pre.length sl).2.map Event.state := by
  simp only [checkSize, hl]
  exact testUntilChange_at_change _ _ _ sizeKey_injective (sizeConstant_key s)
    (fun j x => (sizeChange_spec s j x).2.1) hpre htc post

/-! ## `check_timestamp` -/

/-- `(int)x`: the low 32 bits of `x` read as a two's-complement `int`, as C compilers convert
a value out of the range of `int`. -/
def toCInt (x : Int) : Int := (BitVec.ofInt 32 x).toInt

/-- The `test_changes` branch of `check_timestamp` for the `i`-th entry. -/
def timestampChange (s : Service) (i : Nat) (t : Timestamp) : Timestamp × List Event :=
  if t.timestamp ≠ s.inf.timestamp then
    ({ t with timestamp := s.inf.timestamp },
      [post .timestamp .changed (.timestamp i) "timestamp was changed for %s" [.str s.path]])
  else
    (t, [post .timestamp .changedNot (.timestamp i) "timestamp was not changed for %s" [.str s.path]])

/-- The constant-value branch of `check_timestamp` for the `i`-th entry: the age
`now - timestamp` is converted to `int` before the comparison. -/
def timestampConstant (s : Service) (now : Int) (i : Nat) (t : Timestamp) : Event :=
  if evalQExpression t.operator (toCInt (now - s.inf.timestamp)) t.time then
    post .timestamp .failed (.timestamp i) "timestamp test failed for %s" [.str s.path]
  else post .timestamp .succeeded (.timestamp i) "timestamp succeeded" []

/-- `check_timestamp(s)`; `now` is what `time(&now)` returns. -/
def checkTimestamp (s : Service) (now : Int) : Service × List Event :=
  if toCInt now = -1 then (s, [post .data .failed .data "can't obtain actual system time" []])
  else
    let r := testUntilChange (fun t => t.test_changes) (timestampChange s)
      (timestampConstant s now) 0 s.timestamplist
    ({ s with timestamplist := r.1 },
      post .data .succeeded .data "actual system time obtained" [] :: r.2)

theorem timestampChange_spec (s : Service) (i : Nat) (t : Timestamp) :
    (timestampChange s i t).1 = { t with timestamp := s.inf.timestamp } ∧
    ((timestampChange s i t).2.map Event.key).Sublist [(.timestamp, .timestamp i)] ∧
    (timestampChange s i t).2.map Event.state =
      [if t.timestamp = s.inf.timestamp then .changedNot else .changed] := by
  obtain ⟨operator, time, test_changes, timestamp⟩ := t
  unfold timestampChange
  by_cases h : timestamp = s.inf.timestamp <;> simp [h]

theorem timestampConstant_key (s : Service) (now : Int) (i : Nat) (t : Timestamp) :
    (timestampConstant s now i t).key = (.timestamp, .timestamp i) := by
  unfold timestampConstant; split <;> rfl

theorem timestampKey_injective :
    Function.Injective fun i => ((.timestamp, .timestamp i) : EventKind × ActionRef) :=
  fun _ _ h => by simpa using h

theorem checkTimestamp_keys (s : Service) (now : Int) :
    ((checkTimestamp s now).2.map Event.key).Sublist
      ((.data, .data) ::
        (List.range' 0 s.timestamplist.length).map fun i => (.timestamp, .timestamp i)) := by
  unfold checkTimestamp
  split
  · simp
  · exact (testUntilChange_keys _ _ _ (timestampConstant_key s now)
      (fun j t => (timestampChange_spec s j t).2.1) 0 _).cons₂ _

/-- The loop of `check_timestamp`, once the time is known, as `testUntilChange`. -/
theorem checkTimestamp_of_time {s : Service} {now : Int} (hnow : toCInt now ≠ -1) :
    checkTimestamp s now =
      let r := testUntilChange (fun t => t.test_changes) (timestampChange s)
        (timestampConstant s now) 0 s.timestamplist
      ({ s with timestamplist := r.1 },
        post .data .succeeded .data "actual system time obtained" [] :: r.2) := by
  simp [checkTimestamp, hnow]

/-- `check_timestamp`, once the time is known, at its first change entry `t`. -/
theorem checkTimestamp_at_change {s : Service} {now : Int} (hnow : toCInt now ≠ -1)
    {pre post : List Timestamp} {t : Timestamp} (hl : s.timestamplist = pre ++ t :: post)
    (hpre : ∀ x ∈ pre, x.test_changes = false) (htc : t.test_changes = true) :
    (checkTimestamp s now).1.timestamplist = pre ++ (timestampChange s pre.length t).1 :: post ∧
    statesFor (checkTimestamp s now).2 (.timestamp, .timestamp pre.length) =
      (timestampChange s pre.length t).2.map Event.state := by
  simp only [checkTimestamp_of_time hnow, hl, statesFor_cons, post_key]
  exact testUntilChange_at_change _ _ _ timestampKey_injective (timestampConstant_key s now)
    (fun j x => (timestampChange_spec s j x).2.1) hpre htc post

/-! ## Runs of a change-detecting descriptor -/

/-- Successive cycles of one test, each after the environment supplied its observation. -/
def evalRun {ι : Type} (step : Service → ι → Service × List Event) (s : Service) :
    List ι → Service
  | [] => s
  | o :: os => evalRun step (step s o).1 os

theorem evalRun_concat {ι : Type} (step : Service → ι → Service × List Event) (s : Service)
    (calls : List ι) (o : ι) :
    evalRun step s (calls ++ [o]) = (step (evalRun step s calls) o).1 := by
  induction calls generalizing s with
  | nil => rfl
  | cons c cs ih => exact ih _

/-- Over any run a change-detecting checksum stays one, and once a checksum was computed
the stored hash agrees with the last one computed. -/
theorem checksumRun_stored {s : Service} {cs : Checksum} {n : Nat} (hcs : s.checksum = some cs)
    (htc : cs.test_changes = true) (hn : hashLength cs.type = some n)
    (calls : List (Option String)) :
    ∃ cs', (evalRun checkChecksum s calls).checksum = some cs' ∧ cs'.test_changes = true ∧
      cs'.type = cs.type ∧ ∀ w, (calls.filterMap id).getLast? = some w →
        cs'.initialized = true ∧ strncmpDiffers cs'.hash w n = false := by
  induction calls using List.reverseRecOn with
  | nil => exact ⟨cs, hcs, htc, rfl, by simp⟩
  | append_singleton calls o ih =>
    obtain ⟨cs', hcs', htc', htype, hlast⟩ := ih
    rw [evalRun_concat]
    cases o with
    | none => exact ⟨cs', by rw [checkChecksum_none hcs', hcs'], htc', htype, by simpa using hlast⟩
    | some v =>
      obtain ⟨hnew, -⟩ := checkChecksum_test_changes hcs' htc' (htype ▸ hn) v
      refine ⟨_, hnew, htc', htype, fun w hw => ⟨rfl, ?_⟩⟩
      obtain rfl : v = w := by simpa using hw
      simp

/-- Over any run the first change entry of `sizelist` stays in place, and it holds the last
size observed. -/
theorem sizeRun_stored {s : Service} {pre post : List Size} {sl : Size}
    (hl : s.sizelist = pre ++ sl :: post) (hpre : ∀ x ∈ pre, x.test_changes = false)
    (htc : sl.test_changes = true) (calls : List Nat) :
    ∃ sl', (evalRun (fun s v => checkSize (s.setStSize v)) s calls).sizelist = pre ++ sl' :: post ∧
      sl'.test_changes = true ∧
      ∀ w, calls.getLast? = some w → sl'.initialized = true ∧ sl'.size = w := by
  induction calls using List.reverseRecOn with
  | nil => exact ⟨sl, hl, htc, by simp⟩
  | append_singleton calls v ih =>
    obtain ⟨sl', hl', htc', -⟩ := ih
    obtain ⟨hstep, -⟩ := checkSize_at_change (s := (evalRun _ s calls).setStSize v)
      (by simpa using hl') hpre htc'
    rw [(sizeChange_spec _ _ _).1] at hstep
    refine ⟨{ sl' with initialized := true, size := v }, by rw [evalRun_concat]; simpa using hstep,
      htc', fun w hw => ?_⟩
    obtain rfl : v = w := by simpa using hw
    simp

/-- The timestamps a run observes: those of the cycles in which the time was known. -/
def observedTimestamps (calls : List (Int × Int)) : List Int :=
  calls.filterMap fun c => if toCInt c.1 = -1 then none else some c.2

/-- Over any run the first change entry of `timestamplist` stays in place, and it holds the
last timestamp observed. -/
theorem timestampRun_stored {s : Service} {pre post : List Timestamp} {t : Timestamp}
    (hl : s.timestamplist = pre ++ t :: post) (hpre : ∀ x ∈ pre, x.test_changes = false)
    (htc : t.test_changes = true) (calls : List (Int × Int)) :
    ∃ t', (evalRun (fun s c => checkTimestamp (s.setTimestamp c.2) c.1) s calls).timestamplist =
        pre ++ t' :: post ∧ t'.test_changes = true ∧
      ∀ w, (observedTimestamps calls).getLast? = some w → t'.timestamp = w := by
  induction calls using List.reverseRecOn with
  | nil => exact ⟨t, hl, htc, by simp [observedTimestamps]⟩
  | append_singleton calls c ih =>
    obtain ⟨t', hl', htc', hlast⟩ := ih
    rw [evalRun_concat]
    by_cases hnow : toCInt c.1 = -1
    · refine ⟨t', by simpa [checkTimestamp, hnow] using hl', htc', fun w hw => hlast w ?_⟩
      simpa [observedTimestamps, hnow] using hw
    · obtain ⟨hstep, -⟩ := checkTimestamp_at_change (s := (evalRun _ s calls).setTimestamp c.2)
        hnow (by simpa using hl') hpre htc'
      rw [(timestampChange_spec _ _ _).1] at hstep
      refine ⟨{ t' with timestamp := c.2 }, by simpa using hstep, htc', fun w hw => ?_⟩
      simp_all [observedTimestamps]

/-- Every evaluation of every run of a change-detecting descriptor: afterwards the stored
value is the value it observed (a checksum on its first 32 or 40 digits), a cycle that could
not obtain the value keeps the stored one, and an evaluation that follows an earlier one
posts `CHANGED` exactly when its value differs from the value observed at the previous
evaluation, `CHANGEDNOT` otherwise. The size and timestamp descriptors are the first
`test_changes` entries of their lists, behind the entries `pre`. -/
theorem changeTests_track_last_value :
    (∀ (s : Service) (cs : Checksum) (n : Nat) (calls : List (Option String)) (o : Option String),
      s.checksum = some cs → cs.test_changes = true →
      (cs.type = .md5 ∧ n = 32) ∨ (cs.type = .sha1 ∧ n = 40) →
      let before := evalRun checkChecksum s calls
      let r := checkChecksum before o
      (o = none → r.1.checksum = before.checksum) ∧
      ∀ v, o = some v →
        (∃ cs', r.1.checksum = some cs' ∧ cs'.hash.toList.take n = v.toList.take n) ∧
        ∀ w, (calls.filterMap id).getLast? = some w →
          statesFor r.2 (.checksum, .checksum) =
            [if w.toList.take n = v.toList.take n then .changedNot else .changed]) ∧
    (∀ (s : Service) (pre post : List Size) (sl : Size) (calls : List Nat) (v : Nat),
      s.sizelist = pre ++ sl :: post → (∀ x ∈ pre, x.test_changes = false) →
      sl.test_changes = true →
      let before := evalRun (fun s v => checkSize (s.setStSize v)) s calls
      let r := checkSize (before.setStSize v)
      (∃ sl', r.1.sizelist = pre ++ sl' :: post ∧ sl'.size = v) ∧
      ∀ w, calls.getLast? = some w →
        statesFor r.2 (.size, .size pre.length) = [if w = v then .changedNot else .changed]) ∧
    (∀ (s : Service) (pre post : List Timestamp) (t : Timestamp) (calls : List (Int × Int))
        (now ts : Int),
      s.timestamplist = pre ++ t :: post → (∀ x ∈ pre, x.test_changes = false) →
      t.test_changes = true →
      let before := evalRun (fun s c => checkTimestamp (s.setTimestamp c.2) c.1) s calls
      let r := checkTimestamp (before.setTimestamp ts) now
      (toCInt now = -1 → r.1.timestamplist = before.timestamplist) ∧
      (toCInt now ≠ -1 →
        (∃ t', r.1.timestamplist = pre ++ t' :: post ∧ t'.timestamp = ts) ∧
        ∀ w, (observedTimestamps calls).getLast? = some w →
          statesFor r.2 (.timestamp, .timestamp pre.length) =
            [if w = ts then .changedNot else .changed])) := by
  refine ⟨?checksum, ?size, ?timestamp⟩
  case checksum =>
    intro s cs n calls o hcs htc hlen before r
    have hn : hashLength cs.type = some n := by
      rcases hlen with ⟨htype, rfl⟩ | ⟨htype, rfl⟩ <;> simp only [htype, hashLength]
    obtain ⟨cs', hcs', htc', htype, hlast⟩ := checksumRun_stored hcs htc hn calls
    refine ⟨fun ho => by simp [r, ho, checkChecksum_none hcs'], fun v hv => ?_⟩
    obtain ⟨hnew, hstates⟩ := checkChecksum_test_changes hcs' htc' (htype ▸ hn) v
    have hr : r.1.checksum = (checkChecksum before (some v)).1.checksum := by simp only [r, hv]
    refine ⟨⟨_, hr.trans hnew, strncmpDiffers_eq_false_iff.mp (strncmpDiffers_reset _ v n)⟩,
      fun w hw => ?_⟩
    obtain ⟨hinit, hagree⟩ := hlast w hw
    simp only [r, hv, hstates, hinit, ite_true, strncmpDiffers_congr_left hagree,
      ite_strncmpDiffers]
  case size =>
    intro s pre post sl calls v hl hpre htc before r
    obtain ⟨sl', hl', htc', hlast⟩ := sizeRun_stored hl hpre htc calls
    obtain ⟨hstep, hstates⟩ := checkSize_at_change (s := before.setStSize v) (by simpa using hl')
      hpre htc'
    obtain ⟨hnew, -, hspec⟩ := sizeChange_spec (before.setStSize v) pre.length sl'
    refine ⟨⟨_, hstep, by simp [hnew]⟩, fun w hw => ?_⟩
    obtain ⟨hinit, rfl⟩ := hlast w hw
    simp [r, hstates, hspec, hinit]
  case timestamp =>
    intro s pre post t calls now ts hl hpre htc before r
    refine ⟨fun hnow => by simp [r, checkTimestamp, hnow], fun hnow => ?_⟩
    obtain ⟨t', hl', htc', hlast⟩ := timestampRun_stored hl hpre htc calls
    obtain ⟨hstep, hstates⟩ := checkTimestamp_at_change (s := before.setTimestamp ts) hnow
      (by simpa using hl') hpre htc'
    obtain ⟨hnew, -, hspec⟩ := timestampChange_spec (before.setTimestamp ts) pre.length t'
    refine ⟨⟨_, hstep, by simp [hnew]⟩, fun w hw => ?_⟩
    simp [r, hstates, hspec, hlast w hw]

/-- A run of a change-detecting size entry: the first evaluation only initialises it, the
second sees no change, the third sees one. -/
theorem changeTests_track_last_value_size_run :
    let sl : Size := ⟨.equal, 0, true, false⟩
    let s : Service := { (default : Service) with sizelist := [sl] }
    ([sl] = [] ++ sl :: [] ∧ sl.test_changes = true) ∧
    statesFor (checkSize ((evalRun (fun s v => checkSize (s.setStSize v)) s [5, 5]).setStSize 7)).2
      (.size, .size 0) = [.changed] := by
  intro sl s
  refine ⟨⟨rfl, rfl⟩, ?_⟩
  have h := (changeTests_track_last_value.2.1 s [] [] sl [5, 5] 7 rfl (by simp) rfl).2 5 rfl
  simpa using h

/-! ## The age of a file -/

/-- `INT_MIN` of `<limits.h>` for a 32-bit `int`. -/
def INT_MIN : Int := -2147483648

/-- `INT_MAX` of `<limits.h>` for a 32-bit `int`. -/
def INT_MAX : Int := 2147483647

/-- `(int)` keeps every value in the range of `int`. -/
theorem toCInt_of_fits {x : Int} (h0 : INT_MIN ≤ x) (h1 : x ≤ INT_MAX) : toCInt x = x := by
  simp only [INT_MIN, INT_MAX] at h0 h1
  simp only [toCInt, BitVec.toInt_ofInt, Int.bmod_def]
  push_cast
  split <;> omega

/-- Whenever the age of the file fits in an `int`, a constant-value timestamp rule that the
loop reaches fails exactly when its operator holds between the age `now - timestamp` and
its limit, and succeeds otherwise. -/
theorem checkTimestamp_constant_of_age_fits {s : Service} {now : Int} (hnow : toCInt now ≠ -1)
    {pre post : List Timestamp} {t : Timestamp} (hl : s.timestamplist = pre ++ t :: post)
    (hpre : ∀ x ∈ pre, x.test_changes = false) (hconst : t.test_changes = false)
    (hfit : INT_MIN ≤ now - s.inf.timestamp ∧ now - s.inf.timestamp ≤ INT_MAX) :
    statesFor (checkTimestamp s now).2 (.timestamp, .timestamp pre.length) =
      [if evalQExpression t.operator (now - s.inf.timestamp) t.time then .failed else .succeeded] := by
  simp only [checkTimestamp_of_time hnow, hl, statesFor_cons, post_key]
  rw [testUntilChange_at_constant _ _ _ timestampKey_injective (timestampConstant_key s now)
    (fun j x => (timestampChange_spec s j x).2.1) hpre hconst post]
  by_cases h : evalQExpression t.operator (now - s.inf.timestamp) t.time <;>
    simp [timestampConstant, toCInt_of_fits hfit.1 hfit.2, h]

/-- A file checked at `now = 1700000000` whose timestamp is its time of change: the rule
`if timestamp > 3600 seconds` fails on an age of one day. -/
theorem checkTimestamp_constant_of_age_fits_one_day :
    let s : Service := { (default : Service) with
      inf := { (default : Info) with timestamp := 1700000000 - 86400 },
      timestamplist := [⟨.greater, 3600, false, 0⟩] }
    (toCInt 1700000000 ≠ -1 ∧ INT_MIN ≤ (1700000000 : Int) - s.inf.timestamp ∧
      (1700000000 : Int) - s.inf.timestamp ≤ INT_MAX) ∧
    statesFor (checkTimestamp s 1700000000).2 (.timestamp, .timestamp 0) = [.failed] := by
  intro s
  refine ⟨⟨by decide, by decide, by decide⟩, ?_⟩
  have h := @checkTimestamp_constant_of_age_fits s 1700000000 (by decide) [] []
    ⟨.greater, 3600, false, 0⟩ rfl (by simp) rfl ⟨by decide, by decide⟩
  simpa [evalQExpression] using h

/-- A file stamped 3,000,000,000 seconds ahead of the clock (in the year 2118), checked at
`now = 1700000000` by the rule `if timestamp > 3600 seconds`: its age is negative, but
`(int)` wraps it to 1,294,967,296 seconds and the rule fails. -/
theorem checkTimestamp_future_file_fails :
    let s : Service := { (default : Service) with
      inf := { (default : Info) with timestamp := 4700000000 },
      timestamplist := [⟨.greater, 3600, false, 0⟩] }
    statesFor (checkTimestamp s 1700000000).2 (.timestamp, .timestamp 0) = [.failed] ∧
      evalQExpression .greater (1700000000 - 4700000000) 3600 = false := by
  decide

end MonitValidation.Tests
