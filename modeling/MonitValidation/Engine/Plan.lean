import MonitValidation.Engine.Event
import Mathlib.Data.List.Nodup

/-!
# Post plans: how often one call may post under a key

A validator runs its sub-tests in a fixed order (existence, type, owner, content-specific
tests), and each sub-test posts under keys of one event kind, at most once per action record.
`PostPlan kinds evs` says that `evs` is such a sequence: one part per sub-test, the `i`-th
part posting only events of kind `kinds[i]` and never twice under one key. A part may be
empty, so a validator that returns early still follows its whole plan.

From a plan alone, the number of events posted under a key is bounded by the number of
sub-tests of the key's kind (`PostPlan.statesFor_length_le`). The at-most-once question for
a whole cycle then reduces to counting kinds in a short literal list.
-/

namespace MonitValidation

/-- A sub-test's events: all of kind `kind`, and at most one per action record. -/
def OneKind (kind : EventKind) (part : List Event) : Prop :=
  (∀ e ∈ part, e.kind = kind) ∧ (part.map Event.key).Nodup

theorem oneKind_nil (kind : EventKind) : OneKind kind [] := by
  simp [OneKind]

theorem oneKind_post (kind : EventKind) (state : EventState) (act : ActionRef) (format : String)
    (args : List Arg) : OneKind kind [post kind state act format args] := by
  simp [OneKind]

/-- A test that posts under one fixed key posts at most once. -/
theorem oneKind_of_sublist_single {part : List Event} {kind : EventKind} {act : ActionRef}
    (h : (part.map Event.key).Sublist [(kind, act)]) : OneKind kind part := by
  refine ⟨fun e he => ?_, h.nodup (by simp)⟩
  have := List.mem_singleton.1 (h.subset (List.mem_map_of_mem Event.key he))
  exact congrArg Prod.fst this

theorem oneKind_of_keys_eq {part : List Event} {kind : EventKind} {act : ActionRef}
    (h : part.map Event.key = [(kind, act)]) : OneKind kind part :=
  oneKind_of_sublist_single (by rw [h])

/-- A loop over a descriptor list, whose `j`-th entry posts under `(kind, ctor j)`, is one
part of kind `kind`. -/
theorem oneKind_of_sublist_range {part : List Event} {kind : EventKind}
    (ctor : Nat → ActionRef) (hctor : Function.Injective ctor) {i n : Nat}
    (h : (part.map Event.key).Sublist ((List.range' i n).map fun j => (kind, ctor j))) :
    OneKind kind part := by
  refine ⟨fun e he => ?_, h.nodup (List.Nodup.map (fun a b hab => hctor (Prod.ext_iff.1 hab).2)
    (List.nodup_range' i n))⟩
  obtain ⟨j, -, hj⟩ := List.mem_map.1 (h.subset (List.mem_map_of_mem Event.key he))
  exact (congrArg Prod.fst hj).symm

/-- The events posted under a key are those of the part of the key's kind, at most one. -/
theorem OneKind.statesFor_length_le {kind : EventKind} {part : List Event}
    (h : OneKind kind part) (k : EventKind × ActionRef) :
    (statesFor part k).length ≤ if kind = k.1 then 1 else 0 := by
  let keys := (part.map Event.key).filter (· = k)
  have hlen : (statesFor part k).length = keys.length := by
    simp [keys, statesFor, List.filter_map, Function.comp_def]
  have hkeys : keys = List.replicate keys.length k :=
    List.eq_replicate_of_mem fun x hx => by simpa using (List.mem_filter.1 hx).2
  rw [hlen]
  split
  · have hnodup : keys.Nodup := h.2.filter _
    rw [hkeys] at hnodup
    exact List.nodup_replicate.1 hnodup
  · next hk =>
    refine Nat.le_zero.2 (List.length_eq_zero.2 (List.eq_nil_iff_forall_not_mem.2 fun x hx => hk ?_))
    obtain ⟨hx, hxk⟩ := List.mem_filter.1 hx
    obtain ⟨e, he, rfl⟩ := List.mem_map.1 hx
    exact (h.1 e he).symm.trans (congrArg Prod.fst (of_decide_eq_true hxk))

/-- Two runs of one sub-test's kind under different keys are one part. -/
theorem OneKind.append {kind : EventKind} {part part' : List Event} (h : OneKind kind part)
    (h' : OneKind kind part') (hdisj : ∀ e ∈ part, ∀ e' ∈ part', e.key ≠ e'.key) :
    OneKind kind (part ++ part') := by
  refine ⟨fun e he => (List.mem_append.1 he).elim (h.1 e) (h'.1 e), ?_⟩
  rw [List.map_append]
  refine List.nodup_append.2 ⟨h.2, h'.2, fun k hk hk' => ?_⟩
  obtain ⟨e, he, rfl⟩ := List.mem_map.1 hk
  obtain ⟨e', he', hkey⟩ := List.mem_map.1 hk'
  exact hdisj e he e' he' hkey.symm

/-- The events `evs` are posted by sub-tests of the kinds `kinds`, in this order. -/
inductive PostPlan : List EventKind → List Event → Prop
  | nil : PostPlan [] []
  | cons {kind : EventKind} {kinds : List EventKind} {part evs : List Event} :
      OneKind kind part → PostPlan kinds evs → PostPlan (kind :: kinds) (part ++ evs)

namespace PostPlan

/-- A call that posts nothing follows every plan. -/
theorem empty : ∀ kinds : List EventKind, PostPlan kinds []
  | [] => nil
  | kind :: kinds => by simpa using cons (oneKind_nil kind) (empty kinds)

/-- A sub-test that returns early: its part, and nothing of the sub-tests after it. -/
theorem head {kind : EventKind} {kinds : List EventKind} {part : List Event}
    (h : OneKind kind part) : PostPlan (kind :: kinds) part := by
  simpa using cons h (empty kinds)

/-- A single post, then the rest of the plan. -/
theorem post {kind : EventKind} {kinds : List EventKind} {evs : List Event} {state : EventState}
    {act : ActionRef} {format : String} {args : List Arg} (h : PostPlan kinds evs) :
    PostPlan (kind :: kinds) (MonitValidation.post kind state act format args :: evs) :=
  cons (oneKind_post kind state act format args) h

theorem single {kind : EventKind} {part : List Event} (h : OneKind kind part) :
    PostPlan [kind] part := by
  simpa using cons h nil

/-- Sub-tests run one after the other follow the concatenation of their plans. -/
theorem append {kinds kinds' : List EventKind} {evs evs' : List Event}
    (h : PostPlan kinds evs) (h' : PostPlan kinds' evs') : PostPlan (kinds ++ kinds') (evs ++ evs') := by
  induction h with
  | nil => simpa using h'
  | cons hpart _ ih => simpa using cons hpart ih

/-- A call that stops after its first sub-tests (an early `return`) follows the whole plan. -/
theorem of_prefix {kinds kinds' : List EventKind} {evs : List Event} (h : PostPlan kinds evs) :
    PostPlan (kinds ++ kinds') evs := by
  simpa using h.append (empty kinds')

/-- A plan posts only events of its sub-tests' kinds. -/
theorem kind_mem {kinds : List EventKind} {evs : List Event} (h : PostPlan kinds evs)
    {e : Event} (he : e ∈ evs) : e.kind ∈ kinds := by
  induction h with
  | nil => cases he
  | cons hpart _ ih =>
    rcases List.mem_append.1 he with he | he
    · exact hpart.1 e he ▸ List.mem_cons_self _ _
    · exact List.mem_cons_of_mem _ (ih he)

/-- Under a key, a plan posts at most once per sub-test of the key's kind. -/
theorem statesFor_length_le {kinds : List EventKind} {evs : List Event} (h : PostPlan kinds evs)
    (k : EventKind × ActionRef) : (statesFor evs k).length ≤ kinds.count k.1 := by
  induction h with
  | nil => simp
  | cons hpart _ ih =>
    have hp := hpart.statesFor_length_le k
    rw [statesFor_append, List.length_append, List.count_cons]
    split at hp <;> simp_all; omega

end PostPlan

end MonitValidation
