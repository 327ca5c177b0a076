import Libbgp.Rib6.Lookup
import Libbgp.Rib6.Batch
import Libbgp.Rib6.Contracts

namespace Libbgp

namespace BgpRib6

/-!
# Laws between the operations of the IPv6 RIB

The RIB offers more than one way to the same end, and its callers rely on
them agreeing.  `discard(src)` erases the entries of a source in one pass; it
does what the batch `withdraw(src, routes)` does with the routes it returns,
and that batch counts every one of them, whether or not the RIB keeps one
entry per key.  The local batch `insert` does what the single local inserts
do route by route, but for the `update_id`s.  A withdrawal after a peer's
insert of the same source and route leaves what the withdrawal alone leaves.
After `discard(src)` neither lookup returns an entry of `src`.

The only undefined behaviour among the operations is the `memcpy` from a
`NULL` link-local nexthop in a peer's batch insert of at least one route, and
a run has it exactly when it holds such an operation.
-/

/-! ## `discard` and the batch `withdraw` -/

theorem withdrawBatchLoop_cons_other {src : UInt32} {e : BgpRib6Entry} (other : e.srcRouterId ≠ src)
    (routes : List Prefix6) (dropped : Nat) (rib : List BgpRib6Entry) (updateId : Nat) :
    withdrawBatchLoop src routes dropped ⟨e :: rib, updateId⟩ =
      ((withdrawBatchLoop src routes dropped ⟨rib, updateId⟩).1,
        ⟨e :: (withdrawBatchLoop src routes dropped ⟨rib, updateId⟩).2.rib, updateId⟩) := by
  induction routes generalizing dropped rib with
  | nil => rfl
  | cons route rest ih =>
    have unkeyed : e.keyedBy src route = false := by simp [BgpRib6Entry.keyedBy, other]
    simp only [withdrawBatchLoop, withdraw, List.any_cons, unkeyed, Bool.false_or,
      List.eraseP_cons_of_neg (by simp [unkeyed] : ¬e.keyedBy src route = true)]
    exact ih _ _

/-- The batch withdrawal of the routes of a source's entries, in the order of
the RIB, erases each of those entries in turn and counts them all. -/
theorem withdrawBatchLoop_routes_of_source (src : UInt32) (rib : List BgpRib6Entry) (dropped : Nat)
    (updateId : Nat) :
    withdrawBatchLoop src ((rib.filter (·.srcRouterId == src)).map (·.route)) dropped ⟨rib, updateId⟩ =
      (dropped + (rib.filter (·.srcRouterId == src)).length,
        ⟨rib.filter fun e => !(e.srcRouterId == src), updateId⟩) := by
  induction rib generalizing dropped with
  | nil => rfl
  | cons e rest ih =>
    by_cases mine : e.srcRouterId = src
    · have keyed : e.keyedBy src e.route = true := by simp [BgpRib6Entry.keyedBy, mine]
      simp only [List.filter_cons, mine, beq_self_eq_true, if_true, List.map_cons, withdrawBatchLoop,
        withdraw, List.any_cons, keyed, Bool.true_or, List.eraseP_cons_of_pos keyed, ih,
        Bool.not_true, Bool.false_eq_true, if_false, List.length_cons]
      congr 1
      omega
    · simp only [List.filter_cons, beq_iff_eq, mine, if_false, decide_False, Bool.not_false,
        if_true]
      rw [withdrawBatchLoop_cons_other mine, ih]
      simp [mine]

/-- `discard(src)` does what the batch `withdraw(src, routes)` does with the
routes it returns, and that batch counts every one of them. -/
theorem withdrawBatch_discarded_routes (src : UInt32) (s : BgpRib6) :
    withdrawBatch src (discard src s).1 s = ((discard src s).1.length, (discard src s).2) := by
  have discarded : discard src s = ((s.rib.filter (·.srcRouterId == src)).map (·.route),
      ⟨s.rib.filter fun e => !(e.srcRouterId == src), s.updateId⟩) := by
    simp [discard, eraseEachFrom_eq, foldl_push_route]
  rw [discarded, withdrawBatch, withdrawBatchLoop_routes_of_source]
  simp

/-! ## The local batch insert and the single local inserts -/

/-- The single local insert for each route in turn, collecting the entries it
returns. -/
def insertLocalEach (nexthopGlobal : Addr6) (nexthopLinklocal : Option Addr6) (weight : Int) :
    List Prefix6 -> List BgpRib6Entry -> BgpRib6 -> List BgpRib6Entry × BgpRib6
  | [], inserted, s => (inserted, s)
  | r :: rest, inserted, s =>
      let (entry, s) := insertLocal r nexthopGlobal nexthopLinklocal weight s
      insertLocalEach nexthopGlobal nexthopLinklocal weight rest (inserted ++ entry.toList) s

theorem eraseDups_loop_filter_cons {β : Type} [DecidableEq β] (p : β -> Bool) (r : β)
    (rest seen : List β) :
    List.eraseDups.loop ((r :: rest).filter p) seen =
      if p r ∧ r ∉ seen then List.eraseDups.loop (rest.filter p) (r :: seen)
      else List.eraseDups.loop (rest.filter p) seen := by
  by_cases kept : p r <;> by_cases again : r ∈ seen <;>
    simp [List.filter_cons, kept, again, List.eraseDups.loop, List.elem_eq_mem]

theorem insertLocalEach_forgetId (nexthopGlobal : Addr6) (nexthopLinklocal : Option Addr6)
    (weight : Int) (base : List BgpRib6Entry) (routes seen : List Prefix6)
    (added inserted : List BgpRib6Entry) (updateId : Nat)
    (addedSeen : added.map BgpRib6Entry.forgetId = seen.reverse.map fun r =>
      BgpRib6Entry.new r 0 nexthopGlobal nexthopLinklocal localAttribs weight 0)
    (insertedSeen : inserted.map BgpRib6Entry.forgetId = seen.reverse.map fun r =>
      BgpRib6Entry.new r 0 nexthopGlobal nexthopLinklocal localAttribs weight 0) :
    let entry := fun r => BgpRib6Entry.new r 0 nexthopGlobal nexthopLinklocal localAttribs weight 0
    let fresh := List.eraseDups.loop
      (routes.filter fun r => ¬∃ e ∈ base, e.srcRouterId = 0 ∧ e.route = r) seen
    (insertLocalEach nexthopGlobal nexthopLinklocal weight routes inserted ⟨base ++ added, updateId⟩).2.rib.map
        BgpRib6Entry.forgetId = base.map BgpRib6Entry.forgetId ++ fresh.map entry ∧
      (insertLocalEach nexthopGlobal nexthopLinklocal weight routes inserted
        ⟨base ++ added, updateId⟩).1.map BgpRib6Entry.forgetId = fresh.map entry := by
  intro entry fresh
  induction routes generalizing seen added inserted updateId with
  | nil => simp [fresh, insertLocalEach, List.eraseDups.loop, addedSeen, insertedSeen]
  | cons route rest ih =>
    have seenLocal : (∃ e ∈ added, e.srcRouterId = 0 ∧ e.route = route) ↔ route ∈ seen := by
      have keys := congrArg (List.map fun f : BgpRib6Entry => (f.srcRouterId, f.route)) addedSeen
      simp only [List.map_map, Function.comp_def, BgpRib6Entry.forgetId, BgpRib6Entry.new] at keys
      have listed : (0, route) ∈ added.map (fun e => (e.srcRouterId, e.route)) ↔
          (0, route) ∈ seen.reverse.map (fun r => ((0 : UInt32), r)) := by rw [keys]
      simpa using listed
    have scannedNone : localUpdateId
        (BgpRib6Entry.new route 0 nexthopGlobal nexthopLinklocal localAttribs weight updateId)
        (base ++ added) updateId = none ↔
          (∃ e ∈ base, e.srcRouterId = 0 ∧ e.route = route) ∨ route ∈ seen := by
      rw [localUpdateId_eq_none_iff, ← seenLocal]
      simp [BgpRib6Entry.new, or_and_right, exists_or]
    have step := eraseDups_loop_filter_cons
      (fun r => decide ¬∃ e ∈ base, e.srcRouterId = 0 ∧ e.route = r) route rest seen
    by_cases skip : (∃ e ∈ base, e.srcRouterId = 0 ∧ e.route = route) ∨ route ∈ seen
    · simp only [insertLocalEach, insertLocal, scannedNone.2 skip, Option.toList, List.append_nil]
      rw [show fresh = _ from
        step.trans (if_neg fun ⟨kept, unseen⟩ => skip.elim (by simpa using kept) unseen)]
      exact ih seen added inserted updateId addedSeen insertedSeen
    · obtain ⟨found, scanned⟩ := Option.ne_none_iff_exists'.1 (mt scannedNone.1 skip)
      simp only [insertLocalEach, insertLocal, scanned, Option.toList]
      rw [show fresh = _ from step.trans
        (if_pos ⟨by simpa using fun old => skip (.inl old), fun again => skip (.inr again)⟩),
        List.append_assoc]
      exact ih (route :: seen) _ _ _ (by simp [addedSeen, entry, BgpRib6Entry.new, BgpRib6Entry.forgetId])
        (by simp [insertedSeen, entry, BgpRib6Entry.new, BgpRib6Entry.forgetId])

/-- The local batch insert does what the single local inserts do for each
route in turn, but for the `update_id`s: it returns the same entries and
leaves the same entries in the same order. -/
theorem insertLocalBatch_eq_singles (routes : List Prefix6) (nexthopGlobal : Addr6)
    (nexthopLinklocal : Option Addr6) (weight : Int) (s : BgpRib6) :
    (insertLocalBatch routes nexthopGlobal nexthopLinklocal weight s).1.map BgpRib6Entry.forgetId =
        (insertLocalEach nexthopGlobal nexthopLinklocal weight routes [] s).1.map BgpRib6Entry.forgetId ∧
      SameButIds (insertLocalBatch routes nexthopGlobal nexthopLinklocal weight s).2
        (insertLocalEach nexthopGlobal nexthopLinklocal weight routes [] s).2 := by
  have looped := insertLocalBatchLoop_eq nexthopGlobal nexthopLinklocal weight s.updateId s.rib routes []
  simp only [List.reverse_nil, List.map_nil, List.append_nil] at looped
  obtain ⟨ribs, returned⟩ := insertLocalEach_forgetId nexthopGlobal nexthopLinklocal weight s.rib routes []
    [] [] s.updateId rfl rfl
  simp only [List.append_nil] at ribs returned
  simp only [insertLocalBatch, looped, SameButIds, List.map_append, List.map_map, ribs, returned]
  exact ⟨rfl, rfl⟩

/-! ## Local entries along a run -/

/-- On a RIB with one entry per key, a withdrawal after a peer's insert of the
same source and route finds an entry, and leaves what the withdrawal alone
leaves: whether the insert appended, replaced or refused, the source's entry
of the route is gone and every other entry is in its place. -/
theorem withdraw_after_insertPeer (prefer : BgpRib6Entry -> BgpRib6Entry -> Bool) {s : BgpRib6}
    (distinct : KeysDistinct s.rib) (src : UInt32) (route : Prefix6) (nexthopGlobal : Addr6)
    (nexthopLinklocal : Option Addr6) (attribs : List BgpPathAttrib) (weight : Int) :
    withdraw src route (insertPeer prefer src route nexthopGlobal nexthopLinklocal attribs weight s).2 =
      (true, ⟨(withdraw src route s).2.rib,
        (insertPeer prefer src route nexthopGlobal nexthopLinklocal attribs weight s).2.updateId⟩) := by
  have newKeyed : (BgpRib6Entry.new route src nexthopGlobal nexthopLinklocal attribs weight
      s.updateId).keyedBy src route = true := BgpRib6Entry.keyedBy_iff.2 rfl
  unfold insertPeer insertPriv
  rcases found : s.rib.find? (·.keyedBy src route) with _ | e
  · have none : ∀ f ∈ s.rib, ¬f.keyedBy src route = true := by simpa using List.find?_eq_none.1 found
    simp [found, withdraw, List.eraseP_append_right _ none, List.eraseP_of_forall_not none, newKeyed]
  · have keyed : e.keyedBy src route = true := List.find?_some found
    by_cases preferred :
        prefer (BgpRib6Entry.new route src nexthopGlobal nexthopLinklocal attribs weight s.updateId) e
    · have erased : ∀ f ∈ s.rib.eraseP (·.keyedBy src route), ¬f.keyedBy src route = true :=
        fun f member keyedF => key_ne_of_mem_eraseP distinct src route f member
          (BgpRib6Entry.keyedBy_iff.1 keyedF)
      simp [found, preferred, withdraw, List.eraseP_append_right _ erased, newKeyed]
    · simp only [found, preferred, withdraw, Bool.false_eq_true, if_false, Prod.mk.injEq, and_true]
      exact List.any_eq_true.2 ⟨e, List.mem_of_find?_eq_some found, keyed⟩

/-- A peer's entry of `::/0` that a preferred insert replaces. -/
theorem withdraw_after_replacing_insert :
    let s : BgpRib6 := ⟨[BgpRib6Entry.new ⟨Addr6.zero, 0⟩ 1 Addr6.zero none [] 0 0], 1⟩
    let inserted := insertPeer (fun _ _ => true) 1 ⟨Addr6.zero, 0⟩ Addr6.zero none [] 1 s
    KeysDistinct s.rib ∧
      withdraw 1 ⟨Addr6.zero, 0⟩ inserted.2 =
        (true, ⟨(withdraw 1 ⟨Addr6.zero, 0⟩ s).2.rib, inserted.2.updateId⟩) :=
  ⟨List.nodup_singleton _, withdraw_after_insertPeer _ (by exact List.nodup_singleton _) _ _ _ _ _ _⟩

/-! ## Lookups after `discard` -/

section Lookup

variable (includes : Prefix6 -> Addr6 -> Bool)
  (selectEntry : BgpRib6Entry -> Option BgpRib6Entry -> Option BgpRib6Entry)

/-- After `discard(src)`, `lookup(src, dest)` returns `NULL`, and when
`selectEntry` returns one of its arguments, `lookup(dest)` returns an entry
of another source that the RIB held, whose route includes `dest`. -/
theorem lookups_after_discard (picks : Picks selectEntry) (src : UInt32) (dest : Addr6) (s : BgpRib6) :
    lookupBySource includes selectEntry src dest (discard src s).2 = none ∧
      ∀ e, lookup includes selectEntry dest (discard src s).2 = some e ->
        e ∈ s.rib ∧ e.srcRouterId ≠ src ∧ includes e.route dest := by
  refine ⟨?_, fun e found => ?_⟩
  · rw [lookupBySource, lookupBySourceFrom_eq, discard_rib, List.filter_filter]
    simp [lookup, List.filter_eq_nil_iff.2 fun e _ => by simp; tauto, lookupFrom]
  · rcases lookupFrom_cases picks dest none (discard src s).2.rib with stays | ⟨f, member, inc, found'⟩
    · exact absurd (found.symm.trans stays) nofun
    · rw [lookup, found'] at found
      cases found
      rw [discard_rib, List.mem_filter] at member
      exact ⟨member.1, by simpa using member.2, inc⟩

end Lookup

/-- Entries of the sources `1` and `2` for `::/0`, a lookup that includes
every route and always takes the later entry, and `discard(1)`. -/
theorem lookups_after_discard_of_two_sources :
    let includes : Prefix6 -> Addr6 -> Bool := fun _ _ => true
    let selectEntry : BgpRib6Entry -> Option BgpRib6Entry -> Option BgpRib6Entry := fun entry _ => some entry
    let s : BgpRib6 := ⟨[BgpRib6Entry.new ⟨Addr6.zero, 0⟩ 1 Addr6.zero none [] 0 0,
      BgpRib6Entry.new ⟨Addr6.zero, 0⟩ 2 Addr6.zero none [] 0 1], 2⟩
    Picks selectEntry ∧
      lookupBySource includes selectEntry 1 Addr6.zero (discard 1 s).2 = none ∧
      ∀ e, lookup includes selectEntry Addr6.zero (discard 1 s).2 = some e ->
        e ∈ s.rib ∧ e.srcRouterId ≠ 1 ∧ includes e.route Addr6.zero :=
  ⟨fun _ _ => .inl rfl, lookups_after_discard _ _ (fun _ _ => .inl rfl) 1 Addr6.zero _⟩

end BgpRib6

/-! ## Where a run has undefined behaviour -/

namespace RibOp

/-- A peer's batch insert of at least one route with a `NULL` link-local
nexthop, which the batch loop copies from. -/
def CopiesNull : RibOp -> Prop
  | insertPeerBatch _ routes _ none _ _ => routes ≠ []
  | _ => False

instance : DecidablePred CopiesNull := fun op =>
  match op with
  | insertPeerBatch _ routes _ none _ _ => inferInstanceAs (Decidable (routes ≠ []))
  | insertPeerBatch _ _ _ (some _) _ _ | insertLocal .. | insertLocalPublish .. | insertLocalBatch ..
  | insertLocalBatchPublish .. | insertPeer .. | withdraw .. | withdrawBatch .. | discard .. =>
      isFalse nofun

end RibOp

namespace BgpRib6

theorem insertPeerBatchLoop_isSome (prefer : BgpRib6Entry -> BgpRib6Entry -> Bool) (src : UInt32)
    (nexthopGlobal nexthopLinklocal : Addr6) (attrib : List BgpPathAttrib) (weight : Int)
    (routes : List Prefix6) (inserted : Nat) (s : BgpRib6) :
    (insertPeerBatchLoop prefer src nexthopGlobal (some nexthopLinklocal) attrib weight routes inserted
      s).isSome := by
  induction routes generalizing inserted s with
  | nil => rfl
  | cons r rest ih => exact ih _ _

theorem apply_eq_none_iff (prefer : BgpRib6Entry -> BgpRib6Entry -> Bool) (op : RibOp) (s : BgpRib6) :
    op.apply prefer s = none ↔ op.CopiesNull := by
  cases op with
  | insertPeerBatch src routes nexthopGlobal nexthopLinklocal attribs weight =>
    cases nexthopLinklocal with
    | none => cases routes <;> simp [RibOp.apply, RibOp.CopiesNull, insertPeerBatch, insertPeerBatchLoop]
    | some nexthopLinklocal =>
      obtain ⟨result, looped⟩ := Option.isSome_iff_exists.1 (insertPeerBatchLoop_isSome prefer src
        nexthopGlobal nexthopLinklocal attribs weight routes 0 s)
      simp [RibOp.apply, RibOp.CopiesNull, insertPeerBatch, looped]
  | _ => simp [RibOp.apply, RibOp.CopiesNull]

/-- A run has undefined behaviour exactly when it holds a peer's batch insert
of at least one route with a `NULL` link-local nexthop: every other operation
is defined on every RIB. -/
theorem run_eq_none_iff (prefer : BgpRib6Entry -> BgpRib6Entry -> Bool) (ops : List RibOp)
    (s : BgpRib6) : BgpRib6.run prefer ops s = none ↔ ∃ op ∈ ops, op.CopiesNull := by
  induction ops generalizing s with
  | nil => simp [BgpRib6.run]
  | cons op rest ih =>
    have step : BgpRib6.run prefer (op :: rest) s = (op.apply prefer s).bind (BgpRib6.run prefer rest) :=
      rfl
    rw [step]
    cases applied : op.apply prefer s with
    | none => simpa using .inl ((apply_eq_none_iff prefer op s).1 applied)
    | some t =>
      have defined : ¬op.CopiesNull := fun copies => by
        rw [(apply_eq_none_iff prefer op s).2 copies] at applied
        cases applied
      simp [ih, defined]

end BgpRib6

end Libbgp
