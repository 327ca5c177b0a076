import Libbgp.Rib6.Batch
import Libbgp.Rib6.Contracts

namespace Libbgp

/-!
# The routes the IPv6 RIB holds

Seen from its callers, the RIB holds a set of keys, a source and a route
each: the pairs a lookup can return an entry of, and a withdrawal can erase.
How that set changes does not depend on what else an entry carries.  Every
insert adds the keys of its routes, under its source or under the local source
`0`, whether `prefer` lets a peer's entry replace the one it has or not, and
whether a local route opens a group or joins one; a withdrawal removes the
keys of its routes, and `discard` every key of its source.  The nexthops, the
attributes, the weights and the `update_id`s play no part.

`RibOp.applyKeys` is that abstract machine, and every run of the RIB from a
RIB that keeps the invariant refines it: the keys after the run are those the
machine computes from the keys before, one operation at a time, for every
ranking `prefer`.  Removing needs the invariant's one entry per key:
`withdraw` erases the first entry of a key only.
-/

namespace BgpRib6

/-- The pairs of source and route the RIB has an entry of. -/
def keys (s : BgpRib6) : Finset (UInt32 × Prefix6) := (s.rib.map BgpRib6Entry.key).toFinset

@[simp] theorem mem_keys {s : BgpRib6} {key : UInt32 × Prefix6} :
    key ∈ s.keys ↔ ∃ e ∈ s.rib, e.key = key := by
  simp [keys]

end BgpRib6

namespace RibOp

/-- The keys an operation leaves, from those it finds: an insert adds the
keys of its routes, a withdrawal removes them, and `discard` removes every
key of its source. -/
def applyKeys : RibOp -> Finset (UInt32 × Prefix6) -> Finset (UInt32 × Prefix6)
  | insertLocal route .., held | insertLocalPublish route .., held => insert (0, route) held
  | insertLocalBatch routes .., held | insertLocalBatchPublish routes .., held =>
      held ∪ (routes.map ((0 : UInt32), ·)).toFinset
  | insertPeer src route .., held => insert (src, route) held
  | insertPeerBatch src routes .., held => held ∪ (routes.map (src, ·)).toFinset
  | withdraw src route, held => held.erase (src, route)
  | withdrawBatch src routes, held => held \ (routes.map (src, ·)).toFinset
  | discard src, held => held.filter (·.1 ≠ src)

/-- The keys after a list of operations. -/
def runKeys (ops : List RibOp) (held : Finset (UInt32 × Prefix6)) : Finset (UInt32 × Prefix6) :=
  ops.foldl (fun held op => op.applyKeys held) held

end RibOp

namespace BgpRib6

/-! ## Each operation -/

section Operations

variable (prefer : BgpRib6Entry -> BgpRib6Entry -> Bool)

theorem keys_eraseP_append {rib : List BgpRib6Entry} {src : UInt32} {route : Prefix6}
    {entry : BgpRib6Entry} (keyed : entry.key = (src, route)) :
    ((rib.eraseP (·.keyedBy src route) ++ [entry]).map BgpRib6Entry.key).toFinset =
      insert (src, route) (rib.map BgpRib6Entry.key).toFinset := by
  ext key
  simp only [List.map_append, List.toFinset_append, Finset.mem_union, Finset.mem_insert,
    List.mem_toFinset, List.mem_map, List.mem_singleton, exists_eq_left, keyed]
  constructor
  · rintro (⟨e, member, rfl⟩ | rfl)
    · exact .inr ⟨e, List.mem_of_mem_eraseP member, rfl⟩
    · exact .inl rfl
  · rintro (rfl | ⟨e, member, rfl⟩)
    · exact .inr rfl
    · by_cases keyedE : e.keyedBy src route
      · exact .inr (BgpRib6Entry.keyedBy_iff.1 keyedE).symm
      · exact .inl ⟨e, (List.mem_eraseP_of_neg keyedE).2 member, rfl⟩

theorem keys_insertPriv (src : UInt32) (route : Prefix6) (nexthopGlobal : Addr6)
    (nexthopLinklocal : Option Addr6) (attribs : List BgpPathAttrib) (weight : Int) (s : BgpRib6) :
    (insertPriv prefer src route nexthopGlobal nexthopLinklocal attribs weight s).2.keys =
      insert (src, route) s.keys := by
  unfold insertPriv
  split
  · rename_i entry found
    dsimp only
    split
    · exact keys_eraseP_append rfl
    · refine (Finset.insert_eq_of_mem (mem_keys.2 ⟨entry, List.mem_of_find?_eq_some found, ?_⟩)).symm
      exact BgpRib6Entry.keyedBy_iff.1 (List.find?_some found)
  · simp [keys, Finset.insert_eq, Finset.union_comm]

theorem keys_insertPeerBatchLoop (src : UInt32) (nexthopGlobal : Addr6)
    (nexthopLinklocal : Option Addr6) (attribs : List BgpPathAttrib) (weight : Int)
    (routes : List Prefix6) {inserted n : Nat} {u t : BgpRib6}
    (looped : insertPeerBatchLoop prefer src nexthopGlobal nexthopLinklocal attribs weight routes
      inserted u = some (n, t)) :
    t.keys = u.keys ∪ (routes.map (src, ·)).toFinset := by
  induction routes generalizing inserted u with
  | nil =>
    cases looped
    simp
  | cons r rest ih =>
    cases nexthopLinklocal with
    | none => cases looped
    | some asGlobal =>
      rw [ih (u := (insertPriv prefer src r asGlobal (some nexthopGlobal) attribs weight u).2) looped,
        keys_insertPriv]
      simp [Finset.insert_union]

theorem keys_insertLocal (route : Prefix6) (nexthopGlobal : Addr6) (nexthopLinklocal : Option Addr6)
    (weight : Int) (s : BgpRib6) :
    (insertLocal route nexthopGlobal nexthopLinklocal weight s).2.keys = insert (0, route) s.keys := by
  unfold insertLocal
  dsimp only
  split
  · rename_i scanned
    obtain ⟨e, member, isLocal, sameRoute⟩ := (localUpdateId_eq_none_iff _ _ _).1 scanned
    refine (Finset.insert_eq_of_mem (mem_keys.2 ⟨e, member, ?_⟩)).symm
    simp [BgpRib6Entry.key, isLocal, sameRoute, BgpRib6Entry.new]
  · simp [keys, Finset.insert_eq, Finset.union_comm, BgpRib6Entry.key, BgpRib6Entry.new]

theorem keys_insertLocalBatchLoop (nexthopGlobal : Addr6) (nexthopLinklocal : Option Addr6)
    (weight : Int) (updateId : Nat) (routes : List Prefix6) (rib inserted : List BgpRib6Entry)
    {rib' inserted' : List BgpRib6Entry}
    (looped : insertLocalBatchLoop nexthopGlobal nexthopLinklocal weight updateId routes rib inserted =
      (rib', inserted')) :
    (rib'.map BgpRib6Entry.key).toFinset =
      (rib.map BgpRib6Entry.key).toFinset ∪ (routes.map ((0 : UInt32), ·)).toFinset := by
  induction routes generalizing rib inserted with
  | nil =>
    cases looped
    simp
  | cons route rest ih =>
    unfold insertLocalBatchLoop at looped
    split at looped
    · rename_i taken
      obtain ⟨e, member, isLocal, sameRoute⟩ := by simpa using taken
      have held : ((0 : UInt32), route) ∈ (rib.map BgpRib6Entry.key).toFinset := by
        simp only [List.mem_toFinset, List.mem_map]
        exact ⟨e, member, by simp [BgpRib6Entry.key, isLocal, sameRoute]⟩
      rw [ih _ _ looped, List.map_cons, List.toFinset_cons, Finset.union_insert,
        Finset.insert_eq_of_mem (Finset.mem_union_left _ held)]
    · rw [ih _ _ looped]
      simp [Finset.union_assoc, Finset.insert_eq, BgpRib6Entry.key, BgpRib6Entry.new]

theorem keys_insertLocalBatch (routes : List Prefix6) (nexthopGlobal : Addr6)
    (nexthopLinklocal : Option Addr6) (weight : Int) (s : BgpRib6) :
    (insertLocalBatch routes nexthopGlobal nexthopLinklocal weight s).2.keys =
      s.keys ∪ (routes.map ((0 : UInt32), ·)).toFinset :=
  keys_insertLocalBatchLoop nexthopGlobal nexthopLinklocal weight s.updateId routes s.rib [] rfl

section Distinct

variable {s : BgpRib6} (distinct : KeysDistinct s.rib)
include distinct

theorem keys_withdraw (src : UInt32) (route : Prefix6) :
    (withdraw src route s).2.keys = s.keys.erase (src, route) := by
  ext key
  rw [withdraw_eq distinct]
  simp only [mem_keys, List.mem_filter, Finset.mem_erase, decide_eq_true_eq]
  constructor
  · rintro ⟨e, ⟨member, other⟩, rfl⟩
    exact ⟨other, e, member, rfl⟩
  · rintro ⟨other, e, member, rfl⟩
    exact ⟨e, ⟨member, other⟩, rfl⟩

theorem keys_withdrawBatch (src : UInt32) (routes : List Prefix6) :
    (withdrawBatch src routes s).2.keys = s.keys \ (routes.map (src, ·)).toFinset := by
  ext key
  rw [withdrawBatch, withdrawBatchLoop_eq src routes 0 distinct]
  simp only [mem_keys, List.mem_filter, Finset.mem_sdiff, List.mem_toFinset, List.mem_map,
    decide_eq_true_eq]
  constructor
  · rintro ⟨e, ⟨member, other⟩, rfl⟩
    exact ⟨⟨e, member, rfl⟩, fun ⟨r, listed, same⟩ =>
      other ⟨(Prod.mk.inj same).1.symm, (Prod.mk.inj same).2 ▸ listed⟩⟩
  · rintro ⟨⟨e, member, rfl⟩, other⟩
    exact ⟨e, ⟨member, fun ⟨fromSrc, listed⟩ => other ⟨e.route, listed, by rw [← fromSrc]; rfl⟩⟩, rfl⟩

end Distinct

theorem keys_discard (src : UInt32) (s : BgpRib6) :
    (discard src s).2.keys = s.keys.filter (·.1 ≠ src) := by
  ext key
  simp only [mem_keys, Finset.mem_filter, discard_rib, List.mem_filter]
  constructor
  · rintro ⟨e, ⟨member, other⟩, rfl⟩
    exact ⟨⟨e, member, rfl⟩, by simpa using other⟩
  · rintro ⟨⟨e, member, rfl⟩, other⟩
    exact ⟨e, ⟨member, by simpa using other⟩, rfl⟩

end Operations

/-! ## Every step, and every run -/

section Runs

variable (prefer : BgpRib6Entry -> BgpRib6Entry -> Bool)

/-- Each operation, where it is defined, leaves the keys `applyKeys` computes,
on a RIB with one entry per key. -/
theorem keys_apply {op : RibOp} {s t : BgpRib6} (distinct : KeysDistinct s.rib)
    (applied : op.apply prefer s = some t) : t.keys = op.applyKeys s.keys := by
  cases op with
  | insertLocal route global linklocal weight | insertLocalPublish route global linklocal weight =>
    cases applied
    exact keys_insertLocal route global linklocal weight s
  | insertLocalBatch routes global linklocal weight =>
    cases applied
    exact keys_insertLocalBatch routes global linklocal weight s
  | insertLocalBatchPublish routes global linklocal weight =>
    cases applied
    rw [insertLocalBatchPublish_rib]
    exact keys_insertLocalBatch routes global linklocal weight s
  | insertPeer src route global linklocal attribs weight =>
    cases applied
    rw [keys, insertPeer_rib]
    exact keys_insertPriv prefer src route global linklocal attribs weight s
  | insertPeerBatch src routes global linklocal attribs weight =>
    obtain ⟨⟨_, u⟩, inserted, rfl⟩ := Option.map_eq_some'.1 applied
    obtain ⟨⟨_, v⟩, looped, done⟩ := Option.bind_eq_some.1 inserted
    cases done
    exact (keys_insertPeerBatchLoop prefer src global linklocal attribs weight routes looped :)
  | withdraw src route =>
    cases applied
    exact keys_withdraw distinct src route
  | withdrawBatch src routes =>
    cases applied
    exact keys_withdrawBatch distinct src routes
  | discard src =>
    cases applied
    exact keys_discard src s

/-- From a RIB that keeps the invariant, every new one among them, a run
leaves the keys the abstract machine computes, whatever the ranking
`prefer`: which sources hold which routes depends on the operations alone. -/
theorem keys_run_eq_runKeys (ops : List RibOp) {s t : BgpRib6} (inv : Invariant s)
    (ran : BgpRib6.run prefer ops s = some t) : t.keys = RibOp.runKeys ops s.keys := by
  induction ops generalizing s with
  | nil =>
    cases ran
    rfl
  | cons op rest ih =>
    obtain ⟨u, applied, ran⟩ := Option.bind_eq_some.1 ran
    rw [RibOp.runKeys, List.foldl_cons, ← keys_apply prefer inv.keysDistinct applied]
    exact ih (inv.apply prefer applied) ran

theorem keys_after_reinsert_run :
    Invariant BgpRib6.new ∧ ∃ s, BgpRib6.run (fun _ _ => true) reinsertRun BgpRib6.new = some s ∧
      s.keys = RibOp.runKeys reinsertRun BgpRib6.new.keys :=
  ⟨Invariant.new, _, rfl, keys_run_eq_runKeys (fun _ _ => true) reinsertRun Invariant.new rfl⟩

end Runs

end BgpRib6

end Libbgp
