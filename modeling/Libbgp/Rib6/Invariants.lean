import Libbgp.Rib6.Basic

namespace Libbgp

/-!
# What every run of the IPv6 RIB keeps

From a new RIB, along any list of operations without undefined behaviour:

* no two entries have the same source and route (`KeysDistinct`);
* every entry's `update_id` is below the counter, and entries that share an
  `update_id` have the same source and the same two nexthops
  (`BgpRib6.Invariant`);
* when no peer insert is given the local source `0`, entries that share an
  `update_id` also have the same attributes, and every local entry has the
  attributes the local inserts create (`BgpRib6.AttribsInvariant`).

Each operation is first described by what it can leave in the RIB: entries
it had, and new entries of one group, carrying one `update_id`.  The
invariants follow from that description, operation by operation, and over a
run by induction on the list of operations.
-/

namespace BgpRib6

/-! ## Entry lists -/

/-- No two entries have the same source and route. -/
def KeysDistinct (rib : List BgpRib6Entry) : Prop := (rib.map BgpRib6Entry.key).Nodup

/-- Entries that share an `update_id` agree on `proj`. -/
def GroupsAgree {β : Type} (proj : BgpRib6Entry -> β) (rib : List BgpRib6Entry) : Prop :=
  ∀ e ∈ rib, ∀ f ∈ rib, e.updateId = f.updateId -> proj e = proj f

/-- What a group of entries shares: the source and the two nexthops. -/
def group (entry : BgpRib6Entry) : UInt32 × Addr6 × Addr6 :=
  (entry.srcRouterId, entry.nexthopGlobal, entry.nexthopLinklocal)

theorem KeysDistinct.sublist {rib rib' : List BgpRib6Entry} (within : List.Sublist rib' rib)
    (distinct : KeysDistinct rib) : KeysDistinct rib' :=
  List.Nodup.sublist (within.map _) distinct

theorem KeysDistinct.append {rib : List BgpRib6Entry} {entry : BgpRib6Entry}
    (distinct : KeysDistinct rib) (fresh : ∀ e ∈ rib, e.key ≠ entry.key) :
    KeysDistinct (rib ++ [entry]) := by
  simp only [KeysDistinct, List.map_append, List.map_cons, List.map_nil] at distinct ⊢
  exact distinct.append (List.nodup_singleton _) (by simpa [List.Disjoint] using fresh)

theorem key_ne_of_mem_eraseP {rib : List BgpRib6Entry} (distinct : KeysDistinct rib)
    (src : UInt32) (route : Prefix6) :
    ∀ e ∈ rib.eraseP (·.keyedBy src route), e.key ≠ (src, route) := by
  induction rib with
  | nil => simp
  | cons head rest ih =>
    simp only [KeysDistinct, List.map_cons, List.nodup_cons, List.mem_map] at distinct
    by_cases keyed : head.keyedBy src route
    · rw [List.eraseP_cons_of_pos keyed]
      intro e member same
      exact distinct.1 ⟨e, member, same.trans (BgpRib6Entry.keyedBy_iff.1 keyed).symm⟩
    · rw [List.eraseP_cons_of_neg keyed]
      intro e member
      rcases List.mem_cons.1 member with rfl | member
      · exact fun same => keyed (BgpRib6Entry.keyedBy_iff.2 same)
      · exact ih distinct.2 e member

theorem GroupsAgree.of_covered {β : Type} {proj : BgpRib6Entry -> β}
    {rib rib' : List BgpRib6Entry} {id : Nat} {value : β} (agree : GroupsAgree proj rib)
    (joins : ∀ f ∈ rib, f.updateId = id -> proj f = value)
    (covered : ∀ e ∈ rib', e ∈ rib ∨ (e.updateId = id ∧ proj e = value)) :
    GroupsAgree proj rib' := by
  intro e inE f inF same
  rcases covered e inE with old | ⟨idE, valueE⟩ <;> rcases covered f inF with old' | ⟨idF, valueF⟩
  · exact agree e old f old' same
  · rw [joins e old (same.trans idF), valueF]
  · rw [valueE, joins f old' (same.symm.trans idE)]
  · rw [valueE, valueF]

/-! ## Steps and the invariants -/

/-- What an operation does to a RIB, as the invariants see it: the counter
does not go back, and the entries it leaves are entries the RIB had, with
their keys still apart, or new entries of one group: one `update_id` `id`
below the new counter, one source and nexthop pair `grp`, and one attribute
list `attribs`. -/
structure Extends (s t : BgpRib6) (id : Nat) (grp : UInt32 × Addr6 × Addr6)
    (attribs : List BgpPathAttrib) : Prop where
  keys : KeysDistinct s.rib -> KeysDistinct t.rib
  counter : s.updateId <= t.updateId
  covered : ∀ e ∈ t.rib,
    e ∈ s.rib ∨ (e.updateId = id ∧ group e = grp ∧ e.attribs = attribs ∧ id < t.updateId)

theorem Extends.of_sublist {s t : BgpRib6} (within : List.Sublist t.rib s.rib)
    (counter : t.updateId = s.updateId) (id : Nat) (grp : UInt32 × Addr6 × Addr6)
    (attribs : List BgpPathAttrib) : Extends s t id grp attribs where
  keys distinct := distinct.sublist within
  counter := counter.ge
  covered _ member := .inl (within.subset member)

/-- The invariant of every reachable RIB. -/
structure Invariant (s : BgpRib6) : Prop where
  keysDistinct : KeysDistinct s.rib
  below : ∀ e ∈ s.rib, e.updateId < s.updateId
  groups : GroupsAgree group s.rib

/-- The invariant of every RIB reached without a peer insert under the
local source `0`. -/
structure AttribsInvariant (s : BgpRib6) : Prop where
  localEntries : ∀ e ∈ s.rib, e.srcRouterId = 0 -> e.attribs = localAttribs
  groups : GroupsAgree (·.attribs) s.rib

theorem Invariant.extend {s t : BgpRib6} {id : Nat} {grp : UInt32 × Addr6 × Addr6}
    {attribs : List BgpPathAttrib} (inv : Invariant s) (step : Extends s t id grp attribs)
    (joins : ∀ f ∈ s.rib, f.updateId = id -> group f = grp) : Invariant t where
  keysDistinct := step.keys inv.keysDistinct
  below e member := (step.covered e member).elim
    (fun old => Nat.lt_of_lt_of_le (inv.below e old) step.counter)
    (fun ⟨same, _, _, fresh⟩ => same ▸ fresh)
  groups := inv.groups.of_covered joins fun e member =>
    (step.covered e member).imp_right fun ⟨same, grouped, _⟩ => ⟨same, grouped⟩

theorem AttribsInvariant.extend {s t : BgpRib6} {id : Nat} {grp : UInt32 × Addr6 × Addr6}
    {attribs : List BgpPathAttrib} (inv : Invariant s) (attribsInv : AttribsInvariant s)
    (step : Extends s t id grp attribs) (joins : ∀ f ∈ s.rib, f.updateId = id -> group f = grp)
    (freshOrLocal : id = s.updateId ∨ (grp.1 = 0 ∧ attribs = localAttribs))
    (localGroup : grp.1 = 0 -> attribs = localAttribs) : AttribsInvariant t where
  localEntries e member isLocal := by
    rcases step.covered e member with old | ⟨_, grouped, same, _⟩
    · exact attribsInv.localEntries e old isLocal
    · rw [same, localGroup (grouped ▸ isLocal)]
  groups := by
    refine attribsInv.groups.of_covered (fun f member sameId => ?_) fun e member =>
      (step.covered e member).imp_right fun ⟨sameId, _, same, _⟩ => ⟨sameId, same⟩
    rcases freshOrLocal with fresh | ⟨isLocal, rfl⟩
    · exact absurd (sameId ▸ inv.below f member) (by omega)
    · exact attribsInv.localEntries f member ((congrArg Prod.fst (joins f member sameId)).trans isLocal)

/-! ## What each operation can leave -/

section Operations

variable (prefer : BgpRib6Entry -> BgpRib6Entry -> Bool)

/-- `insertPriv` returns `false` and leaves the RIB as it was, or returns
`true`, having erased the entry of the key and appended the new one. -/
theorem insertPriv_cases (src : UInt32) (route : Prefix6) (nexthopGlobal : Addr6)
    (nexthopLinklocal : Option Addr6) (attribs : List BgpPathAttrib) (weight : Int) (s : BgpRib6) :
    insertPriv prefer src route nexthopGlobal nexthopLinklocal attribs weight s = (false, s) ∨
      insertPriv prefer src route nexthopGlobal nexthopLinklocal attribs weight s =
        (true, ⟨s.rib.eraseP (·.keyedBy src route) ++
          [BgpRib6Entry.new route src nexthopGlobal nexthopLinklocal attribs weight s.updateId],
          s.updateId⟩) := by
  unfold insertPriv
  split
  · dsimp only
    split
    · exact .inr rfl
    · exact .inl rfl
  · rename_i missing
    rw [List.eraseP_of_forall_not (by simpa using List.find?_eq_none.1 missing)]
    exact .inr rfl

section InsertPriv

variable {src : UInt32} {route : Prefix6} {nexthopGlobal : Addr6} {nexthopLinklocal : Option Addr6}
  {attribs : List BgpPathAttrib} {weight : Int} {s : BgpRib6}

theorem insertPriv_keys (distinct : KeysDistinct s.rib) :
    KeysDistinct (insertPriv prefer src route nexthopGlobal nexthopLinklocal attribs weight s).2.rib := by
  rcases insertPriv_cases prefer src route nexthopGlobal nexthopLinklocal attribs weight s
    with same | replaced
  · rwa [same]
  · rw [replaced]
    exact (distinct.sublist (List.eraseP_sublist _)).append (key_ne_of_mem_eraseP distinct src route)

theorem mem_insertPriv {e : BgpRib6Entry}
    (member : e ∈ (insertPriv prefer src route nexthopGlobal nexthopLinklocal attribs weight s).2.rib) :
    e ∈ s.rib ∨ ((insertPriv prefer src route nexthopGlobal nexthopLinklocal attribs weight s).1 ∧
      e = BgpRib6Entry.new route src nexthopGlobal nexthopLinklocal attribs weight s.updateId) := by
  rcases insertPriv_cases prefer src route nexthopGlobal nexthopLinklocal attribs weight s
    with same | replaced
  · rw [same] at member ⊢; exact .inl member
  · rw [replaced] at member ⊢
    rcases List.mem_append.1 member with old | added
    · exact .inl (List.mem_of_mem_eraseP old)
    · exact .inr ⟨rfl, List.mem_singleton.1 added⟩

@[simp] theorem insertPriv_updateId :
    (insertPriv prefer src route nexthopGlobal nexthopLinklocal attribs weight s).2.updateId =
      s.updateId := by
  rcases insertPriv_cases prefer src route nexthopGlobal nexthopLinklocal attribs weight s
    with same | replaced <;> simp [*]

theorem insertPeer_extends :
    Extends s (insertPeer prefer src route nexthopGlobal nexthopLinklocal attribs weight s).2
      s.updateId (src, nexthopGlobal, nexthopLinklocal.getD Addr6.zero) attribs := by
  unfold insertPeer
  dsimp only
  refine ⟨fun distinct => ?_, ?_, fun e member => ?_⟩
  · split <;> exact insertPriv_keys prefer distinct
  · split <;> simp
  · have member : e ∈ (insertPriv prefer src route nexthopGlobal nexthopLinklocal attribs weight
        s).2.rib := by split at member <;> exact member
    rcases mem_insertPriv prefer member with old | ⟨inserted, rfl⟩
    · exact .inl old
    · exact .inr ⟨rfl, rfl, rfl, by simp [inserted]⟩

end InsertPriv

theorem insertPeerBatchLoop_covers (src : UInt32) (nexthopGlobal : Addr6)
    (nexthopLinklocal : Option Addr6) (attribs : List BgpPathAttrib) (weight : Int)
    (routes : List Prefix6) {inserted n : Nat} {u t : BgpRib6}
    (looped : insertPeerBatchLoop prefer src nexthopGlobal nexthopLinklocal attribs weight routes
      inserted u = some (n, t)) :
    t.updateId = u.updateId ∧ (KeysDistinct u.rib -> KeysDistinct t.rib) ∧
      ∀ e ∈ t.rib, e ∈ u.rib ∨ (e.updateId = u.updateId ∧
        group e = (src, nexthopLinklocal.getD Addr6.zero, nexthopGlobal) ∧ e.attribs = attribs) := by
  induction routes generalizing inserted u with
  | nil =>
    cases looped
    exact ⟨rfl, id, fun _ member => .inl member⟩
  | cons r rest ih =>
    cases nexthopLinklocal with
    | none => cases looped
    | some asGlobal =>
      obtain ⟨counter, keys, covered⟩ :=
        ih (u := (insertPriv prefer src r asGlobal (some nexthopGlobal) attribs weight u).2) looped
      refine ⟨counter.trans (by simp), fun distinct => keys (insertPriv_keys prefer distinct),
        fun e member => ?_⟩
      rcases covered e member with inserted | ⟨sameId, grouped, same⟩
      · rcases mem_insertPriv prefer inserted with old | ⟨_, rfl⟩
        · exact .inl old
        · exact .inr ⟨rfl, rfl, rfl⟩
      · exact .inr ⟨sameId.trans (by simp), grouped, same⟩

theorem insertPeerBatch_extends (src : UInt32) (routes : List Prefix6) (nexthopGlobal : Addr6)
    (nexthopLinklocal : Option Addr6) (attribs : List BgpPathAttrib) (weight : Int) {s t : BgpRib6}
    {n : Nat}
    (inserted : insertPeerBatch prefer src routes nexthopGlobal nexthopLinklocal attribs weight s =
      some (n, t)) :
    Extends s t s.updateId (src, nexthopLinklocal.getD Addr6.zero, nexthopGlobal) attribs := by
  unfold insertPeerBatch at inserted
  obtain ⟨⟨m, u⟩, looped, done⟩ := Option.bind_eq_some.1 inserted
  cases done
  obtain ⟨counter, keys, covered⟩ :=
    insertPeerBatchLoop_covers prefer src nexthopGlobal nexthopLinklocal attribs weight routes looped
  refine ⟨keys, by simp [counter], fun e member => ?_⟩
  exact (covered e member).imp_right fun ⟨sameId, grouped, same⟩ =>
    ⟨sameId, grouped, same, by simp [counter]⟩

end Operations

theorem localUpdateId_eq_none_iff (newEntry : BgpRib6Entry) (rib : List BgpRib6Entry)
    (start : Nat) :
    localUpdateId newEntry rib start = none ↔
      ∃ e ∈ rib, e.srcRouterId = 0 ∧ e.route = newEntry.route := by
  induction rib generalizing start with
  | nil => simp [localUpdateId]
  | cons e rest ih =>
    unfold localUpdateId
    split
    · exact ⟨fun _ => ⟨e, List.mem_cons_self _ _, ‹_›⟩, fun _ => rfl⟩
    · rw [ih]
      simp [*]

theorem localUpdateId_grouped {newEntry : BgpRib6Entry} (rib : List BgpRib6Entry)
    {start found : Nat} (scanned : localUpdateId newEntry rib start = some found) :
    (found = start ∧ ∀ e ∈ rib, ¬(e.srcRouterId = 0 ∧ e.nexthopGlobal = newEntry.nexthopGlobal ∧
        e.nexthopLinklocal = newEntry.nexthopLinklocal)) ∨
      ∃ e ∈ rib, (e.srcRouterId = 0 ∧ e.nexthopGlobal = newEntry.nexthopGlobal ∧
        e.nexthopLinklocal = newEntry.nexthopLinklocal) ∧ e.updateId = found := by
  induction rib generalizing start with
  | nil =>
    cases scanned
    exact .inl ⟨rfl, nofun⟩
  | cons e rest ih =>
    unfold localUpdateId at scanned
    split at scanned
    · cases scanned
    · rcases ih scanned with ⟨kept, none⟩ | ⟨f, member, grouped, sameId⟩
      · split at kept
        · exact .inr ⟨e, List.mem_cons_self _ _, ‹_›, kept.symm⟩
        · exact .inl ⟨kept, List.forall_mem_cons.2 ⟨‹_›, none⟩⟩
      · exact .inr ⟨f, List.mem_cons_of_mem _ member, grouped, sameId⟩

theorem insertLocal_extends (route : Prefix6) (nexthopGlobal : Addr6)
    (nexthopLinklocal : Option Addr6) (weight : Int) {s : BgpRib6} (inv : Invariant s) :
    ∃ id, Extends s (insertLocal route nexthopGlobal nexthopLinklocal weight s).2 id
        (0, nexthopGlobal, nexthopLinklocal.getD Addr6.zero) localAttribs ∧
      ∀ f ∈ s.rib, f.updateId = id -> group f = (0, nexthopGlobal, nexthopLinklocal.getD Addr6.zero) := by
  have fresh : ∀ f ∈ s.rib, f.updateId ≠ s.updateId := fun f member => (inv.below f member).ne
  unfold insertLocal
  dsimp only
  split
  · exact ⟨s.updateId, Extends.of_sublist (List.Sublist.refl _) rfl _ _ _,
      fun f member same => absurd same (fresh f member)⟩
  · rename_i found scanned
    have routeFree : ∀ f ∈ s.rib, ¬(f.srcRouterId = 0 ∧ f.route = route) := fun f member taken =>
      absurd ((localUpdateId_eq_none_iff _ _ _).2 ⟨f, member, taken⟩) (by rw [scanned]; nofun)
    have joined := localUpdateId_grouped _ scanned
    refine ⟨found, ⟨fun distinct => distinct.append fun f inRib same => routeFree f inRib
      (by simpa [BgpRib6Entry.key] using same), by split <;> simp, fun f inNew => ?_⟩, ?_⟩
    · rcases List.mem_append.1 inNew with old | added
      · exact .inl old
      · rw [List.mem_singleton.1 added]
        refine .inr ⟨rfl, rfl, rfl, ?_⟩
        rcases joined with ⟨rfl, -⟩ | ⟨e, member, _, rfl⟩
        · simp
        · simp [fresh e member, inv.below e member]
    · rcases joined with ⟨rfl, -⟩ | ⟨e, member, grouped, rfl⟩
      · exact fun f member same => absurd same (fresh f member)
      · exact fun f inRib same => (inv.groups f inRib e member same).trans
          (by simpa [group, BgpRib6Entry.new] using grouped)

theorem insertLocalBatchLoop_covers (nexthopGlobal : Addr6) (nexthopLinklocal : Option Addr6)
    (weight : Int) (updateId : Nat) (routes : List Prefix6) (rib inserted : List BgpRib6Entry)
    {rib' inserted' : List BgpRib6Entry}
    (looped : insertLocalBatchLoop nexthopGlobal nexthopLinklocal weight updateId routes rib inserted =
      (rib', inserted')) :
    (KeysDistinct rib -> KeysDistinct rib') ∧ ∀ e ∈ rib', e ∈ rib ∨ (e.updateId = updateId ∧
      group e = (0, nexthopGlobal, nexthopLinklocal.getD Addr6.zero) ∧ e.attribs = localAttribs) := by
  induction routes generalizing rib inserted with
  | nil =>
    cases looped
    exact ⟨id, fun _ member => .inl member⟩
  | cons route rest ih =>
    unfold insertLocalBatchLoop at looped
    split at looped
    · exact ih _ _ looped
    · rename_i taken
      obtain ⟨keys, covered⟩ := ih _ _ looped
      refine ⟨fun distinct => keys (distinct.append fun f member same => taken ?_), fun e member => ?_⟩
      · exact List.any_eq_true.2 ⟨f, member, by simpa [BgpRib6Entry.key] using same⟩
      · rcases covered e member with old | added
        · rcases List.mem_append.1 old with old | added
          · exact .inl old
          · exact .inr (by simp [List.mem_singleton.1 added, group, BgpRib6Entry.new])
        · exact .inr added

theorem insertLocalBatch_extends (routes : List Prefix6) (nexthopGlobal : Addr6)
    (nexthopLinklocal : Option Addr6) (weight : Int) (s : BgpRib6) :
    Extends s (insertLocalBatch routes nexthopGlobal nexthopLinklocal weight s).2 s.updateId
      (0, nexthopGlobal, nexthopLinklocal.getD Addr6.zero) localAttribs := by
  obtain ⟨keys, covered⟩ := insertLocalBatchLoop_covers nexthopGlobal nexthopLinklocal weight
    s.updateId routes s.rib [] rfl
  exact ⟨keys, by simp [insertLocalBatch], fun e member =>
    (covered e member).imp_right fun ⟨sameId, grouped, same⟩ =>
      ⟨sameId, grouped, same, by simp [insertLocalBatch]⟩⟩

theorem insertLocalBatchPublish_rib (routes : List Prefix6) (nexthopGlobal : Addr6)
    (nexthopLinklocal : Option Addr6) (weight : Int) (s : BgpRib6) :
    (insertLocalBatchPublish routes nexthopGlobal nexthopLinklocal weight s).2 =
      (insertLocalBatch routes nexthopGlobal nexthopLinklocal weight s).2 := by
  unfold insertLocalBatchPublish
  rcases insertLocalBatch routes nexthopGlobal nexthopLinklocal weight s with ⟨_ | _, _⟩ <;> rfl

theorem withdrawBatchLoop_sublist (src : UInt32) (routes : List Prefix6) (dropped : Nat)
    (s : BgpRib6) :
    List.Sublist (withdrawBatchLoop src routes dropped s).2.rib s.rib ∧
      (withdrawBatchLoop src routes dropped s).2.updateId = s.updateId := by
  induction routes generalizing dropped s with
  | nil => exact ⟨List.Sublist.refl _, rfl⟩
  | cons route rest ih =>
    obtain ⟨within, same⟩ := ih (if (withdraw src route s).1 then dropped + 1 else dropped)
      (withdraw src route s).2
    exact ⟨within.trans (List.eraseP_sublist _), same⟩

theorem discard_rib (src : UInt32) (s : BgpRib6) :
    (discard src s).2.rib = s.rib.filter (fun entry => !(entry.srcRouterId == src)) := by
  simp [discard, eraseEachFrom_eq]

/-! ## Every step, and every run -/

section Runs

variable (prefer : BgpRib6Entry -> BgpRib6Entry -> Bool)

/-- Every operation extends the RIB by one group, which is fresh or local,
and local only when the operation inserts local routes or a peer's routes
under the source `0`. -/
theorem apply_extends {op : RibOp} {s t : BgpRib6} (inv : Invariant s)
    (applied : op.apply prefer s = some t) :
    ∃ id grp attribs, Extends s t id grp attribs ∧ (∀ f ∈ s.rib, f.updateId = id -> group f = grp) ∧
      (id = s.updateId ∨ (grp.1 = 0 ∧ attribs = localAttribs)) ∧
      (op.PeerSourcesNonzero -> grp.1 = 0 -> attribs = localAttribs) := by
  have fresh : ∀ {grp : UInt32 × Addr6 × Addr6}, ∀ f ∈ s.rib, f.updateId = s.updateId -> group f = grp :=
    fun f member same => absurd same (inv.below f member).ne
  have erasing : ∀ {t : BgpRib6}, List.Sublist t.rib s.rib -> t.updateId = s.updateId ->
      ∃ id grp attribs, Extends s t id grp attribs ∧
        (∀ f ∈ s.rib, f.updateId = id -> group f = grp) ∧
        (id = s.updateId ∨ (grp.1 = 0 ∧ attribs = localAttribs)) ∧
        (op.PeerSourcesNonzero -> grp.1 = 0 -> attribs = localAttribs) :=
    fun within same => ⟨s.updateId, (0, Addr6.zero, Addr6.zero), localAttribs,
      Extends.of_sublist within same _ _ _, fresh, .inl rfl, fun _ _ => rfl⟩
  cases op with
  | insertLocal route global linklocal weight | insertLocalPublish route global linklocal weight =>
    cases applied
    obtain ⟨id, step, joins⟩ := insertLocal_extends route global linklocal weight inv
    exact ⟨id, _, _, step, joins, .inr ⟨rfl, rfl⟩, fun _ _ => rfl⟩
  | insertLocalBatch routes global linklocal weight =>
    cases applied
    exact ⟨_, _, _, insertLocalBatch_extends routes global linklocal weight s, fresh, .inl rfl,
      fun _ _ => rfl⟩
  | insertLocalBatchPublish routes global linklocal weight =>
    cases applied
    rw [insertLocalBatchPublish_rib]
    exact ⟨_, _, _, insertLocalBatch_extends routes global linklocal weight s, fresh, .inl rfl,
      fun _ _ => rfl⟩
  | insertPeer src route global linklocal attribs weight =>
    cases applied
    exact ⟨_, _, _, insertPeer_extends prefer, fresh, .inl rfl, fun nonzero isLocal =>
      absurd isLocal nonzero⟩
  | insertPeerBatch src routes global linklocal attribs weight =>
    obtain ⟨⟨_, _⟩, inserted, rfl⟩ := Option.map_eq_some'.1 applied
    exact ⟨_, _, _, insertPeerBatch_extends prefer src routes global linklocal attribs weight inserted,
      fresh, .inl rfl, fun nonzero isLocal => absurd isLocal nonzero⟩
  | withdraw src route =>
    cases applied
    exact erasing (List.eraseP_sublist _) rfl
  | withdrawBatch src routes =>
    cases applied
    exact erasing (withdrawBatchLoop_sublist src routes 0 s).1 (withdrawBatchLoop_sublist src routes 0 s).2
  | discard src =>
    cases applied
    exact erasing (by rw [discard_rib]; exact List.filter_sublist _) rfl

theorem Invariant.apply {op : RibOp} {s t : BgpRib6} (inv : Invariant s)
    (applied : op.apply prefer s = some t) : Invariant t := by
  obtain ⟨_, _, _, step, joins, -⟩ := apply_extends prefer inv applied
  exact inv.extend step joins

theorem AttribsInvariant.apply {op : RibOp} {s t : BgpRib6} (inv : Invariant s)
    (attribsInv : AttribsInvariant s) (nonzero : op.PeerSourcesNonzero)
    (applied : op.apply prefer s = some t) : AttribsInvariant t := by
  obtain ⟨_, _, _, step, joins, freshOrLocal, localGroup⟩ := apply_extends prefer inv applied
  exact attribsInv.extend inv step joins freshOrLocal (localGroup nonzero)

theorem Invariant.new : Invariant BgpRib6.new := ⟨List.nodup_nil, nofun, nofun⟩

theorem AttribsInvariant.new : AttribsInvariant BgpRib6.new := ⟨nofun, nofun⟩

/-- Every run keeps the invariant. -/
theorem Invariant.run {ops : List RibOp} {s t : BgpRib6} (inv : Invariant s)
    (ran : BgpRib6.run prefer ops s = some t) : Invariant t := by
  induction ops generalizing s with
  | nil => cases ran; exact inv
  | cons op rest ih =>
    obtain ⟨u, applied, ran⟩ := Option.bind_eq_some.1 ran
    exact ih (inv.apply prefer applied) ran

/-- Every run without a peer insert under the source `0` keeps the
attribute invariant. -/
theorem AttribsInvariant.run {ops : List RibOp} {s t : BgpRib6} (inv : Invariant s)
    (attribsInv : AttribsInvariant s) (nonzero : ∀ op ∈ ops, op.PeerSourcesNonzero)
    (ran : BgpRib6.run prefer ops s = some t) : AttribsInvariant t := by
  induction ops generalizing s with
  | nil => cases ran; exact attribsInv
  | cons op rest ih =>
    obtain ⟨u, applied, ran⟩ := Option.bind_eq_some.1 ran
    exact ih (inv.apply prefer applied)
      (attribsInv.apply prefer inv (nonzero op (List.mem_cons_self _ _)) applied)
      (fun op member => nonzero op (List.mem_cons_of_mem _ member)) ran

/-- From a new RIB, along any run, no two entries have the same source and
route. -/
theorem run_keeps_one_entry_per_route (ops : List RibOp) {s : BgpRib6}
    (ran : BgpRib6.run prefer ops BgpRib6.new = some s) : KeysDistinct s.rib :=
  (Invariant.new.run prefer ran).keysDistinct

/-- A local insert of `::/0`, the same route twice from a peer, and the
withdrawal of the local one. -/
def reinsertRun : List RibOp :=
  [.insertLocal ⟨Addr6.zero, 0⟩ Addr6.zero none 0, .insertPeer 1 ⟨Addr6.zero, 0⟩ Addr6.zero none [] 0,
    .insertPeer 1 ⟨Addr6.zero, 0⟩ Addr6.zero none [] 0, .withdraw 0 ⟨Addr6.zero, 0⟩]

theorem one_entry_per_route_after_reinsert :
    ∃ s, BgpRib6.run (fun _ _ => true) reinsertRun BgpRib6.new = some s ∧ KeysDistinct s.rib :=
  ⟨_, rfl, run_keeps_one_entry_per_route (fun _ _ => true) reinsertRun rfl⟩

/-- From a new RIB, along any run, every `update_id` is below the counter,
entries that share one have the same source and nexthops, and, when no peer
insert was given the source `0`, the same attributes. -/
theorem run_groups_agree (ops : List RibOp) {s : BgpRib6}
    (ran : BgpRib6.run prefer ops BgpRib6.new = some s) :
    (∀ e ∈ s.rib, e.updateId < s.updateId) ∧
      (∀ e ∈ s.rib, ∀ f ∈ s.rib, e.updateId = f.updateId ->
        e.srcRouterId = f.srcRouterId ∧ e.nexthopGlobal = f.nexthopGlobal ∧
          e.nexthopLinklocal = f.nexthopLinklocal) ∧
      ((∀ op ∈ ops, op.PeerSourcesNonzero) ->
        ∀ e ∈ s.rib, ∀ f ∈ s.rib, e.updateId = f.updateId -> e.attribs = f.attribs) := by
  have inv := Invariant.new.run prefer ran
  refine ⟨inv.below, fun e inE f inF same => ?_, fun nonzero =>
    (AttribsInvariant.new.run prefer Invariant.new nonzero ran).groups⟩
  simpa [group] using inv.groups e inE f inF same

/-- Two local routes with one nexthop, which share a group, and a peer's
batch of two routes. -/
def groupedRun : List RibOp :=
  [.insertLocal ⟨Addr6.zero, 0⟩ Addr6.zero none 0, .insertLocal ⟨Addr6.zero, 8⟩ Addr6.zero none 0,
    .insertPeerBatch 1 [⟨Addr6.zero, 0⟩, ⟨Addr6.zero, 16⟩] Addr6.zero (some Addr6.zero) [] 0]

theorem groups_agree_after_local_and_batch :
    ∃ s, BgpRib6.run (fun _ _ => true) groupedRun BgpRib6.new = some s ∧
      (∀ op ∈ groupedRun, op.PeerSourcesNonzero) ∧
      (∀ e ∈ s.rib, e.updateId < s.updateId) ∧
      (∀ e ∈ s.rib, ∀ f ∈ s.rib, e.updateId = f.updateId ->
        e.srcRouterId = f.srcRouterId ∧ e.nexthopGlobal = f.nexthopGlobal ∧
          e.nexthopLinklocal = f.nexthopLinklocal) ∧
      ((∀ op ∈ groupedRun, op.PeerSourcesNonzero) ->
        ∀ e ∈ s.rib, ∀ f ∈ s.rib, e.updateId = f.updateId -> e.attribs = f.attribs) :=
  ⟨_, rfl, by decide, run_groups_agree (fun _ _ => true) groupedRun rfl⟩

end Runs

end BgpRib6

end Libbgp
