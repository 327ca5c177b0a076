import Libbgp.Rib6.Invariants

namespace Libbgp

/-!
# A peer's batch insert against single inserts

`insert(src_router_id, routes, nexthop_global, nexthop_linklocal, attrib,
weight)` is meant to do what the single insert does for each route in turn,
but for the `update_id` all its entries share.  It calls `insertPriv` with
the two nexthops in the other order.  So, whatever ranking
`BgpRib6Entry::operator>` is, as long as it does not look at `update_id`, the
batch does exactly what the single inserts do with the nexthops swapped: the
same entries in the same order but for their `update_id`, and the same count.
For one route into a new RIB, its entry has the link-local nexthop where the
single insert puts the global one.
-/

/-- An entry without its `update_id`. -/
def BgpRib6Entry.forgetId (entry : BgpRib6Entry) : BgpRib6Entry := { entry with updateId := 0 }

namespace BgpRib6

/-- A ranking of entries that does not look at `update_id`. -/
def IgnoresIds (prefer : BgpRib6Entry -> BgpRib6Entry -> Bool) : Prop :=
  ∀ a b, prefer a b = prefer a.forgetId b.forgetId

section Singles

variable (prefer : BgpRib6Entry -> BgpRib6Entry -> Bool)

/-- The single insert of a peer for each route in turn, counting those that
return `true`. -/
def insertPeerEach (src : UInt32) (nexthopGlobal : Addr6) (nexthopLinklocal : Option Addr6)
    (attribs : List BgpPathAttrib) (weight : Int) : List Prefix6 -> Nat -> BgpRib6 -> Nat × BgpRib6
  | [], inserted, s => (inserted, s)
  | r :: rest, inserted, s =>
      let (ok, s) := insertPeer prefer src r nexthopGlobal nexthopLinklocal attribs weight s
      insertPeerEach src nexthopGlobal nexthopLinklocal attribs weight rest
        (if ok then inserted + 1 else inserted) s

variable {prefer}

/-- Entries equal but for their `update_id`. -/
def SameButIds (s t : BgpRib6) : Prop := s.rib.map BgpRib6Entry.forgetId = t.rib.map BgpRib6Entry.forgetId

theorem find?_keyedBy_forgetId (src : UInt32) (route : Prefix6) (rib : List BgpRib6Entry) :
    (rib.find? (·.keyedBy src route)).map BgpRib6Entry.forgetId =
      (rib.map BgpRib6Entry.forgetId).find? (·.keyedBy src route) :=
  (List.find?_map (p := fun e : BgpRib6Entry => e.keyedBy src route) _ _).symm

theorem eraseP_keyedBy_forgetId (src : UInt32) (route : Prefix6) (rib : List BgpRib6Entry) :
    (rib.eraseP (·.keyedBy src route)).map BgpRib6Entry.forgetId =
      (rib.map BgpRib6Entry.forgetId).eraseP (·.keyedBy src route) :=
  (List.eraseP_map (p := fun e : BgpRib6Entry => e.keyedBy src route) _ _).symm

theorem insertPriv_sameButIds (ignores : IgnoresIds prefer) (src : UInt32) (route : Prefix6)
    (nexthopGlobal : Addr6) (nexthopLinklocal : Option Addr6) (attribs : List BgpPathAttrib)
    (weight : Int) {s t : BgpRib6} (same : SameButIds s t) :
    (insertPriv prefer src route nexthopGlobal nexthopLinklocal attribs weight s).1 =
        (insertPriv prefer src route nexthopGlobal nexthopLinklocal attribs weight t).1 ∧
      SameButIds (insertPriv prefer src route nexthopGlobal nexthopLinklocal attribs weight s).2
        (insertPriv prefer src route nexthopGlobal nexthopLinklocal attribs weight t).2 := by
  have found := find?_keyedBy_forgetId src route s.rib
  rw [same, ← find?_keyedBy_forgetId] at found
  have erased := eraseP_keyedBy_forgetId src route s.rib
  rw [same, ← eraseP_keyedBy_forgetId] at erased
  unfold insertPriv SameButIds at *
  dsimp only
  rcases inS : s.rib.find? (·.keyedBy src route) with _ | old <;>
    rcases inT : t.rib.find? (·.keyedBy src route) with _ | old' <;>
    rw [inS, inT] at found ⊢ <;> dsimp only <;>
    simp only [Option.map_none', Option.map_some', Option.some.injEq, reduceCtorEq] at found
  · refine ⟨rfl, ?_⟩
    simp only [List.map_append, same]
    rfl
  · have ranked : prefer (BgpRib6Entry.new route src nexthopGlobal nexthopLinklocal attribs weight
        s.updateId) old = prefer (BgpRib6Entry.new route src nexthopGlobal nexthopLinklocal attribs
        weight t.updateId) old' := by
      rw [ignores, ignores _ old', found]; rfl
    rw [ranked]
    split
    · refine ⟨rfl, ?_⟩
      simp only [List.map_append, erased]
      rfl
    · exact ⟨rfl, same⟩

theorem insertPeer_rib (src : UInt32) (route : Prefix6) (nexthopGlobal : Addr6)
    (nexthopLinklocal : Option Addr6) (attribs : List BgpPathAttrib) (weight : Int) (s : BgpRib6) :
    (insertPeer prefer src route nexthopGlobal nexthopLinklocal attribs weight s).2.rib =
      (insertPriv prefer src route nexthopGlobal nexthopLinklocal attribs weight s).2.rib := by
  unfold insertPeer
  rcases insertPriv prefer src route nexthopGlobal nexthopLinklocal attribs weight s with ⟨_ | _, _⟩ <;>
    rfl

theorem insertPeerBatchLoop_sameButIds (ignores : IgnoresIds prefer) (src : UInt32)
    (nexthopGlobal asGlobal : Addr6) (attribs : List BgpPathAttrib) (weight : Int)
    (routes : List Prefix6) (inserted : Nat) {s t : BgpRib6} (same : SameButIds s t) :
    ∃ u, insertPeerBatchLoop prefer src nexthopGlobal (some asGlobal) attribs weight routes inserted s =
        some u ∧
      u.1 = (insertPeerEach prefer src asGlobal (some nexthopGlobal) attribs weight routes inserted t).1 ∧
      SameButIds u.2
        (insertPeerEach prefer src asGlobal (some nexthopGlobal) attribs weight routes inserted t).2 := by
  induction routes generalizing inserted s t with
  | nil => exact ⟨(inserted, s), rfl, rfl, same⟩
  | cons r rest ih =>
    obtain ⟨agree, stillSame⟩ :=
      insertPriv_sameButIds ignores src r asGlobal (some nexthopGlobal) attribs weight same
    have sameAfter : SameButIds
        (insertPriv prefer src r asGlobal (some nexthopGlobal) attribs weight s).2
        (insertPeer prefer src r asGlobal (some nexthopGlobal) attribs weight t).2 := by
      unfold SameButIds; rw [insertPeer_rib]; exact stillSame
    obtain ⟨u, looped, count, related⟩ := ih
      (if (insertPriv prefer src r asGlobal (some nexthopGlobal) attribs weight s).1
        then inserted + 1 else inserted) sameAfter
    have agree : (insertPriv prefer src r asGlobal (some nexthopGlobal) attribs weight s).1 =
        (insertPeer prefer src r asGlobal (some nexthopGlobal) attribs weight t).1 := agree
    rw [agree] at count related
    exact ⟨u, looped, count, related⟩

/-- A peer's batch insert given a link-local nexthop does what the single
inserts do for each route in turn with the two nexthops swapped: the same
count, and the same entries in the same order but for `update_id`; the
counter then moves on by one. -/
theorem insertPeerBatch_eq_swapped_singles (ignores : IgnoresIds prefer) (src : UInt32)
    (routes : List Prefix6) (nexthopGlobal nexthopLinklocal : Addr6) (attribs : List BgpPathAttrib)
    (weight : Int) (s : BgpRib6) :
    ∃ n t, insertPeerBatch prefer src routes nexthopGlobal (some nexthopLinklocal) attribs weight s =
        some (n, t) ∧
      n = (insertPeerEach prefer src nexthopLinklocal (some nexthopGlobal) attribs weight routes 0 s).1 ∧
      SameButIds t
        (insertPeerEach prefer src nexthopLinklocal (some nexthopGlobal) attribs weight routes 0 s).2 ∧
      t.updateId = s.updateId + 1 := by
  obtain ⟨⟨n, u⟩, looped, count, related⟩ := insertPeerBatchLoop_sameButIds ignores src nexthopGlobal
    nexthopLinklocal attribs weight routes 0 (s := s) rfl
  obtain ⟨counter, -⟩ := insertPeerBatchLoop_covers prefer src nexthopGlobal (some nexthopLinklocal)
    attribs weight routes looped
  exact ⟨n, { u with updateId := u.updateId + 1 }, by simp [insertPeerBatch, looped], count, related,
    by simp [counter]⟩

/-- Without a link-local nexthop, a peer's batch insert of any route copies
the global nexthop from `NULL`. -/
theorem insertPeerBatch_null_linklocal (src : UInt32) {routes : List Prefix6} (nonempty : routes ≠ [])
    (nexthopGlobal : Addr6) (attribs : List BgpPathAttrib) (weight : Int) (s : BgpRib6) :
    insertPeerBatch prefer src routes nexthopGlobal none attribs weight s = none := by
  obtain ⟨r, rest, rfl⟩ := List.exists_cons_of_ne_nil nonempty
  rfl

end Singles

/-- A ranking by weight, and a batch of two routes into a new RIB. -/
theorem batch_by_weight_is_swapped_singles :
    let prefer : BgpRib6Entry -> BgpRib6Entry -> Bool := fun a b => decide (a.weight > b.weight)
    let routes : List Prefix6 := [⟨Addr6.zero, 0⟩, ⟨Addr6.zero, 8⟩]
    IgnoresIds prefer ∧
      ∃ n t, insertPeerBatch prefer 1 routes Addr6.zero (some Addr6.zero) [] 0 BgpRib6.new = some (n, t) ∧
        n = (insertPeerEach prefer 1 Addr6.zero (some Addr6.zero) [] 0 routes 0 BgpRib6.new).1 ∧
        SameButIds t (insertPeerEach prefer 1 Addr6.zero (some Addr6.zero) [] 0 routes 0 BgpRib6.new).2 ∧
        t.updateId = BgpRib6.new.updateId + 1 :=
  ⟨fun _ _ => rfl,
    insertPeerBatch_eq_swapped_singles (by exact fun _ _ => rfl) 1 _ Addr6.zero Addr6.zero [] 0 _⟩

/-- One route of the source `1` into a new RIB: a peer's batch insert
stores the link-local nexthop as the global one and the global one as the
link-local one, where the single insert stores each as given.  Without a
link-local nexthop the batch copies from `NULL`, where the single insert
stores the global nexthop and no link-local one. -/
theorem insertPeerBatch_swaps_nexthops (prefer : BgpRib6Entry -> BgpRib6Entry -> Bool)
    (route : Prefix6) (nexthopGlobal nexthopLinklocal : Addr6) (attribs : List BgpPathAttrib)
    (weight : Int) :
    (insertPeerBatch prefer 1 [route] nexthopGlobal (some nexthopLinklocal) attribs weight
        BgpRib6.new).map (·.2.rib) =
      some [BgpRib6Entry.new route 1 nexthopLinklocal (some nexthopGlobal) attribs weight 0] ∧
    (insertPeer prefer 1 route nexthopGlobal (some nexthopLinklocal) attribs weight BgpRib6.new).2.rib =
      [BgpRib6Entry.new route 1 nexthopGlobal (some nexthopLinklocal) attribs weight 0] ∧
    insertPeerBatch prefer 1 [route] nexthopGlobal none attribs weight BgpRib6.new = none ∧
    (insertPeer prefer 1 route nexthopGlobal none attribs weight BgpRib6.new).2.rib =
      [BgpRib6Entry.new route 1 nexthopGlobal none attribs weight 0] :=
  ⟨rfl, rfl, insertPeerBatch_null_linklocal 1 (List.cons_ne_nil _ _) _ _ _ _, rfl⟩

end BgpRib6

end Libbgp
