import Mathlib.Data.Finset.Card
import Libbgp.Rib6.Invariants

namespace Libbgp

namespace BgpRib6

/-!
# What each operation of the IPv6 RIB does

Each operation is given here by an equation for its result: the value it
returns and the RIB it leaves, with the entries it keeps written as a
`filter` of the list, which says at once which entries go and that the others
keep their order.

A peer's insert and the withdrawals stop at the first entry of a source and
route.  On a reachable RIB that entry is the only one (`KeysDistinct`), so
erasing it leaves none, and "the" entry of a peer insert is well defined.
The single local insert reads two things off its scan: that no local entry
has the route, and the `update_id` of the last local entry with the same
nexthops, which is below the counter on a reachable RIB.  The local batch
insert sees, in its scan, the entries appended earlier in the same loop, so
it appends an entry for each route without a local entry, at its first
occurrence in the batch (`List.eraseDups`).  `discard` is a `filter`.
-/

/-! ## Lists with one entry per key -/

theorem KeysDistinct.eq_of_key_eq {rib : List BgpRib6Entry} (distinct : KeysDistinct rib)
    {e f : BgpRib6Entry} (inE : e ∈ rib) (inF : f ∈ rib) (same : e.key = f.key) : e = f :=
  List.inj_on_of_nodup_map distinct inE inF same

theorem KeysDistinct.eraseP_keyedBy {rib : List BgpRib6Entry} (distinct : KeysDistinct rib)
    (src : UInt32) (route : Prefix6) :
    rib.eraseP (·.keyedBy src route) = rib.filter (fun e => e.key ≠ (src, route)) := by
  induction rib with
  | nil => rfl
  | cons head rest ih =>
    simp only [KeysDistinct, List.map_cons, List.nodup_cons, List.mem_map] at distinct
    by_cases keyed : head.keyedBy src route
    · have keyOf := BgpRib6Entry.keyedBy_iff.1 keyed
      have others : ∀ e ∈ rest, e.key ≠ (src, route) := fun e member same =>
        distinct.1 ⟨e, member, same.trans keyOf.symm⟩
      rw [List.eraseP_cons_of_pos keyed, List.filter_cons_of_neg (by simpa using keyOf),
        List.filter_eq_self.2 (by simpa using others)]
    · rw [List.eraseP_cons_of_neg keyed,
        List.filter_cons_of_pos (by simpa [BgpRib6Entry.keyedBy_iff] using keyed), ih distinct.2]

theorem KeysDistinct.find?_keyedBy {rib : List BgpRib6Entry} (distinct : KeysDistinct rib)
    {src : UInt32} {route : Prefix6} {e : BgpRib6Entry} (member : e ∈ rib)
    (keyed : e.key = (src, route)) :
    rib.find? (·.keyedBy src route) = some e ∧ rib.eraseP (·.keyedBy src route) = rib.erase e := by
  have keyedIff : ∀ f ∈ rib, f.key = (src, route) ↔ f = e := fun f inF =>
    ⟨fun same => distinct.eq_of_key_eq inF member (same.trans keyed.symm), fun same => same ▸ keyed⟩
  obtain ⟨found, stops⟩ := Option.isSome_iff_exists.1
    (List.find?_isSome.2 ⟨e, member, BgpRib6Entry.keyedBy_iff.2 keyed⟩)
  have foundKeyed := BgpRib6Entry.keyedBy_iff.1 (List.find?_some stops)
  refine ⟨stops.trans (congrArg some ((keyedIff _ (List.mem_of_find?_eq_some stops)).1 foundKeyed)),
    ?_⟩
  rw [distinct.eraseP_keyedBy, (List.Nodup.of_map _ distinct).erase_eq_filter]
  exact List.filter_congr fun f inF => by by_cases same : f = e <;> simp [keyedIff f inF, same, keyed]

theorem find?_keyedBy_eq_none {rib : List BgpRib6Entry} {src : UInt32} {route : Prefix6}
    (missing : ∀ e ∈ rib, e.key ≠ (src, route)) : rib.find? (·.keyedBy src route) = none :=
  List.find?_eq_none.2 fun e member keyed => missing e member (BgpRib6Entry.keyedBy_iff.1 keyed)

/-! ## A peer's insert -/

section Peer

variable (prefer : BgpRib6Entry -> BgpRib6Entry -> Bool)

/-- A peer's insert into a reachable RIB.  With no entry of the source and
route it appends the new entry; with one, `e`, it replaces `e` by the new
entry exactly when `prefer` ranks the new one above `e`, and otherwise
returns `false` and changes nothing.  An insert moves the counter on. -/
theorem insertPeer_replaces_iff_preferred (ops : List RibOp) {s : BgpRib6}
    (ran : BgpRib6.run prefer ops BgpRib6.new = some s) (src : UInt32) (route : Prefix6)
    (nexthopGlobal : Addr6) (nexthopLinklocal : Option Addr6) (attribs : List BgpPathAttrib)
    (weight : Int) :
    let newEntry :=
      BgpRib6Entry.new route src nexthopGlobal nexthopLinklocal attribs weight s.updateId
    ((∀ e ∈ s.rib, e.key ≠ (src, route)) ->
      insertPeer prefer src route nexthopGlobal nexthopLinklocal attribs weight s =
        (true, ⟨s.rib ++ [newEntry], s.updateId + 1⟩)) ∧
    ∀ e ∈ s.rib, e.key = (src, route) ->
      insertPeer prefer src route nexthopGlobal nexthopLinklocal attribs weight s =
        if prefer newEntry e then (true, ⟨s.rib.erase e ++ [newEntry], s.updateId + 1⟩)
        else (false, s) := by
  have distinct := (Invariant.new.run prefer ran).keysDistinct
  refine ⟨fun missing => ?_, fun e member keyed => ?_⟩
  · simp [insertPeer, insertPriv, find?_keyedBy_eq_none missing]
  · obtain ⟨found, erased⟩ := distinct.find?_keyedBy member keyed
    simp only [insertPeer, insertPriv, found, erased]
    split <;> rfl

end Peer

/-- After `reinsertRun` the RIB holds the peer's entry of `::/0`, which a
second insert of the route replaces. -/
theorem peer_insert_contract_after_reinsert :
    ∃ s, BgpRib6.run (fun _ _ => true) reinsertRun BgpRib6.new = some s ∧
      let newEntry := BgpRib6Entry.new ⟨Addr6.zero, 0⟩ 1 Addr6.zero none [] 0 s.updateId
      ((∀ e ∈ s.rib, e.key ≠ (1, ⟨Addr6.zero, 0⟩)) ->
        insertPeer (fun _ _ => true) 1 ⟨Addr6.zero, 0⟩ Addr6.zero none [] 0 s =
          (true, ⟨s.rib ++ [newEntry], s.updateId + 1⟩)) ∧
      ∀ e ∈ s.rib, e.key = (1, ⟨Addr6.zero, 0⟩) ->
        insertPeer (fun _ _ => true) 1 ⟨Addr6.zero, 0⟩ Addr6.zero none [] 0 s =
          if (fun _ _ => true : BgpRib6Entry -> BgpRib6Entry -> Bool) newEntry e
          then (true, ⟨s.rib.erase e ++ [newEntry], s.updateId + 1⟩)
          else (false, s) :=
  ⟨_, rfl, insertPeer_replaces_iff_preferred (fun _ _ => true) reinsertRun rfl 1 ⟨Addr6.zero, 0⟩
    Addr6.zero none [] 0⟩

/-! ## Withdrawals -/

theorem withdraw_eq {s : BgpRib6} (distinct : KeysDistinct s.rib) (src : UInt32)
    (route : Prefix6) :
    withdraw src route s = (decide (∃ e ∈ s.rib, e.key = (src, route)),
      { s with rib := s.rib.filter fun e => e.key ≠ (src, route) }) := by
  simp [withdraw, distinct.eraseP_keyedBy, List.any_eq, BgpRib6Entry.keyedBy_iff]

theorem filter_keyed_after_withdraw (routes : Finset Prefix6) (rib : List BgpRib6Entry)
    (src : UInt32) (route : Prefix6) :
    (routes.filter fun r =>
        ∃ e ∈ rib.filter (fun e : BgpRib6Entry => e.key ≠ (src, route)), e.key = (src, r)) =
      (routes.filter fun r => ∃ e ∈ rib, e.key = (src, r)).erase route := by
  ext r
  simp only [Finset.mem_filter, Finset.mem_erase, List.mem_filter, decide_eq_true_eq]
  constructor
  · rintro ⟨listed, e, ⟨member, other⟩, keyed⟩
    exact ⟨fun same => other (by rw [keyed, same]), listed, e, member, keyed⟩
  · rintro ⟨other, listed, e, member, keyed⟩
    exact ⟨listed, e, ⟨member, fun same => other (by simpa [keyed] using same)⟩, keyed⟩

/-- The loop of the batch withdraw counts each route with an entry once, at
its first occurrence, and erases the entries of every route of the batch. -/
theorem withdrawBatchLoop_eq (src : UInt32) (routes : List Prefix6) (dropped : Nat)
    {s : BgpRib6} (distinct : KeysDistinct s.rib) :
    withdrawBatchLoop src routes dropped s =
      (dropped + (routes.toFinset.filter fun r => ∃ e ∈ s.rib, e.key = (src, r)).card,
        { s with rib := s.rib.filter fun e => ¬(e.srcRouterId = src ∧ e.route ∈ routes) }) := by
  induction routes generalizing dropped s with
  | nil => simp [withdrawBatchLoop]
  | cons route rest ih =>
    have erased : KeysDistinct (s.rib.filter fun e => e.key ≠ (src, route)) :=
      distinct.sublist (List.filter_sublist _)
    simp only [withdrawBatchLoop, withdraw_eq distinct,
      ih (s := { s with rib := s.rib.filter fun e => e.key ≠ (src, route) }) _ erased,
      List.filter_filter]
    congr 1
    · rw [filter_keyed_after_withdraw, List.toFinset_cons, Finset.filter_insert]
      by_cases present : ∃ e ∈ s.rib, e.key = (src, route)
      · rw [if_pos present, if_pos (decide_eq_true present),
          ← Finset.card_erase_add_one (Finset.mem_insert_self _ _), Finset.erase_insert_eq_erase]
        omega
      · rw [if_neg present, if_neg (by simpa using present),
          Finset.erase_eq_of_not_mem (by simp [present])]
    · congr 2
      funext e
      simp only [BgpRib6Entry.key, ne_eq, Prod.mk.injEq, List.mem_cons]
      rw [← Bool.decide_and, decide_eq_decide]
      tauto

/-- On a reachable RIB, `withdraw(src, route)` returns whether an entry of
the source and route exists and leaves every other entry, in order.  The
batch `withdraw(src, routes)` leaves every entry but those of the source
under a route of the batch, in order, and returns the number of distinct
routes of the batch that had an entry. -/
theorem withdraw_erases_exactly_keyed (prefer : BgpRib6Entry -> BgpRib6Entry -> Bool)
    (ops : List RibOp) {s : BgpRib6} (ran : BgpRib6.run prefer ops BgpRib6.new = some s)
    (src : UInt32) (route : Prefix6) (routes : List Prefix6) :
    ((withdraw src route s).1 = true ↔ ∃ e ∈ s.rib, e.key = (src, route)) ∧
    (withdraw src route s).2 = { s with rib := s.rib.filter fun e => e.key ≠ (src, route) } ∧
    withdrawBatch src routes s =
      ((routes.toFinset.filter fun r => ∃ e ∈ s.rib, e.key = (src, r)).card,
        { s with rib := s.rib.filter fun e => ¬(e.srcRouterId = src ∧ e.route ∈ routes) }) := by
  have distinct := (Invariant.new.run prefer ran).keysDistinct
  rw [withdraw_eq distinct, withdrawBatch, withdrawBatchLoop_eq src routes 0 distinct, Nat.zero_add]
  exact ⟨decide_eq_true_iff, rfl, rfl⟩

/-- After `reinsertRun`, withdrawing the peer's `::/0`, alone or twice in a
batch. -/
theorem withdraw_contract_after_reinsert :
    ∃ s, BgpRib6.run (fun _ _ => true) reinsertRun BgpRib6.new = some s ∧
      ((withdraw 1 ⟨Addr6.zero, 0⟩ s).1 = true ↔ ∃ e ∈ s.rib, e.key = (1, ⟨Addr6.zero, 0⟩)) ∧
      (withdraw 1 ⟨Addr6.zero, 0⟩ s).2 =
        { s with rib := s.rib.filter fun e => e.key ≠ (1, ⟨Addr6.zero, 0⟩) } ∧
      withdrawBatch 1 [⟨Addr6.zero, 0⟩, ⟨Addr6.zero, 0⟩] s =
        (([⟨Addr6.zero, 0⟩, ⟨Addr6.zero, 0⟩].toFinset.filter fun r =>
            ∃ e ∈ s.rib, e.key = (1, r)).card,
          { s with rib := s.rib.filter fun e =>
            ¬(e.srcRouterId = 1 ∧ e.route ∈ [⟨Addr6.zero, 0⟩, ⟨Addr6.zero, 0⟩]) }) :=
  ⟨_, rfl, withdraw_erases_exactly_keyed (fun _ _ => true) reinsertRun rfl 1 ⟨Addr6.zero, 0⟩
    [⟨Addr6.zero, 0⟩, ⟨Addr6.zero, 0⟩]⟩

/-! ## The single local insert -/

/-- The loop of a local batch insert, having appended the entries of the
routes `seen` (latest first): it goes on as `List.eraseDups` does, appending
an entry for each route without a local entry in the RIB it was given, unless
seen already. -/
theorem insertLocalBatchLoop_eq (nexthopGlobal : Addr6) (nexthopLinklocal : Option Addr6)
    (weight : Int) (updateId : Nat) (base : List BgpRib6Entry) (routes seen : List Prefix6) :
    let entry := fun r =>
      BgpRib6Entry.new r 0 nexthopGlobal nexthopLinklocal localAttribs weight updateId
    insertLocalBatchLoop nexthopGlobal nexthopLinklocal weight updateId routes
        (base ++ seen.reverse.map entry) (seen.reverse.map entry) =
      (base ++ (List.eraseDups.loop
          (routes.filter fun r => ¬∃ e ∈ base, e.srcRouterId = 0 ∧ e.route = r) seen).map entry,
        (List.eraseDups.loop
          (routes.filter fun r => ¬∃ e ∈ base, e.srcRouterId = 0 ∧ e.route = r) seen).map entry) := by
  intro entry
  induction routes generalizing seen with
  | nil => rfl
  | cons route rest ih =>
    have seenLocal : ((seen.reverse.map entry).any fun e => e.srcRouterId = 0 ∧ e.route = route) =
        seen.elem route := by
      simp only [List.any_map, List.any_reverse, List.any_eq, List.elem_eq_mem, Function.comp_def]
      simp [entry, BgpRib6Entry.new]
    unfold insertLocalBatchLoop
    rw [List.any_append, seenLocal]
    by_cases old : ∃ e ∈ base, e.srcRouterId = 0 ∧ e.route = route
    · rw [List.filter_cons_of_neg (by simpa using old),
        List.any_eq_true.2 (by simpa using old), Bool.true_or, if_pos rfl]
      exact ih seen
    · rw [List.filter_cons_of_pos (by simpa using old),
        List.any_eq_false.2 (by simpa using old), Bool.false_or]
      cases seenNow : seen.elem route
      · simp only [Bool.false_eq_true, if_false, List.eraseDups.loop, seenNow]
        rw [← ih (route :: seen)]
        simp [List.append_assoc]
      · simp only [if_true, List.eraseDups.loop, seenNow]
        exact ih seen

theorem foldl_push_route (acc : List Prefix6) (entries : List BgpRib6Entry) :
    entries.foldl (fun dropped entry => dropped ++ [entry.route]) acc =
      acc ++ entries.map (·.route) := by
  induction entries generalizing acc with
  | nil => simp
  | cons e rest ih => simp [ih]

/-- `discard(src)` returns the routes of the entries of the source, in the
order of the RIB, and leaves the other entries, in order. -/
theorem discard_returns_routes_of_source (src : UInt32) (s : BgpRib6) :
    discard src s = ((s.rib.filter fun e => e.srcRouterId = src).map (·.route),
      { s with rib := s.rib.filter fun e => e.srcRouterId ≠ src }) := by
  simp [discard, eraseEachFrom_eq, foldl_push_route, Bool.beq_eq_decide_eq]

end BgpRib6

end Libbgp
