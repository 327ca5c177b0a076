import Mathlib.Data.List.Nodup
import Libbgp.PathAttrib
import Libbgp.EraseLoop

namespace Libbgp

/-!
# The IPv6 routing information base

`BgpRib6` keeps its entries in a `std::vector` in the order they were added,
and a counter `update_id` that groups entries added together.  Every entry
carries the source it came from (`src_router_id`, `0` for a local route), its
two nexthops, its attributes, a weight, and the counter's value it was given.

The public operations are modelled here as functions of the RIB: the four
`insert` overloads for routes of a peer and for local routes (each local one
also with a route event bus), `withdraw` of one or several routes, and
`discard`.  `RibOp` names them all, and `BgpRib6.run` applies a list of them
from a RIB to the next.

The ranking `BgpRib6Entry::operator>` that decides whether a peer's entry
replaces the one it has for the same route is declared outside the sources;
the operations take it as a parameter `prefer`.  The logger and the mutex
change no entry and are left out.
-/

/-- An IPv6 address as the sources pass it, `uint8_t[16]`. -/
structure Addr6 where
  bytes : List UInt8
  sixteen : bytes.length = 16
  deriving DecidableEq

/-- `memset(addr, 0, 16)`, the link-local nexthop of an entry given `NULL`. -/
def Addr6.zero : Addr6 := ⟨List.replicate 16 0, rfl⟩

/-- Modelled from the spec: `Prefix6`, whose class is not among the sources:
an address in network byte order and a length, and `operator==` comparing
both (spec §3). -/
structure Prefix6 where
  addr : Addr6
  length : UInt8
  deriving DecidableEq

/-- `BgpRib6Entry`.  `update_id`, an `uint64_t`, is taken as unbounded. -/
structure BgpRib6Entry where
  route : Prefix6
  srcRouterId : UInt32
  nexthopGlobal : Addr6
  nexthopLinklocal : Addr6
  attribs : List BgpPathAttrib
  weight : Int
  updateId : Nat
  deriving DecidableEq

namespace BgpRib6Entry

/-- `BgpRib6Entry(r, src, nexthop_global, nexthop_linklocal, attribs)` with
the `weight` and `update_id` its callers set: a `NULL` link-local nexthop is
stored as zeros. -/
def new (route : Prefix6) (src : UInt32) (nexthopGlobal : Addr6) (nexthopLinklocal : Option Addr6)
    (attribs : List BgpPathAttrib) (weight : Int) (updateId : Nat) : BgpRib6Entry :=
  ⟨route, src, nexthopGlobal, nexthopLinklocal.getD Addr6.zero, attribs, weight, updateId⟩

/-- The test of `insertPriv` and `withdraw`:
`entry->route == route && entry->src_router_id == src_router_id`. -/
def keyedBy (src : UInt32) (route : Prefix6) (entry : BgpRib6Entry) : Bool :=
  entry.route == route && entry.srcRouterId == src

/-- The pair the RIB keeps at most one entry of. -/
def key (entry : BgpRib6Entry) : UInt32 × Prefix6 := (entry.srcRouterId, entry.route)

theorem keyedBy_iff {src : UInt32} {route : Prefix6} {entry : BgpRib6Entry} :
    entry.keyedBy src route ↔ entry.key = (src, route) := by
  simp [keyedBy, key, and_comm]

@[simp] theorem new_key (route : Prefix6) (src : UInt32) (nexthopGlobal : Addr6)
    (nexthopLinklocal : Option Addr6) (attribs : List BgpPathAttrib) (weight : Int) (updateId : Nat) :
    (new route src nexthopGlobal nexthopLinklocal attribs weight updateId).key = (src, route) := rfl

end BgpRib6Entry

/-- `BgpRib6`: the entries and the counter. -/
structure BgpRib6 where
  rib : List BgpRib6Entry
  updateId : Nat
  deriving DecidableEq

/-- `Route6AddEvent`, as the local inserts with a route event bus publish
it. -/
structure Route6AddEvent where
  routes : List Prefix6
  attribs : List BgpPathAttrib
  deriving DecidableEq

namespace BgpRib6

/-- `BgpRib6(logger)`: no entry, and the counter at `0`. -/
def new : BgpRib6 := ⟨[], 0⟩

/-- The attributes a local insert creates: ORIGIN of IGP and an empty
four-octet AS_PATH. -/
def localAttribs : List BgpPathAttrib :=
  [BgpPathAttribOrigin.newWithLogger igp, BgpPathAttribAsPath.newWithLogger true]

section Operations

variable (prefer : BgpRib6Entry -> BgpRib6Entry -> Bool)

/-- `insertPriv(src_router_id, route, nexthop_global, nexthop_linklocal,
attribs, weight)`: the new entry carries the counter.  The first entry of the
same source and route is replaced, erased and the new one appended, when
`prefer` ranks the new one above it; with no such entry the new one is
appended. -/
def insertPriv (src : UInt32) (route : Prefix6) (nexthopGlobal : Addr6)
    (nexthopLinklocal : Option Addr6) (attribs : List BgpPathAttrib) (weight : Int)
    (s : BgpRib6) : Bool × BgpRib6 :=
  let newEntry := BgpRib6Entry.new route src nexthopGlobal nexthopLinklocal attribs weight s.updateId
  match s.rib.find? (·.keyedBy src route) with
  | some entry =>
      if prefer newEntry entry then
        (true, { s with rib := s.rib.eraseP (·.keyedBy src route) ++ [newEntry] })
      else (false, s)
  | none => (true, { s with rib := s.rib ++ [newEntry] })

/-- `insert(src_router_id, route, nexthop_global, nexthop_linklocal, attribs,
weight)`, for a route of a peer: `insertPriv`, and the counter moves on when
it inserted. -/
def insertPeer (src : UInt32) (route : Prefix6) (nexthopGlobal : Addr6)
    (nexthopLinklocal : Option Addr6) (attribs : List BgpPathAttrib) (weight : Int)
    (s : BgpRib6) : Bool × BgpRib6 :=
  let (inserted, s) := insertPriv prefer src route nexthopGlobal nexthopLinklocal attribs weight s
  (inserted, if inserted then { s with updateId := s.updateId + 1 } else s)

/-- The loop of `insert(src_router_id, routes, nexthop_global,
nexthop_linklocal, attrib, weight)`: it calls `insertPriv(src_router_id, r,
nexthop_linklocal, nexthop_global, attrib, weight)`, the two nexthops
swapped, and counts the routes inserted.  A `NULL` link-local nexthop, passed
as the global one, is copied from by `memcpy`: undefined behaviour, `none`. -/
def insertPeerBatchLoop (src : UInt32) (nexthopGlobal : Addr6) (nexthopLinklocal : Option Addr6)
    (attrib : List BgpPathAttrib) (weight : Int) :
    List Prefix6 -> Nat -> BgpRib6 -> Option (Nat × BgpRib6)
  | [], inserted, s => some (inserted, s)
  | r :: rest, inserted, s => do
      let asGlobal <- nexthopLinklocal
      let (ok, s) := insertPriv prefer src r asGlobal (some nexthopGlobal) attrib weight s
      insertPeerBatchLoop src nexthopGlobal nexthopLinklocal attrib weight rest
        (if ok then inserted + 1 else inserted) s

/-- `insert(src_router_id, routes, ...)` for routes of a peer: the loop, then
the counter moves on once. -/
def insertPeerBatch (src : UInt32) (routes : List Prefix6) (nexthopGlobal : Addr6)
    (nexthopLinklocal : Option Addr6) (attrib : List BgpPathAttrib) (weight : Int)
    (s : BgpRib6) : Option (Nat × BgpRib6) := do
  let (inserted, s) <-
    insertPeerBatchLoop prefer src nexthopGlobal nexthopLinklocal attrib weight routes 0 s
  pure (inserted, { s with updateId := s.updateId + 1 })

end Operations

/-- The scan of the single local `insert` over the entries: `none` when a
local entry of the route exists (the `return NULL`), else `use_update_id`,
which a local entry with the same two nexthops sets to its own `update_id`,
the last such entry winning. -/
def localUpdateId (newEntry : BgpRib6Entry) : List BgpRib6Entry -> Nat -> Option Nat
  | [], useUpdateId => some useUpdateId
  | entry :: rest, useUpdateId =>
      if entry.srcRouterId = 0 ∧ entry.route = newEntry.route then none
      else localUpdateId newEntry rest
        (if entry.srcRouterId = 0 ∧ entry.nexthopGlobal = newEntry.nexthopGlobal ∧
            entry.nexthopLinklocal = newEntry.nexthopLinklocal
          then entry.updateId else useUpdateId)

/-- `insert(logger, route, nexthop_global, nexthop_linklocal, weight)`, for a
local route: the entry added, or `none` for `NULL`.  The counter moves on
only when the entry opened a group of its own. -/
def insertLocal (route : Prefix6) (nexthopGlobal : Addr6) (nexthopLinklocal : Option Addr6)
    (weight : Int) (s : BgpRib6) : Option BgpRib6Entry × BgpRib6 :=
  let newEntry := BgpRib6Entry.new route 0 nexthopGlobal nexthopLinklocal localAttribs weight s.updateId
  match localUpdateId newEntry s.rib s.updateId with
  | none => (none, s)
  | some useUpdateId =>
      let newEntry := { newEntry with updateId := useUpdateId }
      (some newEntry,
        ⟨s.rib ++ [newEntry], if useUpdateId = s.updateId then s.updateId + 1 else s.updateId⟩)

/-- The loop of `insert(logger, routes, nexthop_global, nexthop_linklocal,
weight)`: a route with a local entry, one added earlier in the loop
included, is passed over; the others are appended with the counter's value.
The result is the entries and the list `inserted`. -/
def insertLocalBatchLoop (nexthopGlobal : Addr6) (nexthopLinklocal : Option Addr6) (weight : Int)
    (updateId : Nat) : List Prefix6 -> List BgpRib6Entry -> List BgpRib6Entry ->
      List BgpRib6Entry × List BgpRib6Entry
  | [], rib, inserted => (rib, inserted)
  | route :: rest, rib, inserted =>
      if rib.any (fun entry => entry.srcRouterId = 0 ∧ entry.route = route) then
        insertLocalBatchLoop nexthopGlobal nexthopLinklocal weight updateId rest rib inserted
      else
        let newEntry :=
          BgpRib6Entry.new route 0 nexthopGlobal nexthopLinklocal localAttribs weight updateId
        insertLocalBatchLoop nexthopGlobal nexthopLinklocal weight updateId rest
          (rib ++ [newEntry]) (inserted ++ [newEntry])

/-- `insert(logger, routes, ...)` for local routes: the loop, then the
counter moves on once, whatever was inserted. -/
def insertLocalBatch (routes : List Prefix6) (nexthopGlobal : Addr6)
    (nexthopLinklocal : Option Addr6) (weight : Int) (s : BgpRib6) :
    List BgpRib6Entry × BgpRib6 :=
  let (rib, inserted) :=
    insertLocalBatchLoop nexthopGlobal nexthopLinklocal weight s.updateId routes s.rib []
  (inserted, ⟨rib, s.updateId + 1⟩)

/-- `insert(logger, route, ..., rev_bus, weight)`: the single local insert,
and the event it publishes when it inserted. -/
def insertLocalPublish (route : Prefix6) (nexthopGlobal : Addr6) (nexthopLinklocal : Option Addr6)
    (weight : Int) (s : BgpRib6) : (Option BgpRib6Entry × Option Route6AddEvent) × BgpRib6 :=
  let (entry, s) := insertLocal route nexthopGlobal nexthopLinklocal weight s
  ((entry, entry.map fun entry => ⟨[entry.route], entry.attribs⟩), s)

/-- `insert(logger, routes, ..., rev_bus, weight)`: the local batch insert,
and the event it publishes when it inserted, with the first entry's
attributes. -/
def insertLocalBatchPublish (routes : List Prefix6) (nexthopGlobal : Addr6)
    (nexthopLinklocal : Option Addr6) (weight : Int) (s : BgpRib6) :
    (List BgpRib6Entry × Option Route6AddEvent) × BgpRib6 :=
  let (inserted, s) := insertLocalBatch routes nexthopGlobal nexthopLinklocal weight s
  match inserted with
  | [] => (([], none), s)
  | first :: _ => ((inserted, some ⟨inserted.map (·.route), first.attribs⟩), s)

/-- `withdraw(src_router_id, route)`: erase the first entry of that source
and route. -/
def withdraw (src : UInt32) (route : Prefix6) (s : BgpRib6) : Bool × BgpRib6 :=
  (s.rib.any (·.keyedBy src route), { s with rib := s.rib.eraseP (·.keyedBy src route) })

/-- The loop of `withdraw(src_router_id, routes)`: the single `withdraw`
for each route, counting those that dropped an entry. -/
def withdrawBatchLoop (src : UInt32) : List Prefix6 -> Nat -> BgpRib6 -> Nat × BgpRib6
  | [], dropped, s => (dropped, s)
  | route :: rest, dropped, s =>
      let (ok, s) := withdraw src route s
      withdrawBatchLoop src rest (if ok then dropped + 1 else dropped) s

/-- `withdraw(src_router_id, routes)`. -/
def withdrawBatch (src : UInt32) (routes : List Prefix6) (s : BgpRib6) : Nat × BgpRib6 :=
  withdrawBatchLoop src routes 0 s

/-- `discard(src_router_id)`: the loop erasing every entry of the source,
collecting their routes. -/
def discard (src : UInt32) (s : BgpRib6) : List Prefix6 × BgpRib6 :=
  let (droppedRoutes, rib) :=
    eraseEachFrom (·.srcRouterId == src) (fun dropped entry => dropped ++ [entry.route]) 0 [] s.rib
  (droppedRoutes, { s with rib := rib })

end BgpRib6

/-- The operations that change a `BgpRib6`, with their arguments. -/
inductive RibOp where
  | insertLocal (route : Prefix6) (nexthopGlobal : Addr6) (nexthopLinklocal : Option Addr6)
      (weight : Int)
  | insertLocalPublish (route : Prefix6) (nexthopGlobal : Addr6)
      (nexthopLinklocal : Option Addr6) (weight : Int)
  | insertLocalBatch (routes : List Prefix6) (nexthopGlobal : Addr6)
      (nexthopLinklocal : Option Addr6) (weight : Int)
  | insertLocalBatchPublish (routes : List Prefix6) (nexthopGlobal : Addr6)
      (nexthopLinklocal : Option Addr6) (weight : Int)
  | insertPeer (src : UInt32) (route : Prefix6) (nexthopGlobal : Addr6)
      (nexthopLinklocal : Option Addr6) (attribs : List BgpPathAttrib) (weight : Int)
  | insertPeerBatch (src : UInt32) (routes : List Prefix6) (nexthopGlobal : Addr6)
      (nexthopLinklocal : Option Addr6) (attribs : List BgpPathAttrib) (weight : Int)
  | withdraw (src : UInt32) (route : Prefix6)
  | withdrawBatch (src : UInt32) (routes : List Prefix6)
  | discard (src : UInt32)
  deriving DecidableEq

namespace RibOp

/-- The RIB after the operation, `none` where it has undefined behaviour. -/
def apply (prefer : BgpRib6Entry -> BgpRib6Entry -> Bool) : RibOp -> BgpRib6 -> Option BgpRib6
  | insertLocal route global linklocal weight, s =>
      some (BgpRib6.insertLocal route global linklocal weight s).2
  | insertLocalPublish route global linklocal weight, s =>
      some (BgpRib6.insertLocalPublish route global linklocal weight s).2
  | insertLocalBatch routes global linklocal weight, s =>
      some (BgpRib6.insertLocalBatch routes global linklocal weight s).2
  | insertLocalBatchPublish routes global linklocal weight, s =>
      some (BgpRib6.insertLocalBatchPublish routes global linklocal weight s).2
  | insertPeer src route global linklocal attribs weight, s =>
      some (BgpRib6.insertPeer prefer src route global linklocal attribs weight s).2
  | insertPeerBatch src routes global linklocal attribs weight, s =>
      (BgpRib6.insertPeerBatch prefer src routes global linklocal attribs weight s).map (·.2)
  | withdraw src route, s => some (BgpRib6.withdraw src route s).2
  | withdrawBatch src routes, s => some (BgpRib6.withdrawBatch src routes s).2
  | discard src, s => some (BgpRib6.discard src s).2

/-- The operation gives every source it names a nonzero `src_router_id`:
the routes it inserts under a source are a peer's, not local ones. -/
def PeerSourcesNonzero : RibOp -> Prop
  | insertPeer src .. | insertPeerBatch src .. => src ≠ 0
  | _ => True

instance : DecidablePred PeerSourcesNonzero := fun op =>
  match op with
  | insertPeer src .. | insertPeerBatch src .. => inferInstanceAs (Decidable (src ≠ 0))
  | insertLocal .. | insertLocalPublish .. | insertLocalBatch .. | insertLocalBatchPublish ..
  | withdraw .. | withdrawBatch .. | discard .. => isTrue trivial

end RibOp

/-- The RIB after a list of operations, `none` once one of them has
undefined behaviour. -/
def BgpRib6.run (prefer : BgpRib6Entry -> BgpRib6Entry -> Bool) (ops : List RibOp) (s : BgpRib6) :
    Option BgpRib6 :=
  ops.foldlM (fun s op => op.apply prefer s) s

end Libbgp
