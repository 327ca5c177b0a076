import Libbgp.Rib6.Basic

namespace Libbgp

/-!
# Looking a destination up

`lookup(dest)` walks the entries in their order and, at each entry whose
route includes `dest`, sets the selected entry to `selectEntry(&entry,
selected_entry)`; `lookup(src_router_id, dest)` first skips the entries of
other sources.  `Prefix6::includes` and `selectEntry`, the longest-prefix and
best-path choice (spec §4.3), are declared outside the sources and are
parameters here.

Whatever they are, the scoped lookup is the lookup over the source's entries.
As long as `selectEntry` returns one of its two arguments, and the selected
entry when it keeps it, a lookup finds an entry exactly when some entry's
route includes `dest`, and what it finds is such an entry of the RIB.
-/

namespace BgpRib6

section Lookup

variable (includes : Prefix6 -> Addr6 -> Bool)
  (selectEntry : BgpRib6Entry -> Option BgpRib6Entry -> Option BgpRib6Entry)

/-- The loop of `lookup(dest)` from the entry selected so far. -/
def lookupFrom (dest : Addr6) : Option BgpRib6Entry -> List BgpRib6Entry -> Option BgpRib6Entry
  | selected, [] => selected
  | selected, entry :: rest =>
      lookupFrom dest (if includes entry.route dest then selectEntry entry selected else selected) rest

/-- `lookup(dest)`: `none` for `NULL`. -/
def lookup (dest : Addr6) (s : BgpRib6) : Option BgpRib6Entry :=
  lookupFrom includes selectEntry dest none s.rib

/-- The loop of `lookup(src_router_id, dest)`. -/
def lookupBySourceFrom (src : UInt32) (dest : Addr6) :
    Option BgpRib6Entry -> List BgpRib6Entry -> Option BgpRib6Entry
  | selected, [] => selected
  | selected, entry :: rest =>
      if entry.srcRouterId ≠ src then lookupBySourceFrom src dest selected rest
      else lookupBySourceFrom src dest
        (if includes entry.route dest then selectEntry entry selected else selected) rest

/-- `lookup(src_router_id, dest)`. -/
def lookupBySource (src : UInt32) (dest : Addr6) (s : BgpRib6) : Option BgpRib6Entry :=
  lookupBySourceFrom includes selectEntry src dest none s.rib

theorem lookupBySourceFrom_eq (src : UInt32) (dest : Addr6) (selected : Option BgpRib6Entry)
    (rib : List BgpRib6Entry) :
    lookupBySourceFrom includes selectEntry src dest selected rib =
      lookupFrom includes selectEntry dest selected (rib.filter (·.srcRouterId == src)) := by
  induction rib generalizing selected with
  | nil => rfl
  | cons entry rest ih =>
    by_cases other : entry.srcRouterId = src
    · simp [lookupBySourceFrom, lookupFrom, other, ih]
    · simp [lookupBySourceFrom, other, ih]

theorem lookupBySource_eq (src : UInt32) (dest : Addr6) (s : BgpRib6) :
    lookupBySource includes selectEntry src dest s =
      lookup includes selectEntry dest ⟨s.rib.filter (·.srcRouterId == src), s.updateId⟩ :=
  lookupBySourceFrom_eq includes selectEntry src dest none s.rib

/-- A `selectEntry` that returns one of its two arguments, and returns the
selected entry only when there is one. -/
def Picks : Prop :=
  ∀ entry selected, selectEntry entry selected = some entry ∨
    (selectEntry entry selected = selected ∧ selected.isSome)

variable {includes selectEntry} (picks : Picks selectEntry) (dest : Addr6)
include picks

theorem lookupFrom_cases (selected : Option BgpRib6Entry) (rib : List BgpRib6Entry) :
    lookupFrom includes selectEntry dest selected rib = selected ∨
      ∃ e ∈ rib, includes e.route dest ∧ lookupFrom includes selectEntry dest selected rib = some e := by
  induction rib generalizing selected with
  | nil => exact .inl rfl
  | cons entry rest ih =>
    simp only [lookupFrom]
    split
    · rename_i included
      rcases picks entry selected with picked | ⟨kept, -⟩
      · rw [picked]
        rcases ih (some entry) with same | ⟨e, member, inc, found⟩
        · exact .inr ⟨entry, List.mem_cons_self _ _, included, same⟩
        · exact .inr ⟨e, List.mem_cons_of_mem _ member, inc, found⟩
      · rw [kept]
        exact (ih selected).imp_right fun ⟨e, member, inc, found⟩ =>
          ⟨e, List.mem_cons_of_mem _ member, inc, found⟩
    · exact (ih selected).imp_right fun ⟨e, member, inc, found⟩ =>
        ⟨e, List.mem_cons_of_mem _ member, inc, found⟩

/-- Once an entry is selected, the loop ends with one; an entry whose route
includes `dest` makes it select one. -/
theorem lookupFrom_isSome (selected : Option BgpRib6Entry) (rib : List BgpRib6Entry)
    (found : selected.isSome ∨ ∃ e ∈ rib, includes e.route dest) :
    (lookupFrom includes selectEntry dest selected rib).isSome := by
  induction rib generalizing selected with
  | nil => simpa using found
  | cons entry rest ih =>
    simp only [lookupFrom]
    apply ih
    split
    · rcases picks entry selected with picked | ⟨kept, some⟩
      · exact .inl (by simp [picked])
      · exact .inl (by rw [kept]; exact some)
    · rename_i excluded
      rcases found with some | ⟨e, member, inc⟩
      · exact .inl some
      · rcases List.mem_cons.1 member with rfl | later
        · exact absurd inc excluded
        · exact .inr ⟨e, later, inc⟩

/-- `lookup(dest)` finds an entry exactly when some entry's route includes
`dest`, and what it finds is such an entry of the RIB. -/
theorem lookup_finds_including_entry (s : BgpRib6) :
    (∀ e, lookup includes selectEntry dest s = some e -> e ∈ s.rib ∧ includes e.route dest) ∧
      ((lookup includes selectEntry dest s).isSome ↔ ∃ e ∈ s.rib, includes e.route dest) := by
  refine ⟨fun e found => ?_, ⟨fun isSome => ?_, fun exists_ => lookupFrom_isSome picks dest none
    s.rib (.inr exists_)⟩⟩
  · rcases lookupFrom_cases picks dest none s.rib with stays | ⟨f, member, inc, found'⟩
    · exact absurd (found.symm.trans stays) nofun
    · rw [lookup, found'] at found
      cases found
      exact ⟨member, inc⟩
  · rcases lookupFrom_cases picks dest none s.rib with stays | ⟨f, member, inc, -⟩
    · rw [lookup, stays] at isSome
      cases isSome
    · exact ⟨f, member, inc⟩

end Lookup

/-- A lookup that includes every route and always takes the later entry, on
a RIB of one entry. -/
theorem lookup_finds_including_entry_of_newest :
    let includes : Prefix6 -> Addr6 -> Bool := fun _ _ => true
    let selectEntry : BgpRib6Entry -> Option BgpRib6Entry -> Option BgpRib6Entry := fun entry _ => some entry
    let s : BgpRib6 := ⟨[BgpRib6Entry.new ⟨Addr6.zero, 0⟩ 1 Addr6.zero none [] 0 0], 1⟩
    Picks selectEntry ∧
      (∀ e, lookup includes selectEntry Addr6.zero s = some e -> e ∈ s.rib ∧ includes e.route Addr6.zero) ∧
      ((lookup includes selectEntry Addr6.zero s).isSome ↔ ∃ e ∈ s.rib, includes e.route Addr6.zero) :=
  ⟨fun _ _ => .inl rfl, lookup_finds_including_entry (fun _ _ => .inl rfl) Addr6.zero _⟩

end BgpRib6

end Libbgp
