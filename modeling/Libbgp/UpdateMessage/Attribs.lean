import Mathlib.Data.List.Nodup
import Libbgp.PathAttrib
import Libbgp.EraseLoop

namespace Libbgp

/-!
# The attribute list of an UPDATE message

`BgpUpdateMessage` keeps its path attributes in a vector of shared pointers,
`path_attribute`, and offers a family of methods that edit it: plain list
edits (`addAttrib`, `dropAttrib`, `dropNonTransitive`, `updateAttribute`,
`setNextHop`, `setAttribs`) and the translations between the two-octet and
four-octet ASN worlds of RFC 6793 (`prepend`, `restoreAsPath`,
`downgradeAsPath`, `restoreAggregator`, `downgradeAggregator`).  Every one of
them touches only `path_attribute`; `prepend` also reads `use_4b_asn` and
the header of the AS_PATH it may allocate, which its constructor leaves
unset.  So here each is a function of that list, and `prepend` of those two
as well.

An attribute is found by `getAttrib(type)`, the first one of that type code,
and is edited in place through the reference it returns, after a
`dynamic_cast` to the class the method expects.  A cast to a reference type
throws `std::bad_cast` when the object is of another class, which an
attribute list built through the public members can arrange; so a method
ends either with its return value or with that exception, and in both cases
leaves a list behind.

A method that returns `false` leaves the list it found, but for two:
`restoreAsPath` may have dropped the AS4_PATH, and two-octet `prepend` may
have prepended to the AS_PATH before the AS4_PATH refused the ASN.

`downgradeAggregator` records the four-octet AGGREGATOR in an AS4_AGGREGATOR
that `restoreAggregator` reads back but never drops: the round trip restores
the AGGREGATOR and leaves the list one AS4_AGGREGATOR longer.
-/

/-- `BgpUpdateMessage`, over the attribute objects it holds.  The framing
code is generic in the attribute class; the methods of this module are about
`BgpUpdateMessage`, the message over `BgpPathAttrib`. -/
structure UpdateMessage (α : Type) where
  use4bAsn : Bool
  withdrawnRoutes : List Route
  pathAttribute : List α
  nlri : List Route
  deriving DecidableEq, Repr

abbrev BgpUpdateMessage := UpdateMessage BgpPathAttrib

/-- The exception a `dynamic_cast` to a reference type throws. -/
inductive Thrown where
  | badCast
  deriving DecidableEq, Repr

/-- What a call of a mutating method ends with. -/
inductive Outcome where
  | returns (value : Bool)
  | throws (exception : Thrown)
  deriving DecidableEq, Repr

/-- How a call of a mutating method ends, and the attribute list it leaves. -/
structure Called where
  ret : Outcome
  attribs : List BgpPathAttrib
  deriving DecidableEq, Repr

namespace BgpUpdateMessage

open BgpPathAttribType

/-! ## Finding and editing one attribute -/

/-- `hasAttrib(type)`. -/
def hasAttrib (type : UInt8) (attrs : List BgpPathAttrib) : Bool :=
  attrs.any (·.typeCode == type)

/-- `getAttrib(type)`: the first attribute of that type code.  The source
throws a string when there is none; every caller asks `hasAttrib` first. -/
def getAttrib (type : UInt8) (attrs : List BgpPathAttrib) : Option BgpPathAttrib :=
  attrs.find? (·.typeCode == type)

/-- An edit through the reference `getAttrib(type)` returns: the first
attribute of that type code becomes `edit` of it. -/
def modifyAttrib (type : UInt8) (edit : BgpPathAttrib -> BgpPathAttrib) :
    List BgpPathAttrib -> List BgpPathAttrib
  | [] => []
  | attr :: rest =>
      if attr.typeCode = type then edit attr :: rest else attr :: modifyAttrib type edit rest

/-- `addAttrib(attrib)`: append a copy unless the type code is present. -/
def addAttrib (attrib : BgpPathAttrib) (attrs : List BgpPathAttrib) :
    Bool × List BgpPathAttrib :=
  if hasAttrib attrib.typeCode attrs then (false, attrs) else (true, attrs ++ [attrib])

/-- `setAttribs(attrs)`: replace the list by copies of the given one. -/
def setAttribs (given : List BgpPathAttrib) (_attrs : List BgpPathAttrib) :
    Bool × List BgpPathAttrib :=
  (true, given)

/-- `dropAttrib(type)`: erase the first attribute of that type code. -/
def dropAttrib (type : UInt8) (attrs : List BgpPathAttrib) : Bool × List BgpPathAttrib :=
  (hasAttrib type attrs, attrs.eraseP (·.typeCode == type))

/-- `dropNonTransitive()`: the loop erases each non-transitive attribute,
setting `removed`. -/
def dropNonTransitive (attrs : List BgpPathAttrib) : Bool × List BgpPathAttrib :=
  eraseEachFrom (fun attr => !attr.transitive) (fun _ _ => true) 0 false attrs

theorem dropNonTransitive_attribs (attrs : List BgpPathAttrib) :
    (dropNonTransitive attrs).2 = attrs.filter (·.transitive) := by
  simp [dropNonTransitive, eraseEachFrom_eq]

/-- `dropNonTransitive()` leaves the transitive attributes, in their order,
and returns `true` exactly when some attribute was not transitive. -/
theorem dropNonTransitive_filters_transitive (attrs : List BgpPathAttrib) :
    dropNonTransitive attrs =
      (decide (∃ attr ∈ attrs, ¬attr.transitive), attrs.filter (·.transitive)) := by
  refine Prod.ext ?_ (dropNonTransitive_attribs attrs)
  rw [dropNonTransitive, eraseEachFrom_flag]
  simp [List.any_eq]

/-- `updateAttribute(attrib)`: `dropAttrib` of its type code, then `addAttrib`. -/
def updateAttribute (attrib : BgpPathAttrib) (attrs : List BgpPathAttrib) :
    Bool × List BgpPathAttrib :=
  addAttrib attrib (dropAttrib attrib.typeCode attrs).2

/-- `setNextHop(nexthop)`. -/
def setNextHop (nextHop : UInt32) (attrs : List BgpPathAttrib) : Bool × List BgpPathAttrib :=
  updateAttribute (BgpPathAttribNexthop.new nextHop) attrs

/-! ## The casts and the in-place edits -/

/-- `dynamic_cast<BgpPathAttribAsPath &>`: its `is_4b` and segments. -/
def asPathMembers (attr : BgpPathAttrib) : Except Thrown (Bool × List BgpAsPathSegment) :=
  match attr.body with
  | .asPath is4b asPaths => .ok (is4b, asPaths)
  | _ => .error .badCast

/-- `dynamic_cast<BgpPathAttribAs4Path &>`: its segments. -/
def as4PathMembers (attr : BgpPathAttrib) : Except Thrown (List BgpAsPathSegment) :=
  match attr.body with
  | .as4Path as4Paths => .ok as4Paths
  | _ => .error .badCast

/-- `dynamic_cast<BgpPathAttribAggregator &>`: `is_4b`, address and ASN. -/
def aggregatorMembers (attr : BgpPathAttrib) : Except Thrown (Bool × UInt32 × UInt32) :=
  match attr.body with
  | .aggregator is4b aggregator asn => .ok (is4b, aggregator, asn)
  | _ => .error .badCast

/-- `dynamic_cast<BgpPathAttribAs4Aggregator &>`: address and ASN. -/
def as4AggregatorMembers (attr : BgpPathAttrib) : Except Thrown (UInt32 × UInt32) :=
  match attr.body with
  | .as4Aggregator aggregator asn4 => .ok (aggregator, asn4)
  | _ => .error .badCast

/-- Assign `is_4b` and `as_paths` of an AS_PATH object. -/
def setAsPath (is4b : Bool) (asPaths : List BgpAsPathSegment) (attr : BgpPathAttrib) :
    BgpPathAttrib :=
  { attr with body := .asPath is4b asPaths }

/-- Assign `as4_paths` of an AS4_PATH object. -/
def setAs4Path (as4Paths : List BgpAsPathSegment) (attr : BgpPathAttrib) : BgpPathAttrib :=
  { attr with body := .as4Path as4Paths }

/-- Assign the members of an AGGREGATOR object. -/
def setAggregator (is4b : Bool) (aggregator asn : UInt32) (attr : BgpPathAttrib) :
    BgpPathAttrib :=
  { attr with body := .aggregator is4b aggregator asn }

@[simp] theorem setAsPath_typeCode (is4b : Bool) (asPaths : List BgpAsPathSegment)
    (attr : BgpPathAttrib) : (setAsPath is4b asPaths attr).typeCode = attr.typeCode := rfl

@[simp] theorem setAs4Path_typeCode (as4Paths : List BgpAsPathSegment) (attr : BgpPathAttrib) :
    (setAs4Path as4Paths attr).typeCode = attr.typeCode := rfl

@[simp] theorem setAggregator_typeCode (is4b : Bool) (aggregator asn : UInt32)
    (attr : BgpPathAttrib) : (setAggregator is4b aggregator asn attr).typeCode = attr.typeCode :=
  rfl

theorem modifyAttrib_typeCodes (type : UInt8) {edit : BgpPathAttrib -> BgpPathAttrib}
    (keeps : forall attr, (edit attr).typeCode = attr.typeCode) (attrs : List BgpPathAttrib) :
    (modifyAttrib type edit attrs).map (·.typeCode) = attrs.map (·.typeCode) := by
  induction attrs with
  | nil => rfl
  | cons attr rest ih =>
      by_cases found : attr.typeCode = type
      · simp [modifyAttrib, found, keeps]
      · simp [modifyAttrib, found, ih]

theorem hasAttrib_eq_false {type : UInt8} {attrs : List BgpPathAttrib}
    (missing : getAttrib type attrs = none) : hasAttrib type attrs = false := by
  simpa [hasAttrib, getAttrib, List.find?_eq_none] using missing

theorem getAttrib_eq_none {type : UInt8} {attrs : List BgpPathAttrib}
    (missing : hasAttrib type attrs = false) : getAttrib type attrs = none := by
  simpa [hasAttrib, getAttrib, List.find?_eq_none] using missing

section Edits

variable {type : UInt8} {edit : BgpPathAttrib -> BgpPathAttrib}

theorem modifyAttrib_modifyAttrib (keeps : forall attr, (edit attr).typeCode = attr.typeCode)
    (edit' : BgpPathAttrib -> BgpPathAttrib) (attrs : List BgpPathAttrib) :
    modifyAttrib type edit' (modifyAttrib type edit attrs) = modifyAttrib type (edit' ∘ edit) attrs := by
  induction attrs with
  | nil => rfl
  | cons attr rest ih =>
      by_cases found : attr.typeCode = type
      · simp [modifyAttrib, found, keeps]
      · simp [modifyAttrib, found, ih]

theorem modifyAttrib_append {attrs : List BgpPathAttrib} (present : hasAttrib type attrs = true)
    (more : List BgpPathAttrib) :
    modifyAttrib type edit (attrs ++ more) = modifyAttrib type edit attrs ++ more := by
  induction attrs with
  | nil => simp [hasAttrib] at present
  | cons attr rest ih =>
      by_cases found : attr.typeCode = type
      · simp [modifyAttrib, found]
      · have later : hasAttrib type rest = true := by simpa [hasAttrib, found] using present
        simp [modifyAttrib, found, ih later]

theorem modifyAttrib_of_fixed {attrs : List BgpPathAttrib} {attr : BgpPathAttrib}
    (found : getAttrib type attrs = some attr) (fixed : edit attr = attr) :
    modifyAttrib type edit attrs = attrs := by
  induction attrs with
  | nil => cases found
  | cons head rest ih =>
      by_cases typed : head.typeCode = type
      · have same : head = attr := by simpa [getAttrib, typed] using found
        subst same
        simp [modifyAttrib, typed, fixed]
      · have later : getAttrib type rest = some attr := by simpa [getAttrib, typed] using found
        simp [modifyAttrib, typed, ih later]

theorem getAttrib_modifyAttrib (keeps : forall attr, (edit attr).typeCode = attr.typeCode)
    {attrs : List BgpPathAttrib} {attr : BgpPathAttrib} (found : getAttrib type attrs = some attr) :
    getAttrib type (modifyAttrib type edit attrs) = some (edit attr) := by
  induction attrs with
  | nil => cases found
  | cons head rest ih =>
      by_cases typed : head.typeCode = type
      · have same : head = attr := by simpa [getAttrib, typed] using found
        subst same
        simp [modifyAttrib, getAttrib, typed, keeps]
      · have later : getAttrib type rest = some attr := by simpa [getAttrib, typed] using found
        simpa [modifyAttrib, getAttrib, typed] using ih later

theorem hasAttrib_modifyAttrib (keeps : forall attr, (edit attr).typeCode = attr.typeCode)
    (type' : UInt8) (attrs : List BgpPathAttrib) :
    hasAttrib type' (modifyAttrib type edit attrs) = hasAttrib type' attrs := by
  induction attrs with
  | nil => rfl
  | cons attr rest ih =>
      simp only [hasAttrib] at ih
      by_cases found : attr.typeCode = type
      · simp [modifyAttrib, hasAttrib, found, keeps]
      · simp [modifyAttrib, hasAttrib, found, ih]

theorem getAttrib_modifyAttrib_ne (keeps : forall attr, (edit attr).typeCode = attr.typeCode)
    {type' : UInt8} (other : type ≠ type') (attrs : List BgpPathAttrib) :
    getAttrib type' (modifyAttrib type edit attrs) = getAttrib type' attrs := by
  induction attrs with
  | nil => rfl
  | cons attr rest ih =>
      simp only [getAttrib] at ih
      by_cases found : attr.typeCode = type
      · simp [modifyAttrib, getAttrib, found, keeps, other]
      · simp only [getAttrib, modifyAttrib, found, if_false, List.find?_cons, ih]

theorem getAttrib_append_of_some {attrs : List BgpPathAttrib} {attr : BgpPathAttrib}
    (found : getAttrib type attrs = some attr) (more : List BgpPathAttrib) :
    getAttrib type (attrs ++ more) = some attr := by
  simp only [getAttrib] at found ⊢
  simp [List.find?_append, found]

theorem getAttrib_append_of_missing {attrs : List BgpPathAttrib} {attr : BgpPathAttrib}
    (missing : hasAttrib attr.typeCode attrs = false) :
    getAttrib attr.typeCode (attrs ++ [attr]) = some attr := by
  have none : getAttrib attr.typeCode attrs = none := by
    simpa [hasAttrib, getAttrib, List.find?_eq_none] using missing
  simp only [getAttrib] at none ⊢
  simp [List.find?_append, none]

theorem updateAttribute_of_missing {attrs : List BgpPathAttrib} {attrib : BgpPathAttrib}
    (missing : hasAttrib attrib.typeCode attrs = false) :
    updateAttribute attrib attrs = (true, attrs ++ [attrib]) := by
  have kept : attrs.eraseP (·.typeCode == attrib.typeCode) = attrs :=
    List.eraseP_of_forall_not (by simpa [hasAttrib] using missing)
  simp [updateAttribute, dropAttrib, addAttrib, kept, missing]

end Edits

/-- `asn >= 0xffff ? 23456 : asn`, the two-octet value the message-level
methods use; unlike `twoOctetAsn` it maps `65535` too. -/
def mapAsTrans (asn : UInt32) : UInt32 :=
  if asn >= 65535 then asTrans else asn

/-- The value an ASN of a two-octet segment has once read through
`for (uint16_t asn : seg2.value)`. -/
def lowOctets (asn : UInt32) : UInt32 :=
  asn.toUInt16.toUInt32

/-! ## `prepend` -/

/-- A fresh AS_PATH of width `is4b` after `path->prepend(asn)`, built by
`new BgpPathAttribAsPath(use_4b_asn)` over an allocation holding `unset`:
its header is not set. -/
def freshAsPath (unset : UnsetHeader) (is4b : Bool) (asn : UInt32) : BgpPathAttrib :=
  setAsPath is4b ((BgpPathAttribAsPath.prepend is4b [] asn).getD [])
    (BgpPathAttribAsPath.new unset is4b)

/-- The AS_PATH step of `prepend`: prepend `asn` to the AS_PATH of width
`use4bAsn`, or add a fresh one.  `.ok none` is a `false` return, before any
change. -/
def prependAsPath (unset : UnsetHeader) (use4bAsn : Bool) (asn : UInt32)
    (attrs : List BgpPathAttrib) : Except Thrown (Option (List BgpPathAttrib)) :=
  match getAttrib asPath attrs with
  | none => .ok (some (attrs ++ [freshAsPath unset use4bAsn asn]))
  | some path =>
      match asPathMembers path with
      | .error thrown => .error thrown
      | .ok (is4b, asPaths) =>
          if is4b != use4bAsn then .ok none
          else
            match BgpPathAttribAsPath.prepend is4b asPaths asn with
            | none => .ok none
            | some asPaths' => .ok (some (modifyAttrib asPath (setAsPath is4b asPaths') attrs))

/-- The AS4_PATH step of two-octet `prepend`: when an AS4_PATH is present,
prepend the same `prep_asn` to it. -/
def prependAs4Path (prepAsn : UInt32) (attrs : List BgpPathAttrib) : Called :=
  match getAttrib as4Path attrs with
  | none => ⟨.returns true, attrs⟩
  | some path4 =>
      match as4PathMembers path4 with
      | .error thrown => ⟨.throws thrown, attrs⟩
      | .ok as4Paths =>
          match BgpPathAttribAs4Path.prepend as4Paths prepAsn with
          | none => ⟨.returns false, attrs⟩
          | some as4Paths' => ⟨.returns true, modifyAttrib as4Path (setAs4Path as4Paths') attrs⟩

/-- `prepend(asn)`.  In four-octet mode an AS4_PATH makes it refuse, and the
ASN goes to a four-octet AS_PATH.  In two-octet mode `prep_asn` goes to a
two-octet AS_PATH and then to the AS4_PATH, when there is one.  A fresh
AS_PATH is added with the header `unset` it was allocated with, and the
AS4_PATH is looked up after it is added. -/
def prepend (unset : UnsetHeader) (use4bAsn : Bool) (asn : UInt32)
    (attrs : List BgpPathAttrib) : Called :=
  if use4bAsn then
    if hasAttrib as4Path attrs then ⟨.returns false, attrs⟩
    else
      match prependAsPath unset true asn attrs with
      | .error thrown => ⟨.throws thrown, attrs⟩
      | .ok none => ⟨.returns false, attrs⟩
      | .ok (some attrs') => ⟨.returns true, attrs'⟩
  else
    let prepAsn := mapAsTrans asn
    match prependAsPath unset false prepAsn attrs with
    | .error thrown => ⟨.throws thrown, attrs⟩
    | .ok none => ⟨.returns false, attrs⟩
    | .ok (some attrs') => prependAs4Path prepAsn attrs'

/-! ## `restoreAsPath` and `downgradeAsPath` -/

/-- The first loop of `restoreAsPath`: the ASNs of the AS_SEQUENCE segments
of an AS4_PATH, in order; `none` when a segment is two-octet. -/
def as4Sequence : List BgpAsPathSegment -> Option (List UInt32)
  | [] => some []
  | seg :: rest =>
      if seg.is4b then
        (as4Sequence rest).map ((if seg.type = asSequence then seg.value else []) ++ ·)
      else none

/-- The inner loop of `restoreAsPath` over one two-octet segment.  `index`
is `local_iter`, a position in the four-octet sequence `full`, and `moving`
is `incr_iter`.  While the sequence has an ASN at `index`, an `AS_TRANS` is
replaced by it, and from the first `AS_TRANS` on the position moves with
every ASN. -/
def restoreValues (full : List UInt32) (has4b : Bool) :
    Nat -> Bool -> List UInt32 -> List UInt32
  | _, _, [] => []
  | index, moving, asn :: rest =>
      match has4b, full[index]? with
      | true, some expected =>
          let moving' := moving || lowOctets asn == asTrans
          (if lowOctets asn == asTrans then expected else lowOctets asn) ::
            restoreValues full has4b (if moving' then index + 1 else index) moving' rest
      | _, _ => lowOctets asn :: restoreValues full has4b index moving rest

/-- The outer loop of `restoreAsPath` with an AS4_PATH: each two-octet
segment becomes a four-octet one, walked from the same position `start`.
`none` is the `false` return for a four-octet segment. -/
def restoreSegs (full : List UInt32) (has4b : Bool) (start : Nat) :
    List BgpAsPathSegment -> Option (List BgpAsPathSegment)
  | [] => some []
  | seg :: rest =>
      if seg.is4b then none
      else (restoreSegs full has4b start rest).map
        (⟨true, seg.type, restoreValues full has4b start false seg.value⟩ :: ·)

/-- The loop of `restoreAsPath` without an AS4_PATH: every segment widened
as it is.  `none` is the `false` return for a four-octet segment. -/
def widenSegs : List BgpAsPathSegment -> Option (List BgpAsPathSegment)
  | [] => some []
  | seg :: rest =>
      if seg.is4b then none
      else (widenSegs rest).map (⟨true, seg.type, seg.value.map lowOctets⟩ :: ·)

/-- `restoreAsPath()`.  With an AS4_PATH the method drops it before it walks
the AS_PATH, whose segments it checks during that walk. -/
def restoreAsPath (attrs : List BgpPathAttrib) : Called :=
  match getAttrib asPath attrs with
  | none => ⟨.returns true, attrs⟩
  | some path =>
      match asPathMembers path with
      | .error thrown => ⟨.throws thrown, attrs⟩
      | .ok (is4b, asPaths) =>
          if is4b then ⟨.returns true, attrs⟩
          else
            match getAttrib as4Path attrs with
            | none =>
                match widenSegs asPaths with
                | none => ⟨.returns false, attrs⟩
                | some segs => ⟨.returns true, modifyAttrib asPath (setAsPath true segs) attrs⟩
            | some path4 =>
                match as4PathMembers path4 with
                | .error thrown => ⟨.throws thrown, attrs⟩
                | .ok as4Paths =>
                    match as4Sequence as4Paths with
                    | none => ⟨.returns false, attrs⟩
                    | some full =>
                        let dropped := (dropAttrib as4Path attrs).2
                        match restoreSegs full (!full.isEmpty) (full.findIdx (· > 65535))
                            asPaths with
                        | none => ⟨.returns false, dropped⟩
                        | some segs =>
                            ⟨.returns true, modifyAttrib asPath (setAsPath true segs) dropped⟩

/-- With an AS4_PATH present, a four-octet segment inside the two-octet
AS_PATH makes `restoreAsPath` return `false` after it has dropped the
AS4_PATH: the call fails and still changes the list. -/
theorem restoreAsPath_fails_after_dropping_as4Path :
    restoreAsPath [setAsPath false [⟨true, asSequence, [1]⟩]
        (BgpPathAttribAsPath.newWithLogger false), BgpPathAttribAs4Path.new [⟨true, asSequence, [1]⟩]] =
      ⟨.returns false, [setAsPath false [⟨true, asSequence, [1]⟩]
        (BgpPathAttribAsPath.newWithLogger false)]⟩ := by
  decide

/-- The loop of `downgradeAsPath`: each four-octet segment becomes a
two-octet one.  `none` is the `false` return for a two-octet segment. -/
def downgradeSegs : List BgpAsPathSegment -> Option (List BgpAsPathSegment)
  | [] => some []
  | seg :: rest =>
      if seg.is4b then (downgradeSegs rest).map (⟨false, seg.type, seg.value.map mapAsTrans⟩ :: ·)
      else none

/-- `downgradeAsPath()`: the two-octet path, and the original segments as
AS4_PATH through `updateAttribute`. -/
def downgradeAsPath (attrs : List BgpPathAttrib) : Called :=
  match getAttrib asPath attrs with
  | none => ⟨.returns true, attrs⟩
  | some path =>
      match asPathMembers path with
      | .error thrown => ⟨.throws thrown, attrs⟩
      | .ok (is4b, asPaths) =>
          if !is4b then ⟨.returns true, attrs⟩
          else
            match downgradeSegs asPaths with
            | none => ⟨.returns false, attrs⟩
            | some segs =>
                let updated := (updateAttribute (BgpPathAttribAs4Path.new asPaths) attrs).2
                ⟨.returns true, modifyAttrib asPath (setAsPath false segs) updated⟩

/-- Two ways a four-octet path does not survive `downgradeAsPath` and then
`restoreAsPath`.  Every segment's walk restarts at the first four-octet ASN
of the AS4_PATH, so a second segment gets the first one's ASN; and `65535`
becomes `AS_TRANS` on the way down but is not counted as four-octet on the
way back. -/
theorem restoreAsPath_downgradeAsPath_changes_path :
    restoreAsPath (downgradeAsPath [setAsPath true
        [⟨true, asSequence, [70000]⟩, ⟨true, asSequence, [70001]⟩]
        (BgpPathAttribAsPath.newWithLogger true)]).attribs =
      ⟨.returns true, [setAsPath true [⟨true, asSequence, [70000]⟩, ⟨true, asSequence, [70000]⟩]
        (BgpPathAttribAsPath.newWithLogger true)]⟩ ∧
    restoreAsPath (downgradeAsPath [setAsPath true [⟨true, asSequence, [65535]⟩]
        (BgpPathAttribAsPath.newWithLogger true)]).attribs =
      ⟨.returns true, [setAsPath true [⟨true, asSequence, [23456]⟩]
        (BgpPathAttribAsPath.newWithLogger true)]⟩ := by
  decide

/-- Two-octet `prepend` hands `prep_asn`, already `AS_TRANS` for a
four-octet ASN, to the AS4_PATH as well, so `restoreAsPath` cannot recover
the ASN that four-octet `prepend` puts in front. -/
theorem prepend_twoOctet_loses_asn (unset : UnsetHeader) :
    (restoreAsPath (prepend unset false 70000 (downgradeAsPath [setAsPath true
        [⟨true, asSequence, [1]⟩] (BgpPathAttribAsPath.newWithLogger true)]).attribs).attribs).attribs =
      [setAsPath true [⟨true, asSequence, [23456, 1]⟩] (BgpPathAttribAsPath.newWithLogger true)] ∧
    (prepend unset true 70000 [setAsPath true [⟨true, asSequence, [1]⟩]
        (BgpPathAttribAsPath.newWithLogger true)]).attribs =
      [setAsPath true [⟨true, asSequence, [70000, 1]⟩] (BgpPathAttribAsPath.newWithLogger true)] :=
  ⟨rfl, rfl⟩

/-! ## `restoreAggregator` and `downgradeAggregator` -/

/-- `restoreAggregator()`: mark the AGGREGATOR four-octet, then take address
and ASN from an AS4_AGGREGATOR if there is one. -/
def restoreAggregator (attrs : List BgpPathAttrib) : Called :=
  match getAttrib aggreator attrs with
  | none => ⟨.returns true, attrs⟩
  | some aggr =>
      match aggregatorMembers aggr with
      | .error thrown => ⟨.throws thrown, attrs⟩
      | .ok (_, aggregator, asn) =>
          let marked := modifyAttrib BgpPathAttribType.aggreator
            (setAggregator true aggregator asn) attrs
          match getAttrib as4Aggregator marked with
          | none => ⟨.returns true, marked⟩
          | some aggr4 =>
              match as4AggregatorMembers aggr4 with
              | .error thrown => ⟨.throws thrown, marked⟩
              | .ok (aggregator4, asn4) =>
                  ⟨.returns true, modifyAttrib BgpPathAttribType.aggreator
                    (setAggregator true aggregator4 asn4) marked⟩

/-- `downgradeAggregator()`: mark the AGGREGATOR two-octet, record address
and ASN in an AS4_AGGREGATOR through `updateAttribute`, then replace an ASN
of `0xffff` or more by `AS_TRANS`. -/
def downgradeAggregator (attrs : List BgpPathAttrib) : Called :=
  match getAttrib aggreator attrs with
  | none => ⟨.returns true, attrs⟩
  | some aggr =>
      match aggregatorMembers aggr with
      | .error thrown => ⟨.throws thrown, attrs⟩
      | .ok (_, aggregator, asn) =>
          let marked := modifyAttrib BgpPathAttribType.aggreator
            (setAggregator false aggregator asn) attrs
          let updated := (updateAttribute (BgpPathAttribAs4Aggregator.new aggregator asn) marked).2
          ⟨.returns true, modifyAttrib BgpPathAttribType.aggreator
            (setAggregator false aggregator (mapAsTrans asn)) updated⟩

/-! ## The AGGREGATOR round trip -/

theorem hasAttrib_of_getAttrib {type : UInt8} {attrs : List BgpPathAttrib} {attr : BgpPathAttrib}
    (found : getAttrib type attrs = some attr) : hasAttrib type attrs = true := by
  simp only [getAttrib] at found
  have typed := List.find?_some found
  simp only [hasAttrib, List.any_eq_true]
  exact ⟨attr, List.mem_of_find?_eq_some found, typed⟩

theorem setAggregator_of_body {attr : BgpPathAttrib} {is4b : Bool} {aggregator asn : UInt32}
    (body : attr.body = .aggregator is4b aggregator asn) : setAggregator is4b aggregator asn attr = attr := by
  cases attr
  dsimp only at body
  subst body
  rfl

theorem setAggregator_comp_setAggregator (is4b is4b' : Bool) (aggregator asn aggregator' asn' : UInt32) :
    setAggregator is4b aggregator asn ∘ setAggregator is4b' aggregator' asn' =
      setAggregator is4b aggregator asn :=
  rfl

/-- `downgradeAggregator` on a list with an AGGREGATOR and no AS4_AGGREGATOR:
the AGGREGATOR becomes two-octet, its ASN mapped to `AS_TRANS` above
`0xfffe`, and an AS4_AGGREGATOR with the address and the ASN is appended. -/
theorem downgradeAggregator_of_missing {attrs : List BgpPathAttrib} {aggr : BgpPathAttrib}
    {is4b : Bool} {aggregator asn : UInt32} (found : getAttrib aggreator attrs = some aggr)
    (body : aggr.body = .aggregator is4b aggregator asn) (noAs4 : hasAttrib as4Aggregator attrs = false) :
    downgradeAggregator attrs = ⟨.returns true,
      modifyAttrib aggreator (setAggregator false aggregator (mapAsTrans asn)) attrs ++
        [BgpPathAttribAs4Aggregator.new aggregator asn]⟩ := by
  have keeps : ∀ (b : Bool) (x y : UInt32) attr, (setAggregator b x y attr).typeCode = attr.typeCode :=
    fun _ _ _ _ => rfl
  have stillNoAs4 : hasAttrib (BgpPathAttribAs4Aggregator.new aggregator asn).typeCode
      (modifyAttrib aggreator (setAggregator false aggregator asn) attrs) = false :=
    (hasAttrib_modifyAttrib (keeps false aggregator asn) as4Aggregator attrs).trans noAs4
  have present : hasAttrib aggreator
      (modifyAttrib aggreator (setAggregator false aggregator asn) attrs) = true :=
    (hasAttrib_modifyAttrib (keeps false aggregator asn) aggreator attrs).trans
      (hasAttrib_of_getAttrib found)
  simp only [downgradeAggregator, found, aggregatorMembers, body,
    updateAttribute_of_missing stillNoAs4]
  rw [modifyAttrib_append present, modifyAttrib_modifyAttrib (keeps false aggregator asn)]
  rfl

/-- `restoreAggregator` on a list with an AGGREGATOR and an AS4_AGGREGATOR:
the AGGREGATOR becomes four-octet with the AS4_AGGREGATOR's address and ASN,
and the AS4_AGGREGATOR stays. -/
theorem restoreAggregator_of_as4Aggregator {attrs : List BgpPathAttrib} {aggr aggr4 : BgpPathAttrib}
    {is4b : Bool} {aggregator asn aggregator4 asn4 : UInt32}
    (found : getAttrib aggreator attrs = some aggr) (body : aggr.body = .aggregator is4b aggregator asn)
    (found4 : getAttrib as4Aggregator attrs = some aggr4)
    (body4 : aggr4.body = .as4Aggregator aggregator4 asn4) :
    restoreAggregator attrs =
      ⟨.returns true, modifyAttrib aggreator (setAggregator true aggregator4 asn4) attrs⟩ := by
  have keeps : ∀ attr, (setAggregator true aggregator asn attr).typeCode = attr.typeCode :=
    fun _ => rfl
  simp only [restoreAggregator, found, aggregatorMembers, body,
    getAttrib_modifyAttrib_ne keeps (show aggreator ≠ as4Aggregator by decide), found4,
    as4AggregatorMembers, body4, modifyAttrib_modifyAttrib keeps]
  rfl

/-- A list whose first AGGREGATOR is four-octet, with no AS4_AGGREGATOR:
`downgradeAggregator` and then `restoreAggregator` give the AGGREGATOR back
as it was, and leave the AS4_AGGREGATOR that the first call appended. -/
theorem restoreAggregator_downgradeAggregator_keeps_as4Aggregator {attrs : List BgpPathAttrib}
    {aggr : BgpPathAttrib} {aggregator asn : UInt32} (found : getAttrib aggreator attrs = some aggr)
    (fourOctet : aggr.body = .aggregator true aggregator asn)
    (noAs4 : hasAttrib as4Aggregator attrs = false) :
    restoreAggregator (downgradeAggregator attrs).attribs =
      ⟨.returns true, attrs ++ [BgpPathAttribAs4Aggregator.new aggregator asn]⟩ := by
  have keeps : ∀ attr, (setAggregator false aggregator (mapAsTrans asn) attr).typeCode =
      attr.typeCode := fun _ => rfl
  have downgraded := getAttrib_modifyAttrib keeps found
  have present : hasAttrib aggreator
      (modifyAttrib aggreator (setAggregator false aggregator (mapAsTrans asn)) attrs) = true :=
    (hasAttrib_modifyAttrib keeps aggreator attrs).trans (hasAttrib_of_getAttrib found)
  have missing : hasAttrib (BgpPathAttribAs4Aggregator.new aggregator asn).typeCode
      (modifyAttrib aggreator (setAggregator false aggregator (mapAsTrans asn)) attrs) = false :=
    (hasAttrib_modifyAttrib keeps as4Aggregator attrs).trans noAs4
  rw [downgradeAggregator_of_missing found fourOctet noAs4,
    restoreAggregator_of_as4Aggregator (getAttrib_append_of_some downgraded _) rfl
      (getAttrib_append_of_missing missing) rfl,
    modifyAttrib_append present, modifyAttrib_modifyAttrib keeps, setAggregator_comp_setAggregator,
    modifyAttrib_of_fixed found (setAggregator_of_body fourOctet)]

/-- A four-octet AGGREGATOR of ASN 70000 after ORIGIN. -/
theorem as4Aggregator_left_after_round_trip :
    let aggr := optionalTransitive aggreator (.aggregator true 3 70000)
    let attrs := [BgpPathAttribOrigin.newWithLogger igp, aggr]
    (getAttrib aggreator attrs = some aggr ∧ aggr.body = .aggregator true 3 70000 ∧
      hasAttrib as4Aggregator attrs = false) ∧
    restoreAggregator (downgradeAggregator attrs).attribs =
      ⟨.returns true, attrs ++ [BgpPathAttribAs4Aggregator.new 3 70000]⟩ :=
  ⟨⟨rfl, rfl, rfl⟩, restoreAggregator_downgradeAggregator_keeps_as4Aggregator rfl rfl rfl⟩

/-! ## What a `false` return leaves -/

/-- A method that, when it returns `false`, leaves the list it found. -/
def KeepsOnFalse (method : List BgpPathAttrib -> Called) : Prop :=
  ∀ attrs, (method attrs).ret = .returns false -> (method attrs).attribs = attrs

theorem downgradeAsPath_keepsOnFalse : KeepsOnFalse downgradeAsPath := by
  intro attrs
  unfold downgradeAsPath
  repeat' split
  all_goals simp

theorem restoreAggregator_ne_false (attrs : List BgpPathAttrib) :
    (restoreAggregator attrs).ret ≠ .returns false := by
  intro returned
  unfold restoreAggregator at returned
  dsimp only at returned
  repeat' split at returned
  all_goals simp at returned

theorem downgradeAggregator_ne_false (attrs : List BgpPathAttrib) :
    (downgradeAggregator attrs).ret ≠ .returns false := by
  intro returned
  unfold downgradeAggregator at returned
  repeat' split at returned
  all_goals simp at returned

/-- `restoreAsPath` returning `false` leaves the list it found, or that list
without its AS4_PATH. -/
theorem restoreAsPath_false_attribs (attrs : List BgpPathAttrib)
    (returned : (restoreAsPath attrs).ret = .returns false) :
    (restoreAsPath attrs).attribs = attrs ∨
      (restoreAsPath attrs).attribs = (dropAttrib as4Path attrs).2 := by
  revert returned
  unfold restoreAsPath
  repeat' split
  all_goals simp

theorem prependAs4Path_keepsOnFalse (prepAsn : UInt32) : KeepsOnFalse (prependAs4Path prepAsn) := by
  intro attrs
  unfold prependAs4Path
  repeat' split
  all_goals simp

theorem prepend_fourOctet_keepsOnFalse (unset : UnsetHeader) (asn : UInt32) :
    KeepsOnFalse (prepend unset true asn) := by
  intro attrs
  simp only [prepend, if_true]
  repeat' split
  all_goals simp

/-- Two-octet `prepend` returning `false` leaves the list it found, or the
list with `prep_asn` already prepended to the AS_PATH, when the AS4_PATH then
refuses it. -/
theorem prepend_twoOctet_false_attribs (unset : UnsetHeader) (asn : UInt32)
    (attrs : List BgpPathAttrib) (returned : (prepend unset false asn attrs).ret = .returns false) :
    (prepend unset false asn attrs).attribs = attrs ∨
      ∃ attrs', prependAsPath unset false (mapAsTrans asn) attrs = .ok (some attrs') ∧
        (prepend unset false asn attrs).attribs = attrs' := by
  revert returned
  simp only [prepend, Bool.false_eq_true, if_false]
  split
  · simp
  · simp
  · rename_i attrs' prepended
    exact fun returned => .inr ⟨attrs', prepended, prependAs4Path_keepsOnFalse _ _ returned⟩

/-- An AS4_PATH whose first segment has an unknown type refuses the ASN the
AS_PATH has already taken. -/
example (unset : UnsetHeader) :
    prepend unset false 5 [setAsPath false [⟨false, asSequence, [1]⟩]
        (BgpPathAttribAsPath.newWithLogger false), BgpPathAttribAs4Path.new [⟨true, 3, [1]⟩]] =
      ⟨.returns false, [setAsPath false [⟨false, asSequence, [5, 1]⟩]
        (BgpPathAttribAsPath.newWithLogger false), BgpPathAttribAs4Path.new [⟨true, 3, [1]⟩]]⟩ :=
  rfl

end BgpUpdateMessage

end Libbgp
