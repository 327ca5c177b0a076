import Libbgp.UpdateMessage.TypeCodes

namespace Libbgp
namespace BgpUpdateMessage

open BgpPathAttribType

/-!
# No failed cast on the lists the mutators build

Four methods reach the attribute behind a type code through a
`dynamic_cast` to a reference: the AS_PATH to `BgpPathAttribAsPath`, the
AS4_PATH to `BgpPathAttribAs4Path`, the AGGREGATOR to
`BgpPathAttribAggregator` and the AS4_AGGREGATOR to
`BgpPathAttribAs4Aggregator`.  The cast throws when the object is of another
class, and the translations return `false` on a path segment whose width is
not the path's.

Neither happens on a list whose attributes are the objects their type codes
call for, with path segments of their path's width and of a known type
(`WellTyped`).  Every mutator keeps such a list so, when the attributes it
is handed are so.  For `prepend` that includes the fresh AS_PATH it may add:
`BgpPathAttribAsPath(bool)` leaves its type code as the allocation held it,
and a code the methods cast to another class (AS4_PATH's, say) makes a later
cast of that code throw.  On a well-typed list `restoreAsPath`,
`downgradeAsPath`, `restoreAggregator` and `downgradeAggregator` return
`true`, and `prepend` returns `false` exactly where it refuses by design: an
AS4_PATH in four-octet mode, or an AS_PATH of the other width.
-/

/-! ## The invariant -/

/-- The classes of attribute object the methods cast to. -/
inductive CastClass where
  | asPath
  | as4Path
  | aggregator
  | as4Aggregator
  | other
  deriving DecidableEq, Repr

/-- The class of an attribute object, among those the methods cast to. -/
def bodyClass : AttribBody -> CastClass
  | .asPath .. => .asPath
  | .as4Path _ => .as4Path
  | .aggregator .. => .aggregator
  | .as4Aggregator .. => .as4Aggregator
  | _ => .other

/-- The class the methods cast the attribute of a type code to. -/
def castClassOf (typeCode : UInt8) : CastClass :=
  if typeCode = asPath then .asPath
  else if typeCode = as4Path then .as4Path
  else if typeCode = aggreator then .aggregator
  else if typeCode = as4Aggregator then .as4Aggregator
  else .other

@[simp] theorem castClassOf_asPath : castClassOf asPath = .asPath := by decide
@[simp] theorem castClassOf_as4Path : castClassOf as4Path = .as4Path := by decide
@[simp] theorem castClassOf_aggreator : castClassOf aggreator = .aggregator := by decide
@[simp] theorem castClassOf_as4Aggregator : castClassOf as4Aggregator = .as4Aggregator := by decide

/-- Path segments of width `is4b`, each an AS_SET or an AS_SEQUENCE. -/
def SegsOfWidth (is4b : Bool) (segs : List BgpAsPathSegment) : Prop :=
  ∀ seg ∈ segs, seg.is4b = is4b ∧ (seg.type = asSet ∨ seg.type = asSequence)

instance (is4b : Bool) (segs : List BgpAsPathSegment) : Decidable (SegsOfWidth is4b segs) :=
  inferInstanceAs (Decidable (∀ seg ∈ segs, seg.is4b = is4b ∧
    (seg.type = asSet ∨ seg.type = asSequence)))

/-- The segments of an AS_PATH object have its width, and those of an
AS4_PATH object are four-octet; each has a known type. -/
def segsFit : AttribBody -> Bool
  | .asPath is4b segs => decide (SegsOfWidth is4b segs)
  | .as4Path segs => decide (SegsOfWidth true segs)
  | _ => true

/-- An attribute whose type code calls for no cast, or for the class it is,
with path segments of the shape the path classes keep. -/
structure AttribWellTyped (attr : BgpPathAttrib) : Prop where
  castable : castClassOf attr.typeCode = .other ∨ castClassOf attr.typeCode = bodyClass attr.body
  shaped : segsFit attr.body = true

instance : DecidablePred AttribWellTyped := fun attr =>
  decidable_of_iff ((castClassOf attr.typeCode = .other ∨
      castClassOf attr.typeCode = bodyClass attr.body) ∧ segsFit attr.body = true)
    ⟨fun ⟨castable, shaped⟩ => ⟨castable, shaped⟩, fun ⟨castable, shaped⟩ => ⟨castable, shaped⟩⟩

/-- Every attribute is well typed. -/
def WellTyped (attrs : List BgpPathAttrib) : Prop := ∀ attr ∈ attrs, AttribWellTyped attr

instance (attrs : List BgpPathAttrib) : Decidable (WellTyped attrs) :=
  inferInstanceAs (Decidable (∀ attr ∈ attrs, AttribWellTyped attr))

/-! ## What a cast finds on a well-typed attribute -/

namespace AttribWellTyped

variable {attr : BgpPathAttrib} (typed : AttribWellTyped attr)
include typed

theorem asPath_body (code : attr.typeCode = asPath) :
    ∃ is4b segs, attr.body = .asPath is4b segs ∧ SegsOfWidth is4b segs := by
  obtain ⟨castable, shaped⟩ := typed
  rw [code, castClassOf_asPath] at castable
  rcases body : attr.body
  case asPath is4b segs => exact ⟨is4b, segs, rfl, by simpa [segsFit, body] using shaped⟩
  all_goals simp [bodyClass, body] at castable

theorem as4Path_body (code : attr.typeCode = as4Path) :
    ∃ segs, attr.body = .as4Path segs ∧ SegsOfWidth true segs := by
  obtain ⟨castable, shaped⟩ := typed
  rw [code, castClassOf_as4Path] at castable
  rcases body : attr.body
  case as4Path segs => exact ⟨segs, rfl, by simpa [segsFit, body] using shaped⟩
  all_goals simp [bodyClass, body] at castable

theorem aggregator_body (code : attr.typeCode = aggreator) :
    ∃ is4b aggregator asn, attr.body = .aggregator is4b aggregator asn := by
  have castable := typed.castable
  rw [code, castClassOf_aggreator] at castable
  rcases body : attr.body
  case aggregator is4b aggregator asn => exact ⟨is4b, aggregator, asn, rfl⟩
  all_goals simp [bodyClass, body] at castable

theorem as4Aggregator_body (code : attr.typeCode = as4Aggregator) :
    ∃ aggregator asn, attr.body = .as4Aggregator aggregator asn := by
  have castable := typed.castable
  rw [code, castClassOf_as4Aggregator] at castable
  rcases body : attr.body
  case as4Aggregator aggregator asn => exact ⟨aggregator, asn, rfl⟩
  all_goals simp [bodyClass, body] at castable

end AttribWellTyped

/-! ## Segments of one width -/

theorem SegsOfWidth.width {is4b : Bool} {segs : List BgpAsPathSegment} (fit : SegsOfWidth is4b segs) :
    ∀ seg ∈ segs, seg.is4b = is4b :=
  fun seg member => (fit seg member).1

theorem SegsOfWidth.rewiden {is4b : Bool} {segs : List BgpAsPathSegment} (fit : SegsOfWidth is4b segs)
    (is4b' : Bool) (values : BgpAsPathSegment -> List UInt32) :
    SegsOfWidth is4b' (segs.map fun seg => ⟨is4b', seg.type, values seg⟩) := by
  simp only [SegsOfWidth, List.mem_map]
  rintro _ ⟨seg, member, rfl⟩
  exact ⟨rfl, (fit seg member).2⟩

theorem addSeg_segsOfWidth {is4b : Bool} {segs : List BgpAsPathSegment} (fit : SegsOfWidth is4b segs)
    (asn : UInt32) : SegsOfWidth is4b (addSeg is4b segs asn) := by
  intro seg member
  rcases List.mem_append.1 member with old | added
  · exact fit seg old
  · rw [List.mem_singleton.1 added]
    exact ⟨rfl, .inr rfl⟩

/-- `prepend` on a path of known segment types returns `true` and keeps the
width and the types. -/
theorem prepend_segsOfWidth {is4b : Bool} {segs : List BgpAsPathSegment} (fit : SegsOfWidth is4b segs)
    (asn : UInt32) :
    ∃ segs', BgpPathAttribAsPath.prepend is4b segs asn = some segs' ∧ SegsOfWidth is4b segs' := by
  cases segs with
  | nil => exact ⟨_, rfl, addSeg_segsOfWidth fit asn⟩
  | cons seg rest =>
    obtain ⟨width, typed⟩ := fit seg (List.mem_cons_self _ _)
    dsimp only [BgpPathAttribAsPath.prepend]
    by_cases isSet : seg.type = asSet
    · exact ⟨_, by rw [if_pos isSet], addSeg_segsOfWidth fit asn⟩
    rw [if_neg isSet, if_pos (typed.resolve_left isSet)]
    by_cases full : seg.value.length >= 255
    · exact ⟨_, by rw [if_pos full], addSeg_segsOfWidth fit asn⟩
    refine ⟨_, by rw [if_neg full], fun seg' member => ?_⟩
    rcases List.mem_cons.1 member with rfl | later
    · simp only [BgpAsPathSegment.prepend, if_neg full, Option.getD_some]
      exact ⟨width, typed⟩
    · exact fit seg' (List.mem_cons_of_mem _ later)

/-! ## The segment loops on segments of the width they expect -/

section Loops

variable {segs : List BgpAsPathSegment}

theorem widenSegs_of_twoOctet (narrow : ∀ seg ∈ segs, seg.is4b = false) :
    widenSegs segs = some (segs.map fun seg => ⟨true, seg.type, seg.value.map lowOctets⟩) := by
  induction segs with
  | nil => rfl
  | cons seg rest ih =>
      simp [widenSegs, narrow seg (List.mem_cons_self _ _),
        ih fun s member => narrow s (List.mem_cons_of_mem _ member)]

theorem restoreSegs_of_twoOctet (full : List UInt32) (has4b : Bool) (start : Nat)
    (narrow : ∀ seg ∈ segs, seg.is4b = false) :
    restoreSegs full has4b start segs =
      some (segs.map fun seg => ⟨true, seg.type, restoreValues full has4b start false seg.value⟩) := by
  induction segs with
  | nil => rfl
  | cons seg rest ih =>
      simp [restoreSegs, narrow seg (List.mem_cons_self _ _),
        ih fun s member => narrow s (List.mem_cons_of_mem _ member)]

theorem downgradeSegs_of_fourOctet (wide : ∀ seg ∈ segs, seg.is4b = true) :
    downgradeSegs segs = some (segs.map fun seg => ⟨false, seg.type, seg.value.map mapAsTrans⟩) := by
  induction segs with
  | nil => rfl
  | cons seg rest ih =>
      simp [downgradeSegs, wide seg (List.mem_cons_self _ _),
        ih fun s member => wide s (List.mem_cons_of_mem _ member)]

/-- The ASNs of the AS_SEQUENCE segments, in order. -/
def sequenceAsns (segs : List BgpAsPathSegment) : List UInt32 :=
  segs.flatMap fun seg => if seg.type = asSequence then seg.value else []

theorem as4Sequence_of_fourOctet (wide : ∀ seg ∈ segs, seg.is4b = true) :
    as4Sequence segs = some (sequenceAsns segs) := by
  induction segs with
  | nil => rfl
  | cons seg rest ih =>
      simp [as4Sequence, sequenceAsns, wide seg (List.mem_cons_self _ _),
        ih fun s member => wide s (List.mem_cons_of_mem _ member)]

end Loops

/-! ## Well-typed attributes the mutators build -/

section Attributes

variable {attr : BgpPathAttrib}

theorem setAsPath_wellTyped {is4b : Bool} {segs : List BgpAsPathSegment}
    (code : attr.typeCode = asPath) (fit : SegsOfWidth is4b segs) :
    AttribWellTyped (setAsPath is4b segs attr) :=
  ⟨.inr (by simp [code, setAsPath, bodyClass]), by simpa [segsFit, setAsPath] using fit⟩

theorem setAs4Path_wellTyped {segs : List BgpAsPathSegment} (code : attr.typeCode = as4Path)
    (fit : SegsOfWidth true segs) : AttribWellTyped (setAs4Path segs attr) :=
  ⟨.inr (by simp [code, setAs4Path, bodyClass]), by simpa [segsFit, setAs4Path] using fit⟩

theorem setAggregator_wellTyped (is4b : Bool) (aggregator asn : UInt32)
    (code : attr.typeCode = aggreator) : AttribWellTyped (setAggregator is4b aggregator asn attr) :=
  ⟨.inr (by simp [code, setAggregator, bodyClass]), rfl⟩

theorem freshAsPath_wellTyped {unset : UnsetHeader} {is4b : Bool}
    (built : AttribWellTyped (BgpPathAttribAsPath.new unset is4b)) (asn : UInt32) :
    AttribWellTyped (freshAsPath unset is4b asn) :=
  ⟨built.castable, by simp [segsFit, freshAsPath, setAsPath, SegsOfWidth,
    BgpPathAttribAsPath.prepend, addSeg]⟩

theorem as4Path_new_wellTyped {segs : List BgpAsPathSegment} (fit : SegsOfWidth true segs) :
    AttribWellTyped (BgpPathAttribAs4Path.new segs) :=
  @setAs4Path_wellTyped (BgpPathAttribAs4Path.new []) segs rfl fit

theorem as4Aggregator_new_wellTyped (aggregator asn : UInt32) :
    AttribWellTyped (BgpPathAttribAs4Aggregator.new aggregator asn) :=
  ⟨.inr rfl, rfl⟩

theorem nexthop_new_wellTyped (nextHop : UInt32) : AttribWellTyped (BgpPathAttribNexthop.new nextHop) :=
  ⟨.inl (show castClassOf BgpPathAttribType.nextHop = .other by decide), rfl⟩

end Attributes

/-! ## Lists -/

namespace WellTyped

variable {attrs : List BgpPathAttrib}

theorem sublist {smaller : List BgpPathAttrib} (typed : WellTyped attrs)
    (within : smaller.Sublist attrs) : WellTyped smaller :=
  fun attr member => typed attr (within.subset member)

theorem push (typed : WellTyped attrs) {attr : BgpPathAttrib} (typedAttr : AttribWellTyped attr) :
    WellTyped (attrs ++ [attr]) := by
  intro a member
  rcases List.mem_append.1 member with old | added
  · exact typed a old
  · rw [List.mem_singleton.1 added]
    exact typedAttr

theorem modify (typed : WellTyped attrs) (type : UInt8) {edit : BgpPathAttrib -> BgpPathAttrib}
    (edits : ∀ attr ∈ attrs, attr.typeCode = type -> AttribWellTyped (edit attr)) :
    WellTyped (modifyAttrib type edit attrs) := by
  induction attrs with
  | nil => exact typed
  | cons attr rest ih =>
      have restTyped : WellTyped rest := fun a member => typed a (List.mem_cons_of_mem _ member)
      by_cases found : attr.typeCode = type
      · rw [modifyAttrib, if_pos found]
        exact List.forall_mem_cons.2 ⟨edits attr (List.mem_cons_self _ _) found, restTyped⟩
      · rw [modifyAttrib, if_neg found]
        exact List.forall_mem_cons.2 ⟨typed attr (List.mem_cons_self _ _),
          ih restTyped fun a member => edits a (List.mem_cons_of_mem _ member)⟩

theorem found (typed : WellTyped attrs) {type : UInt8} {attr : BgpPathAttrib}
    (found : getAttrib type attrs = some attr) : AttribWellTyped attr ∧ attr.typeCode = type := by
  simp only [getAttrib] at found
  exact ⟨typed attr (List.mem_of_find?_eq_some found), by simpa using List.find?_some found⟩

end WellTyped

/-! ## One lemma per mutator -/

/-- The first AS_PATH is of width `is4b`. -/
def AsPathOfWidth (is4b : Bool) (attrs : List BgpPathAttrib) : Prop :=
  ∃ path segs, getAttrib asPath attrs = some path ∧ path.body = .asPath is4b segs

theorem not_asPathOfWidth {attrs : List BgpPathAttrib} {path : BgpPathAttrib} {is4b : Bool}
    {segs : List BgpAsPathSegment} (found : getAttrib asPath attrs = some path)
    (body : path.body = .asPath is4b segs) : ¬AsPathOfWidth (!is4b) attrs := by
  rintro ⟨path', segs', found', body'⟩
  rw [found, Option.some.injEq] at found'
  subst found'
  rw [body, AttribBody.asPath.injEq] at body'
  cases is4b <;> simp at body'

theorem not_asPathOfWidth_of_none {attrs : List BgpPathAttrib} (missing : getAttrib asPath attrs = none)
    (is4b : Bool) : ¬AsPathOfWidth is4b attrs := by
  rintro ⟨path, segs, found, -⟩
  rw [missing] at found
  cases found

section Mutators

variable {attrs : List BgpPathAttrib} (typed : WellTyped attrs)
include typed

theorem addAttrib_wellTyped {attrib : BgpPathAttrib} (typedAttrib : AttribWellTyped attrib) :
    WellTyped (addAttrib attrib attrs).2 := by
  unfold addAttrib
  split
  · exact typed
  · exact typed.push typedAttrib

theorem dropAttrib_wellTyped (type : UInt8) : WellTyped (dropAttrib type attrs).2 :=
  typed.sublist (List.eraseP_sublist _)

theorem dropNonTransitive_wellTyped : WellTyped (dropNonTransitive attrs).2 := by
  rw [dropNonTransitive_attribs]
  exact typed.sublist (List.filter_sublist _)

theorem updateAttribute_wellTyped {attrib : BgpPathAttrib} (typedAttrib : AttribWellTyped attrib) :
    WellTyped (updateAttribute attrib attrs).2 :=
  addAttrib_wellTyped (dropAttrib_wellTyped typed _) typedAttrib

theorem setNextHop_wellTyped (nextHop : UInt32) : WellTyped (setNextHop nextHop attrs).2 :=
  updateAttribute_wellTyped typed (nexthop_new_wellTyped nextHop)

/-- On a well-typed list `restoreAsPath` returns `true`, and leaves a
well-typed list without a two-octet AS_PATH. -/
theorem restoreAsPath_of_wellTyped :
    ∃ attrs', restoreAsPath attrs = ⟨.returns true, attrs'⟩ ∧ WellTyped attrs' ∧
      ¬AsPathOfWidth false attrs' := by
  unfold restoreAsPath
  rcases found : getAttrib asPath attrs with _ | path
  · exact ⟨attrs, rfl, typed, not_asPathOfWidth_of_none found false⟩
  obtain ⟨pathTyped, code⟩ := typed.found found
  obtain ⟨is4b, segs, body, fit⟩ := pathTyped.asPath_body code
  cases is4b
  case true => exact ⟨attrs, by simp [asPathMembers, body], typed, not_asPathOfWidth found body⟩
  simp only [asPathMembers, body, Bool.false_eq_true, if_false]
  rcases found4 : getAttrib as4Path attrs with _ | path4
  · rw [widenSegs_of_twoOctet fit.width]
    exact ⟨_, rfl, typed.modify asPath fun _ _ code => setAsPath_wellTyped code (fit.rewiden true _),
      not_asPathOfWidth (getAttrib_modifyAttrib (setAsPath_typeCode true _) found) rfl⟩
  obtain ⟨typed4, code4⟩ := typed.found found4
  obtain ⟨segs4, body4, fit4⟩ := typed4.as4Path_body code4
  simp only [as4PathMembers, body4, as4Sequence_of_fourOctet fit4.width,
    restoreSegs_of_twoOctet _ _ _ fit.width]
  exact ⟨_, rfl, (dropAttrib_wellTyped typed as4Path).modify asPath
    fun _ _ code => setAsPath_wellTyped code (fit.rewiden true _),
    not_asPathOfWidth (getAttrib_modifyAttrib (setAsPath_typeCode true _)
      ((getAttrib_dropAttrib_ne (by decide) attrs).trans found)) rfl⟩

/-- On a well-typed list `downgradeAsPath` returns `true`, and leaves a
well-typed list without a four-octet AS_PATH. -/
theorem downgradeAsPath_of_wellTyped :
    ∃ attrs', downgradeAsPath attrs = ⟨.returns true, attrs'⟩ ∧ WellTyped attrs' ∧
      ¬AsPathOfWidth true attrs' := by
  unfold downgradeAsPath
  rcases found : getAttrib asPath attrs with _ | path
  · exact ⟨attrs, rfl, typed, not_asPathOfWidth_of_none found true⟩
  obtain ⟨pathTyped, code⟩ := typed.found found
  obtain ⟨is4b, segs, body, fit⟩ := pathTyped.asPath_body code
  cases is4b
  case false => exact ⟨attrs, by simp [asPathMembers, body], typed, not_asPathOfWidth found body⟩
  simp only [asPathMembers, body, downgradeSegs_of_fourOctet fit.width]
  exact ⟨_, rfl, (updateAttribute_wellTyped typed (as4Path_new_wellTyped fit)).modify asPath
    fun _ _ code => setAsPath_wellTyped code (fit.rewiden false _),
    not_asPathOfWidth (getAttrib_modifyAttrib (setAsPath_typeCode false _)
      ((getAttrib_updateAttribute_ne (show (BgpPathAttribAs4Path.new segs).typeCode ≠ asPath
        from show as4Path ≠ asPath by decide)
        attrs).trans found)) rfl⟩

/-- On a well-typed list `restoreAggregator` returns `true`, and leaves a
well-typed list. -/
theorem restoreAggregator_wellTyped :
    ∃ attrs', restoreAggregator attrs = ⟨.returns true, attrs'⟩ ∧ WellTyped attrs' := by
  unfold restoreAggregator
  rcases found : getAttrib aggreator attrs with _ | aggr
  · exact ⟨attrs, rfl, typed⟩
  obtain ⟨aggrTyped, code⟩ := typed.found found
  obtain ⟨is4b, aggregator, asn, body⟩ := aggrTyped.aggregator_body code
  have marked := typed.modify aggreator fun _ _ code =>
    setAggregator_wellTyped true aggregator asn code
  simp only [aggregatorMembers, body]
  split
  · exact ⟨_, rfl, marked⟩
  · rename_i aggr4 found4
    obtain ⟨typed4, code4⟩ := marked.found found4
    obtain ⟨aggregator4, asn4, body4⟩ := typed4.as4Aggregator_body code4
    simp only [as4AggregatorMembers, body4]
    exact ⟨_, rfl, marked.modify aggreator fun _ _ code => setAggregator_wellTyped _ _ _ code⟩

/-- On a well-typed list `downgradeAggregator` returns `true`, and leaves a
well-typed list. -/
theorem downgradeAggregator_wellTyped :
    ∃ attrs', downgradeAggregator attrs = ⟨.returns true, attrs'⟩ ∧ WellTyped attrs' := by
  unfold downgradeAggregator
  rcases found : getAttrib aggreator attrs with _ | aggr
  · exact ⟨attrs, rfl, typed⟩
  obtain ⟨aggrTyped, code⟩ := typed.found found
  obtain ⟨is4b, aggregator, asn, body⟩ := aggrTyped.aggregator_body code
  have marked := typed.modify aggreator fun _ _ code =>
    setAggregator_wellTyped false aggregator asn code
  simp only [aggregatorMembers, body]
  exact ⟨_, rfl, (updateAttribute_wellTyped marked (as4Aggregator_new_wellTyped aggregator asn)).modify
    aggreator fun _ _ code => setAggregator_wellTyped _ _ _ code⟩

end Mutators

/-! ## `prepend` -/

/-- Where `prepend` refuses by design: an AS4_PATH in four-octet mode, or an
AS_PATH of the other width. -/
def PrependRefused (use4bAsn : Bool) (attrs : List BgpPathAttrib) : Prop :=
  (use4bAsn = true ∧ hasAttrib as4Path attrs = true) ∨ AsPathOfWidth (!use4bAsn) attrs

section Prepend

variable {attrs : List BgpPathAttrib} (typed : WellTyped attrs)
include typed

theorem prependAsPath_wellTyped (unset : UnsetHeader) (use4bAsn : Bool) (asn : UInt32)
    (built : AttribWellTyped (BgpPathAttribAsPath.new unset use4bAsn)) :
    (AsPathOfWidth (!use4bAsn) attrs ∧ prependAsPath unset use4bAsn asn attrs = .ok none) ∨
      (¬AsPathOfWidth (!use4bAsn) attrs ∧ ∃ attrs',
        prependAsPath unset use4bAsn asn attrs = .ok (some attrs') ∧ WellTyped attrs') := by
  unfold prependAsPath
  rcases found : getAttrib asPath attrs with _ | path
  · exact .inr ⟨by simp [AsPathOfWidth, found], _, rfl, typed.push (freshAsPath_wellTyped built _)⟩
  obtain ⟨pathTyped, code⟩ := typed.found found
  obtain ⟨is4b, segs, body, fit⟩ := pathTyped.asPath_body code
  simp only [asPathMembers, body]
  by_cases other : is4b = !use4bAsn
  · subst other
    exact .inl ⟨⟨path, segs, found, body⟩, by cases use4bAsn <;> rfl⟩
  have same : is4b = use4bAsn := by cases is4b <;> cases use4bAsn <;> simp_all
  subst same
  obtain ⟨segs', prepended, fit'⟩ := prepend_segsOfWidth fit asn
  refine .inr ⟨fun ⟨path', segs'', found', body'⟩ => ?_, _, by simp [prepended], typed.modify asPath
    fun _ _ code => setAsPath_wellTyped code fit'⟩
  cases found.symm.trans found'
  simp [body] at body'

theorem prependAs4Path_wellTyped (prepAsn : UInt32) :
    ∃ attrs', prependAs4Path prepAsn attrs = ⟨.returns true, attrs'⟩ ∧ WellTyped attrs' := by
  unfold prependAs4Path
  rcases found : getAttrib as4Path attrs with _ | path4
  · exact ⟨attrs, rfl, typed⟩
  obtain ⟨typed4, code4⟩ := typed.found found
  obtain ⟨segs, body, fit⟩ := typed4.as4Path_body code4
  obtain ⟨segs', prepended, fit'⟩ := prepend_segsOfWidth fit prepAsn
  simp only [as4PathMembers, body, BgpPathAttribAs4Path.prepend, prepended]
  exact ⟨_, rfl, typed.modify as4Path fun _ _ code => setAs4Path_wellTyped code fit'⟩

/-- What `prepend` does on a well-typed list: it refuses by design and
leaves the list, or it returns `true` and leaves a well-typed list. -/
theorem prepend_cases_of_wellTyped (unset : UnsetHeader) (use4bAsn : Bool) (asn : UInt32)
    (built : AttribWellTyped (BgpPathAttribAsPath.new unset use4bAsn)) :
    (PrependRefused use4bAsn attrs ∧ prepend unset use4bAsn asn attrs = ⟨.returns false, attrs⟩) ∨
      (¬PrependRefused use4bAsn attrs ∧ ∃ attrs',
        prepend unset use4bAsn asn attrs = ⟨.returns true, attrs'⟩ ∧ WellTyped attrs') := by
  cases use4bAsn
  case true =>
    by_cases present : hasAttrib as4Path attrs = true
    · exact .inl ⟨.inl ⟨rfl, present⟩, by simp [prepend, present]⟩
    rcases prependAsPath_wellTyped typed unset true asn built with
      ⟨other, refused⟩ | ⟨same, attrs', prepended, typed'⟩
    · exact .inl ⟨.inr other, by simp [prepend, present, refused]⟩
    · exact .inr ⟨by simpa [PrependRefused, present] using same, attrs', by simp [prepend, present, prepended],
        typed'⟩
  case false =>
    rcases prependAsPath_wellTyped typed unset false (mapAsTrans asn) built with
      ⟨other, refused⟩ | ⟨same, attrs', prepended, typed'⟩
    · exact .inl ⟨.inr other, by simp [prepend, refused]⟩
    obtain ⟨attrs'', extended, typed''⟩ := prependAs4Path_wellTyped typed' (mapAsTrans asn)
    exact .inr ⟨by simpa [PrependRefused] using same, attrs'', by simp [prepend, prepended, extended],
      typed''⟩

/-- On a well-typed list `prepend` never throws.  It returns `false` exactly
where it refuses by design, and then leaves the list as it was. -/
theorem prepend_refuses_only_by_design (unset : UnsetHeader) (use4bAsn : Bool) (asn : UInt32)
    (built : AttribWellTyped (BgpPathAttribAsPath.new unset use4bAsn)) :
    ((prepend unset use4bAsn asn attrs).ret = .returns false ↔ PrependRefused use4bAsn attrs) ∧
      ((prepend unset use4bAsn asn attrs).ret = .returns false ->
        (prepend unset use4bAsn asn attrs).attribs = attrs) ∧
      ∃ value, (prepend unset use4bAsn asn attrs).ret = .returns value := by
  rcases prepend_cases_of_wellTyped typed unset use4bAsn asn built with
    ⟨refused, called⟩ | ⟨free, _, called, -⟩
  · rw [called]
    exact ⟨iff_of_true rfl refused, fun _ => rfl, _, rfl⟩
  · rw [called]
    exact ⟨iff_of_false nofun free, nofun, _, rfl⟩

end Prepend

/-- A two-octet AS_PATH refuses a four-octet `prepend`, and the list stays. -/
theorem prepend_refuses_two_octet_path :
    let attrs := [setAsPath false [⟨false, asSequence, [1]⟩] (BgpPathAttribAsPath.newWithLogger false)]
    let zeroed : UnsetHeader := ⟨false, false, false, false, 0⟩
    (WellTyped attrs ∧ AttribWellTyped (BgpPathAttribAsPath.new zeroed true)) ∧
      (((prepend zeroed true 70000 attrs).ret = .returns false ↔ PrependRefused true attrs) ∧
        ((prepend zeroed true 70000 attrs).ret = .returns false ->
          (prepend zeroed true 70000 attrs).attribs = attrs) ∧
        ∃ value, (prepend zeroed true 70000 attrs).ret = .returns value) :=
  ⟨⟨by decide, by decide⟩, prepend_refuses_only_by_design (by decide) _ true 70000 (by decide)⟩

/-- Two-octet `prepend` on a list with no AS_PATH and no AS4_PATH, whose
fresh AS_PATH was allocated over AS4_PATH's type code, finds that path as the
AS4_PATH, and its `dynamic_cast` throws. -/
theorem prepend_throws_of_fresh_as4Path (unset : UnsetHeader) (asn : UInt32)
    {attrs : List BgpPathAttrib} (noPath : hasAttrib asPath attrs = false)
    (noPath4 : hasAttrib as4Path attrs = false) (code4 : unset.typeCode = as4Path) :
    prepend unset false asn attrs =
      ⟨.throws .badCast, attrs ++ [freshAsPath unset false (mapAsTrans asn)]⟩ := by
  have coded : (freshAsPath unset false (mapAsTrans asn)).typeCode = as4Path := code4
  have found := getAttrib_append_of_missing (coded ▸ noPath4)
  rw [coded] at found
  simp only [prepend, Bool.false_eq_true, if_false, prependAsPath, getAttrib_eq_none noPath,
    prependAs4Path, found]
  rfl

/-! ## Along any sequence of calls -/

/-- A call of a method that returns a flag and cannot throw. -/
def returned (result : Bool × List BgpPathAttrib) : Called :=
  ⟨.returns result.1, result.2⟩

namespace AttribEdit

/-- How a call ends, and the attribute list it leaves. -/
def call : AttribEdit -> List BgpPathAttrib -> Called
  | .addAttrib attrib, attrs => returned (BgpUpdateMessage.addAttrib attrib attrs)
  | .dropAttrib type, attrs => returned (BgpUpdateMessage.dropAttrib type attrs)
  | .dropNonTransitive, attrs => returned (BgpUpdateMessage.dropNonTransitive attrs)
  | .updateAttribute attrib, attrs => returned (BgpUpdateMessage.updateAttribute attrib attrs)
  | .setNextHop nextHop, attrs => returned (BgpUpdateMessage.setNextHop nextHop attrs)
  | .prepend unset use4bAsn asn, attrs => BgpUpdateMessage.prepend unset use4bAsn asn attrs
  | .restoreAsPath, attrs => BgpUpdateMessage.restoreAsPath attrs
  | .downgradeAsPath, attrs => BgpUpdateMessage.downgradeAsPath attrs
  | .restoreAggregator, attrs => BgpUpdateMessage.restoreAggregator attrs
  | .downgradeAggregator, attrs => BgpUpdateMessage.downgradeAggregator attrs
  | .setAttribs given, attrs => returned (BgpUpdateMessage.setAttribs given attrs)

/-- The attributes a call hands over are well typed, and so is the fresh
AS_PATH of `prepend` as its allocation left it. -/
def Supplied : AttribEdit -> Prop
  | .addAttrib attrib => AttribWellTyped attrib
  | .updateAttribute attrib => AttribWellTyped attrib
  | .setAttribs given => WellTyped given
  | .prepend unset use4bAsn _ => AttribWellTyped (BgpPathAttribAsPath.new unset use4bAsn)
  | _ => True

instance : DecidablePred Supplied := fun edit =>
  match edit with
  | .addAttrib attrib => inferInstanceAs (Decidable (AttribWellTyped attrib))
  | .updateAttribute attrib => inferInstanceAs (Decidable (AttribWellTyped attrib))
  | .setAttribs given => inferInstanceAs (Decidable (WellTyped given))
  | .prepend unset use4bAsn _ =>
      inferInstanceAs (Decidable (AttribWellTyped (BgpPathAttribAsPath.new unset use4bAsn)))
  | .dropAttrib _ | .dropNonTransitive | .setNextHop _ | .restoreAsPath
  | .downgradeAsPath | .restoreAggregator | .downgradeAggregator => isTrue trivial

theorem apply_wellTyped {attrs : List BgpPathAttrib} (edit : AttribEdit) (supplied : edit.Supplied)
    (typed : WellTyped attrs) : WellTyped (edit.apply attrs) := by
  cases edit with
  | addAttrib _ => exact addAttrib_wellTyped typed supplied
  | dropAttrib type => exact dropAttrib_wellTyped typed type
  | dropNonTransitive => exact dropNonTransitive_wellTyped typed
  | updateAttribute _ => exact updateAttribute_wellTyped typed supplied
  | setNextHop nextHop => exact setNextHop_wellTyped typed nextHop
  | prepend unset use4bAsn asn =>
      rcases prepend_cases_of_wellTyped typed unset use4bAsn asn supplied with
        ⟨-, kept⟩ | ⟨-, _, called, typed'⟩
      · simpa [apply, kept] using typed
      · simpa [apply, called] using typed'
  | restoreAsPath =>
      obtain ⟨_, called, typed', -⟩ := restoreAsPath_of_wellTyped typed
      simpa [apply, called] using typed'
  | downgradeAsPath =>
      obtain ⟨_, called, typed', -⟩ := downgradeAsPath_of_wellTyped typed
      simpa [apply, called] using typed'
  | restoreAggregator =>
      obtain ⟨_, called, typed'⟩ := restoreAggregator_wellTyped typed
      simpa [apply, called] using typed'
  | downgradeAggregator =>
      obtain ⟨_, called, typed'⟩ := downgradeAggregator_wellTyped typed
      simpa [apply, called] using typed'
  | setAttribs _ => exact supplied

theorem call_returns {attrs : List BgpPathAttrib} (typed : WellTyped attrs) (edit : AttribEdit)
    (supplied : edit.Supplied) : ∃ value, (edit.call attrs).ret = .returns value := by
  cases edit with
  | prepend unset use4bAsn asn =>
      rcases prepend_cases_of_wellTyped typed unset use4bAsn asn supplied with
        ⟨-, called⟩ | ⟨-, _, called, -⟩
      · exact ⟨false, by rw [call, called]⟩
      · exact ⟨true, by rw [call, called]⟩
  | restoreAsPath =>
      obtain ⟨_, called, -⟩ := restoreAsPath_of_wellTyped typed
      exact ⟨true, by rw [call, called]⟩
  | downgradeAsPath =>
      obtain ⟨_, called, -⟩ := downgradeAsPath_of_wellTyped typed
      exact ⟨true, by rw [call, called]⟩
  | restoreAggregator =>
      obtain ⟨_, called, -⟩ := restoreAggregator_wellTyped typed
      exact ⟨true, by rw [call, called]⟩
  | downgradeAggregator =>
      obtain ⟨_, called, -⟩ := downgradeAggregator_wellTyped typed
      exact ⟨true, by rw [call, called]⟩
  | addAttrib _ | dropAttrib _ | dropNonTransitive | updateAttribute _ | setNextHop _
  | setAttribs _ => exact ⟨_, rfl⟩

end AttribEdit

theorem applyAll_wellTyped (edits : List AttribEdit) {attrs : List BgpPathAttrib}
    (typed : WellTyped attrs) (supplied : ∀ edit ∈ edits, edit.Supplied) :
    WellTyped (applyAll edits attrs) := by
  induction edits generalizing attrs with
  | nil => exact typed
  | cons edit rest ih =>
      exact ih (edit.apply_wellTyped (supplied edit (List.mem_cons_self _ _)) typed)
        (fun later member => supplied later (List.mem_cons_of_mem _ member))

/-- From a well-typed list, along any sequence of calls that hand over
well-typed attributes, the list stays well typed and no such call throws.
The fresh AS_PATH of `prepend` counts among what it hands over: one
allocated over AS4_PATH's type code makes two-octet `prepend` throw. -/
theorem no_call_throws_along_edits (edits : List AttribEdit) (attrs : List BgpPathAttrib)
    (typed : WellTyped attrs) (supplied : ∀ edit ∈ edits, edit.Supplied) :
    WellTyped (applyAll edits attrs) ∧
      (∀ edit : AttribEdit, edit.Supplied ->
        ∃ value, (edit.call (applyAll edits attrs)).ret = .returns value) ∧
      ∀ (unset : UnsetHeader) (asn : UInt32) (attrs' : List BgpPathAttrib),
        hasAttrib asPath attrs' = false -> hasAttrib as4Path attrs' = false ->
        unset.typeCode = as4Path ->
        ((AttribEdit.prepend unset false asn).call attrs').ret = .throws .badCast :=
  ⟨applyAll_wellTyped edits typed supplied,
    AttribEdit.call_returns (applyAll_wellTyped edits typed supplied),
    fun unset asn _ noPath noPath4 code4 => by
      rw [AttribEdit.call, prepend_throws_of_fresh_as4Path unset asn noPath noPath4 code4]⟩

/-- A four-octet path taken to a two-octet peer, prepended there over zeroed
memory, restored, and given a new NEXT_HOP. -/
theorem no_call_throws_through_translation :
    let attrs := [BgpPathAttribOrigin.newWithLogger igp,
      setAsPath true [⟨true, asSequence, [70000, 1]⟩] (BgpPathAttribAsPath.newWithLogger true),
      BgpPathAttribNexthop.new 1]
    let edits := [AttribEdit.downgradeAsPath, .prepend ⟨false, false, false, false, 0⟩ false 70000,
      .restoreAsPath, .setNextHop 2]
    (WellTyped attrs ∧ ∀ edit ∈ edits, edit.Supplied) ∧
      WellTyped (applyAll edits attrs) ∧
        (∀ edit : AttribEdit, edit.Supplied ->
          ∃ value, (edit.call (applyAll edits attrs)).ret = .returns value) ∧
        ∀ (unset : UnsetHeader) (asn : UInt32) (attrs' : List BgpPathAttrib),
          hasAttrib asPath attrs' = false -> hasAttrib as4Path attrs' = false ->
          unset.typeCode = as4Path ->
          ((AttribEdit.prepend unset false asn).call attrs').ret = .throws .badCast :=
  ⟨by decide, no_call_throws_along_edits _ _ (by decide) (by decide)⟩

/-- On a well-typed list the four RFC 6793 translations return `true`. -/
theorem translations_return_true {attrs : List BgpPathAttrib} (typed : WellTyped attrs) :
    (restoreAsPath attrs).ret = .returns true ∧ (downgradeAsPath attrs).ret = .returns true ∧
      (restoreAggregator attrs).ret = .returns true ∧ (downgradeAggregator attrs).ret = .returns true := by
  obtain ⟨_, restored, -⟩ := restoreAsPath_of_wellTyped typed
  obtain ⟨_, downgraded, -⟩ := downgradeAsPath_of_wellTyped typed
  obtain ⟨_, restored4, -⟩ := restoreAggregator_wellTyped typed
  obtain ⟨_, downgraded4, -⟩ := downgradeAggregator_wellTyped typed
  simp [restored, downgraded, restored4, downgraded4]

/-- A two-octet UPDATE with its AS4_PATH and AS4_AGGREGATOR. -/
theorem translations_return_true_on_two_octet_update :
    let attrs := [BgpPathAttribOrigin.newWithLogger igp,
      setAsPath false [⟨false, asSequence, [23456, 1]⟩] (BgpPathAttribAsPath.newWithLogger false),
      BgpPathAttribAs4Path.new [⟨true, asSequence, [70000, 1]⟩],
      optionalTransitive aggreator (.aggregator false 3 23456), BgpPathAttribAs4Aggregator.new 3 70000]
    WellTyped attrs ∧
      ((restoreAsPath attrs).ret = .returns true ∧ (downgradeAsPath attrs).ret = .returns true ∧
        (restoreAggregator attrs).ret = .returns true ∧ (downgradeAggregator attrs).ret = .returns true) :=
  ⟨by decide, translations_return_true (by decide)⟩

end BgpUpdateMessage
end Libbgp
