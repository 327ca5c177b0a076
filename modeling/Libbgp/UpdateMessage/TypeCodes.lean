import Libbgp.UpdateMessage.Attribs

namespace Libbgp
namespace BgpUpdateMessage

open BgpPathAttribType

/-!
# Type codes stay distinct

RFC 4271 allows each attribute type at most once in an UPDATE, and the code
relies on it: `getAttrib(type)` returns the first attribute of a type code,
and a method that edits "the" AS_PATH edits that one.  Each mutator of
`path_attribute` but one keeps the type codes distinct when they were,
whether it returns `true`, `false` or throws: its edits are in-place changes
that keep the type code, erasures of the first attribute of a type, and
appends of an attribute whose type code was absent (`addAttrib` checks it).

`prepend` adds an AS_PATH when there is none, built by
`BgpPathAttribAsPath(bool)`, which sets no type code: the fresh attribute
carries whatever code its allocation held.  Along any sequence of mutators
whose fresh paths hold AS_PATH's code the first attribute of a type code is
the only one; a fresh path that holds a code already in the list makes two
attributes share it.
-/

/-- No type code occurs twice. -/
def TypeCodesDistinct (attrs : List BgpPathAttrib) : Prop :=
  (attrs.map (·.typeCode)).Nodup

instance (attrs : List BgpPathAttrib) : Decidable (TypeCodesDistinct attrs) :=
  inferInstanceAs (Decidable (List.Nodup _))

namespace TypeCodesDistinct

variable {attrs : List BgpPathAttrib}

theorem sublist {smaller : List BgpPathAttrib} (distinct : TypeCodesDistinct attrs)
    (within : smaller.Sublist attrs) : TypeCodesDistinct smaller :=
  List.Nodup.sublist (within.map _) distinct

theorem modify (distinct : TypeCodesDistinct attrs) (type : UInt8)
    {edit : BgpPathAttrib -> BgpPathAttrib} (keeps : forall attr, (edit attr).typeCode = attr.typeCode) :
    TypeCodesDistinct (modifyAttrib type edit attrs) := by
  unfold TypeCodesDistinct
  rwa [modifyAttrib_typeCodes type keeps]

theorem push_iff {attrib : BgpPathAttrib} :
    TypeCodesDistinct (attrs ++ [attrib]) ↔
      TypeCodesDistinct attrs ∧ hasAttrib attrib.typeCode attrs = false := by
  unfold TypeCodesDistinct
  simp [List.nodup_append, List.disjoint_singleton, hasAttrib]

theorem push (distinct : TypeCodesDistinct attrs) {attrib : BgpPathAttrib}
    (fresh : hasAttrib attrib.typeCode attrs = false) : TypeCodesDistinct (attrs ++ [attrib]) :=
  push_iff.2 ⟨distinct, fresh⟩

end TypeCodesDistinct

/-! ## One lemma per mutator -/

section Mutators

variable {attrs : List BgpPathAttrib} (distinct : TypeCodesDistinct attrs)
include distinct

theorem addAttrib_distinct (attrib : BgpPathAttrib) :
    TypeCodesDistinct (addAttrib attrib attrs).2 := by
  unfold addAttrib
  split
  · exact distinct
  · exact distinct.push (Bool.eq_false_iff.mpr ‹_›)

theorem dropAttrib_distinct (type : UInt8) : TypeCodesDistinct (dropAttrib type attrs).2 :=
  distinct.sublist (List.eraseP_sublist _)

theorem dropNonTransitive_distinct : TypeCodesDistinct (dropNonTransitive attrs).2 := by
  rw [dropNonTransitive_attribs]
  exact distinct.sublist (List.filter_sublist _)

theorem updateAttribute_distinct (attrib : BgpPathAttrib) :
    TypeCodesDistinct (updateAttribute attrib attrs).2 :=
  addAttrib_distinct (dropAttrib_distinct distinct _) _

theorem setNextHop_distinct (nextHop : UInt32) : TypeCodesDistinct (setNextHop nextHop attrs).2 :=
  updateAttribute_distinct distinct _

theorem prependAs4Path_distinct (prepAsn : UInt32) :
    TypeCodesDistinct (prependAs4Path prepAsn attrs).attribs := by
  unfold prependAs4Path
  repeat' split
  all_goals first | exact distinct | exact distinct.modify _ (fun _ => rfl)

section Fresh

variable {unset : UnsetHeader} (coded : unset.typeCode = asPath)
include coded

theorem prependAsPath_distinct {use4bAsn : Bool} {asn : UInt32} {attrs' : List BgpPathAttrib}
    (prepended : prependAsPath unset use4bAsn asn attrs = .ok (some attrs')) :
    TypeCodesDistinct attrs' := by
  unfold prependAsPath at prepended
  split at prepended
  · cases prepended
    exact distinct.push (show hasAttrib unset.typeCode attrs = false from
      coded ▸ hasAttrib_eq_false ‹_›)
  · repeat' split at prepended
    all_goals cases prepended
    exact distinct.modify _ (fun _ => rfl)

theorem prepend_distinct (use4bAsn : Bool) (asn : UInt32) :
    TypeCodesDistinct (prepend unset use4bAsn asn attrs).attribs := by
  unfold prepend
  dsimp only
  repeat' split
  all_goals first
    | exact distinct
    | exact prependAsPath_distinct distinct coded ‹_›
    | exact prependAs4Path_distinct (prependAsPath_distinct distinct coded ‹_›) _

end Fresh

theorem restoreAsPath_distinct : TypeCodesDistinct (restoreAsPath attrs).attribs := by
  have dropped := dropAttrib_distinct distinct as4Path
  unfold restoreAsPath
  dsimp only
  repeat' split
  all_goals first
    | exact distinct
    | exact dropped
    | exact distinct.modify _ (fun _ => rfl)
    | exact dropped.modify _ (fun _ => rfl)

theorem downgradeAsPath_distinct : TypeCodesDistinct (downgradeAsPath attrs).attribs := by
  unfold downgradeAsPath
  dsimp only
  repeat' split
  all_goals first
    | exact distinct
    | exact (updateAttribute_distinct distinct _).modify _ (fun _ => rfl)

theorem restoreAggregator_distinct : TypeCodesDistinct (restoreAggregator attrs).attribs := by
  unfold restoreAggregator
  dsimp only
  repeat' split
  all_goals first
    | exact distinct
    | exact distinct.modify _ (fun _ => by rfl)
    | exact (distinct.modify _ (fun _ => by rfl)).modify _ (fun _ => by rfl)

theorem downgradeAggregator_distinct : TypeCodesDistinct (downgradeAggregator attrs).attribs := by
  unfold downgradeAggregator
  dsimp only
  repeat' split
  all_goals first
    | exact distinct
    | exact (updateAttribute_distinct (distinct.modify _ (fun _ => by rfl)) _).modify _
        (fun _ => by rfl)

end Mutators

/-! ## `dropAttrib` and `updateAttribute` on distinct type codes -/

theorem hasAttrib_dropAttrib_of_distinct {attrs : List BgpPathAttrib} (distinct : TypeCodesDistinct attrs)
    (type : UInt8) : hasAttrib type (dropAttrib type attrs).2 = false := by
  induction attrs with
  | nil => rfl
  | cons attr rest ih =>
      have fresh : attr.typeCode ∉ rest.map (·.typeCode) := (List.nodup_cons.1 distinct).1
      by_cases found : attr.typeCode = type
      · subst found
        simpa [dropAttrib, hasAttrib] using fresh
      · simpa [dropAttrib, hasAttrib, found] using ih (List.nodup_cons.1 distinct).2

theorem getAttrib_dropAttrib_ne {type type' : UInt8} (other : type ≠ type') (attrs : List BgpPathAttrib) :
    getAttrib type (dropAttrib type' attrs).2 = getAttrib type attrs := by
  induction attrs with
  | nil => rfl
  | cons attr rest ih =>
      simp only [dropAttrib, getAttrib] at ih ⊢
      by_cases found : attr.typeCode = type'
      · have notType : (attr.typeCode == type) = false := by
          simpa [found] using Ne.symm other
        rw [List.find?_cons, notType]
        simp [found, List.eraseP_cons]
      · simp [List.eraseP_cons, found, List.find?_cons, ih]

theorem getAttrib_append_of_ne {type : UInt8} {attrib : BgpPathAttrib} (other : attrib.typeCode ≠ type)
    (attrs : List BgpPathAttrib) : getAttrib type (attrs ++ [attrib]) = getAttrib type attrs := by
  have skipped : (attrib.typeCode == type) = false := by simpa using other
  simp only [getAttrib, List.find?_append, List.find?_cons, skipped, List.find?_nil, Option.or_none]

theorem getAttrib_updateAttribute_ne {type : UInt8} {attrib : BgpPathAttrib}
    (other : attrib.typeCode ≠ type) (attrs : List BgpPathAttrib) :
    getAttrib type (updateAttribute attrib attrs).2 = getAttrib type attrs := by
  unfold updateAttribute addAttrib
  split
  · exact getAttrib_dropAttrib_ne (Ne.symm other) attrs
  · exact (getAttrib_append_of_ne other _).trans (getAttrib_dropAttrib_ne (Ne.symm other) attrs)

/-- On distinct type codes `updateAttribute(attrib)` returns `true`; then
`getAttrib` finds `attrib` under its type code, and under every other type
code what it found before. -/
theorem updateAttribute_replaces {attrs : List BgpPathAttrib} (distinct : TypeCodesDistinct attrs)
    (attrib : BgpPathAttrib) :
    (updateAttribute attrib attrs).1 = true ∧
      getAttrib attrib.typeCode (updateAttribute attrib attrs).2 = some attrib ∧
      ∀ type, type ≠ attrib.typeCode ->
        getAttrib type (updateAttribute attrib attrs).2 = getAttrib type attrs := by
  have missing := hasAttrib_dropAttrib_of_distinct distinct attrib.typeCode
  have updated : updateAttribute attrib attrs = (true, (dropAttrib attrib.typeCode attrs).2 ++ [attrib]) := by
    simp [updateAttribute, addAttrib, missing]
  rw [updated]
  exact ⟨rfl, getAttrib_append_of_missing missing, fun type other =>
    (getAttrib_append_of_ne (Ne.symm other) _).trans (getAttrib_dropAttrib_ne other attrs)⟩

/-- A NEXT_HOP replaced next to an ORIGIN. -/
theorem updateAttribute_replaces_nexthop :
    let attrs := [BgpPathAttribOrigin.newWithLogger igp, BgpPathAttribNexthop.new 1]
    TypeCodesDistinct attrs ∧
      ((updateAttribute (BgpPathAttribNexthop.new 2) attrs).1 = true ∧
        getAttrib (BgpPathAttribNexthop.new 2).typeCode (updateAttribute (BgpPathAttribNexthop.new 2) attrs).2 =
          some (BgpPathAttribNexthop.new 2) ∧
        ∀ type, type ≠ (BgpPathAttribNexthop.new 2).typeCode ->
          getAttrib type (updateAttribute (BgpPathAttribNexthop.new 2) attrs).2 = getAttrib type attrs) :=
  ⟨by decide, updateAttribute_replaces (by decide) _⟩

/-! ## Along any sequence of mutators -/

/-- A call of one of the mutators of `path_attribute`, with its arguments. -/
inductive AttribEdit where
  | addAttrib (attrib : BgpPathAttrib)
  | dropAttrib (type : UInt8)
  | dropNonTransitive
  | updateAttribute (attrib : BgpPathAttrib)
  | setNextHop (nextHop : UInt32)
  | prepend (unset : UnsetHeader) (use4bAsn : Bool) (asn : UInt32)
  | restoreAsPath
  | downgradeAsPath
  | restoreAggregator
  | downgradeAggregator
  | setAttribs (given : List BgpPathAttrib)
  deriving DecidableEq, Repr

namespace AttribEdit

/-- The attribute list a call leaves, whatever it returns or throws. -/
def apply : AttribEdit -> List BgpPathAttrib -> List BgpPathAttrib
  | .addAttrib attrib, attrs => (BgpUpdateMessage.addAttrib attrib attrs).2
  | .dropAttrib type, attrs => (BgpUpdateMessage.dropAttrib type attrs).2
  | .dropNonTransitive, attrs => (BgpUpdateMessage.dropNonTransitive attrs).2
  | .updateAttribute attrib, attrs => (BgpUpdateMessage.updateAttribute attrib attrs).2
  | .setNextHop nextHop, attrs => (BgpUpdateMessage.setNextHop nextHop attrs).2
  | .prepend unset use4bAsn asn, attrs =>
      (BgpUpdateMessage.prepend unset use4bAsn asn attrs).attribs
  | .restoreAsPath, attrs => (BgpUpdateMessage.restoreAsPath attrs).attribs
  | .downgradeAsPath, attrs => (BgpUpdateMessage.downgradeAsPath attrs).attribs
  | .restoreAggregator, attrs => (BgpUpdateMessage.restoreAggregator attrs).attribs
  | .downgradeAggregator, attrs => (BgpUpdateMessage.downgradeAggregator attrs).attribs
  | .setAttribs given, attrs => (BgpUpdateMessage.setAttribs given attrs).2

/-- `setAttribs` is given a list whose type codes are distinct, and the
fresh AS_PATH of `prepend` is allocated over AS_PATH's type code. -/
def Admissible : AttribEdit -> Prop
  | .setAttribs given => TypeCodesDistinct given
  | .prepend unset _ _ => unset.typeCode = asPath
  | _ => True

instance : DecidablePred Admissible := fun edit =>
  match edit with
  | .setAttribs given => inferInstanceAs (Decidable (TypeCodesDistinct given))
  | .prepend unset _ _ => inferInstanceAs (Decidable (unset.typeCode = asPath))
  | .addAttrib _ | .dropAttrib _ | .dropNonTransitive | .updateAttribute _ | .setNextHop _
  | .restoreAsPath | .downgradeAsPath | .restoreAggregator
  | .downgradeAggregator => isTrue trivial

theorem apply_distinct {attrs : List BgpPathAttrib} (edit : AttribEdit)
    (admissible : edit.Admissible) (distinct : TypeCodesDistinct attrs) :
    TypeCodesDistinct (edit.apply attrs) := by
  cases edit with
  | addAttrib attrib => exact addAttrib_distinct distinct attrib
  | dropAttrib type => exact dropAttrib_distinct distinct type
  | dropNonTransitive => exact dropNonTransitive_distinct distinct
  | updateAttribute attrib => exact updateAttribute_distinct distinct attrib
  | setNextHop nextHop => exact setNextHop_distinct distinct nextHop
  | prepend _ use4bAsn asn => exact prepend_distinct distinct admissible use4bAsn asn
  | restoreAsPath => exact restoreAsPath_distinct distinct
  | downgradeAsPath => exact downgradeAsPath_distinct distinct
  | restoreAggregator => exact restoreAggregator_distinct distinct
  | downgradeAggregator => exact downgradeAggregator_distinct distinct
  | setAttribs _ => exact admissible

end AttribEdit

/-- The list after the calls `edits`, in order. -/
def applyAll (edits : List AttribEdit) (attrs : List BgpPathAttrib) : List BgpPathAttrib :=
  edits.foldl (fun current edit => edit.apply current) attrs

theorem applyAll_distinct (edits : List AttribEdit) {attrs : List BgpPathAttrib}
    (distinct : TypeCodesDistinct attrs) (admissible : ∀ edit ∈ edits, edit.Admissible) :
    TypeCodesDistinct (applyAll edits attrs) := by
  induction edits generalizing attrs with
  | nil => exact distinct
  | cons edit rest ih =>
      exact ih (edit.apply_distinct (admissible edit (List.mem_cons_self _ _)) distinct)
        (fun later member => admissible later (List.mem_cons_of_mem _ member))

theorem getAttrib_of_distinct {attrs : List BgpPathAttrib} (distinct : TypeCodesDistinct attrs)
    {attr : BgpPathAttrib} (member : attr ∈ attrs) : getAttrib attr.typeCode attrs = some attr := by
  obtain ⟨found, foundEq⟩ : exists found, getAttrib attr.typeCode attrs = some found :=
    Option.isSome_iff_exists.mp (List.find?_isSome.mpr ⟨attr, member, by simp⟩)
  have sameType : found.typeCode = attr.typeCode := by simpa using List.find?_some foundEq
  rw [foundEq, List.inj_on_of_nodup_map distinct (List.mem_of_find?_eq_some foundEq) member sameType]

/-- Along any sequence of admissible calls from a list whose type codes are
distinct, they stay distinct, and `getAttrib` of an attribute's type code
finds that attribute. -/
theorem typeCodes_distinct_along_edits (edits : List AttribEdit) (attrs : List BgpPathAttrib)
    (distinct : TypeCodesDistinct attrs) (admissible : ∀ edit ∈ edits, edit.Admissible) :
    TypeCodesDistinct (applyAll edits attrs) ∧
      ∀ attr ∈ applyAll edits attrs,
        getAttrib attr.typeCode (applyAll edits attrs) = some attr :=
  ⟨applyAll_distinct edits distinct admissible,
    fun _ member => getAttrib_of_distinct (applyAll_distinct edits distinct admissible) member⟩

/-! ## The fresh AS_PATH of `prepend` -/

/-- On a list with no AS_PATH and no AS4_PATH, `prepend` appends the fresh
AS_PATH and returns `true`, unless two-octet mode then finds the fresh path
under the AS4_PATH type code. -/
theorem prepend_of_no_paths (unset : UnsetHeader) (use4bAsn : Bool) (asn : UInt32)
    {attrs : List BgpPathAttrib} (noPath : hasAttrib asPath attrs = false)
    (noPath4 : hasAttrib as4Path attrs = false) (notCode4 : unset.typeCode ≠ as4Path) :
    prepend unset use4bAsn asn attrs = ⟨.returns true,
      attrs ++ [freshAsPath unset use4bAsn (if use4bAsn then asn else mapAsTrans asn)]⟩ := by
  have appended : ∀ asn', prependAsPath unset use4bAsn asn' attrs =
      .ok (some (attrs ++ [freshAsPath unset use4bAsn asn'])) := by
    simp [prependAsPath, getAttrib_eq_none noPath]
  cases use4bAsn
  case true => simp [prepend, noPath4, appended]
  case false =>
    have skipped : getAttrib as4Path (attrs ++ [freshAsPath unset false (mapAsTrans asn)]) = none :=
      (getAttrib_append_of_ne notCode4 attrs).trans (getAttrib_eq_none noPath4)
    simp [prepend, appended, prependAs4Path, skipped]

/-- `BgpPathAttribAsPath(bool)` sets no type code, so the AS_PATH that
`prepend` adds to a list without one carries the code its allocation held.
When that code is already in the list, `prepend` returns `true` and leaves
two attributes of that code, in either mode. -/
theorem prepend_repeats_unset_type_code (unset : UnsetHeader) (use4bAsn : Bool) (asn : UInt32)
    {attrs : List BgpPathAttrib} (noPath : hasAttrib asPath attrs = false)
    (noPath4 : hasAttrib as4Path attrs = false) (taken : hasAttrib unset.typeCode attrs = true) :
    (prepend unset use4bAsn asn attrs).ret = .returns true ∧
      ¬TypeCodesDistinct (prepend unset use4bAsn asn attrs).attribs := by
  have notCode4 : unset.typeCode ≠ as4Path := fun code4 => by
    rw [code4, noPath4] at taken
    cases taken
  rw [prepend_of_no_paths unset use4bAsn asn noPath noPath4 notCode4]
  exact ⟨rfl, fun distinct => Bool.false_ne_true
    ((TypeCodesDistinct.push_iff.1 distinct).2.symm.trans taken)⟩

/-- An ORIGIN alone, and a fresh AS_PATH allocated over ORIGIN's type code. -/
theorem prepend_repeats_origin_code :
    let unset : UnsetHeader := ⟨false, false, false, false, origin⟩
    let attrs := [BgpPathAttribOrigin.newWithLogger igp]
    TypeCodesDistinct attrs ∧
      (hasAttrib asPath attrs = false ∧ hasAttrib as4Path attrs = false ∧
        hasAttrib unset.typeCode attrs = true) ∧
      (prepend unset true 5 attrs).ret = .returns true ∧
        ¬TypeCodesDistinct (prepend unset true 5 attrs).attribs :=
  ⟨by decide, ⟨rfl, rfl, rfl⟩, prepend_repeats_unset_type_code _ true 5 rfl rfl rfl⟩

/-- Two prepends on an empty list, each path allocated over zeroed memory:
neither finds an AS_PATH, and both paths carry type code 0. -/
example : let zeroed : UnsetHeader := ⟨false, false, false, false, 0⟩
    (prepend zeroed true 6 (prepend zeroed true 5 []).attribs).attribs.map (·.typeCode) = [0, 0] := by
  decide

end BgpUpdateMessage
end Libbgp
