import Libbgp.UpdateMessage.TypeCodes

namespace Libbgp
namespace BgpUpdateMessage

open BgpPathAttribType

/-!
# What each mutator leaves alone

Each mutator of `path_attribute` works on the attributes of a few type
codes: `setNextHop` on NEXT_HOP, `prepend` and the two AS_PATH translations
on AS_PATH and AS4_PATH (`prepend` also on the type code its fresh AS_PATH
was allocated with), `downgradeAggregator` on AGGREGATOR and
AS4_AGGREGATOR, and `restoreAggregator` on AGGREGATOR alone: it reads the
AS4_AGGREGATOR but leaves it in the list.  Its edits are in-place changes through `getAttrib` that
keep the type code, erasures of the first attribute of a type code, and
appends, each of an attribute of its own type codes.  So `getAttrib` of any
other type code finds after the call what it found before, whether the call
returns `true`, `false` or throws, and on any list, distinct type codes or
not.  `AttribEdit.footprint` names those type codes; along any sequence of
calls an attribute of a type code outside every call's footprint is the one
the list had at the start.
-/

namespace AttribEdit

/-- The type codes whose attribute a call may change.  `dropNonTransitive`
may drop any attribute and `setAttribs` replaces the list, so their
footprint is every type code. -/
def footprint : AttribEdit -> UInt8 -> Bool
  | .addAttrib attrib, type | .updateAttribute attrib, type => type == attrib.typeCode
  | .dropAttrib type', type => type == type'
  | .dropNonTransitive, _ | .setAttribs _, _ => true
  | .setNextHop _, type => type == nextHop
  | .prepend unset .., type => type == asPath || type == as4Path || type == unset.typeCode
  | .restoreAsPath, type | .downgradeAsPath, type => type == asPath || type == as4Path
  | .restoreAggregator, type => type == aggreator
  | .downgradeAggregator, type => type == aggreator || type == as4Aggregator

end AttribEdit

/-! ## One lemma per mutator -/

section Mutators

variable {type : UInt8} {attrs : List BgpPathAttrib}

theorem getAttrib_addAttrib_ne {attrib : BgpPathAttrib} (other : attrib.typeCode ≠ type) :
    getAttrib type (addAttrib attrib attrs).2 = getAttrib type attrs := by
  unfold addAttrib
  split
  · rfl
  · exact getAttrib_append_of_ne other attrs

section Paths

variable (notPath : type ≠ asPath) (notPath4 : type ≠ as4Path)
include notPath notPath4

theorem getAttrib_prepend_ne {unset : UnsetHeader} (notFresh : type ≠ unset.typeCode)
    (use4bAsn : Bool) (asn : UInt32) :
    getAttrib type (prepend unset use4bAsn asn attrs).attribs = getAttrib type attrs := by
  have pathStep : ∀ {use4bAsn asn attrs'}, prependAsPath unset use4bAsn asn attrs = .ok (some attrs') ->
      getAttrib type attrs' = getAttrib type attrs := by
    intro use4bAsn asn attrs' stepped
    unfold prependAsPath at stepped
    repeat' split at stepped
    all_goals cases stepped
    · exact getAttrib_append_of_ne (Ne.symm notFresh) attrs
    · exact getAttrib_modifyAttrib_ne (setAsPath_typeCode _ _) (Ne.symm notPath) attrs
  unfold prepend
  split
  · split
    · rfl
    · split
      · rfl
      · rfl
      · exact pathStep ‹_›
  · dsimp only
    split
    · rfl
    · rfl
    · rename_i attrs' stepped
      rw [← pathStep stepped]
      unfold prependAs4Path
      repeat' split
      all_goals first
        | rfl
        | exact getAttrib_modifyAttrib_ne (setAs4Path_typeCode _) (Ne.symm notPath4) attrs'

theorem getAttrib_restoreAsPath_ne :
    getAttrib type (restoreAsPath attrs).attribs = getAttrib type attrs := by
  have dropped := getAttrib_dropAttrib_ne notPath4 attrs
  unfold restoreAsPath
  repeat' split
  all_goals first
    | rfl
    | exact dropped
    | exact getAttrib_modifyAttrib_ne (setAsPath_typeCode _ _) (Ne.symm notPath) attrs
    | exact (getAttrib_modifyAttrib_ne (setAsPath_typeCode _ _) (Ne.symm notPath) _).trans dropped

theorem getAttrib_downgradeAsPath_ne :
    getAttrib type (downgradeAsPath attrs).attribs = getAttrib type attrs := by
  unfold downgradeAsPath
  repeat' split
  all_goals first
    | rfl
    | exact (getAttrib_modifyAttrib_ne (setAsPath_typeCode _ _) (Ne.symm notPath) _).trans
        (getAttrib_updateAttribute_ne (Ne.symm notPath4) attrs)

end Paths

section Aggregators

variable (notAggr : type ≠ aggreator)
include notAggr

theorem getAttrib_restoreAggregator_ne :
    getAttrib type (restoreAggregator attrs).attribs = getAttrib type attrs := by
  have marked : ∀ {is4b aggregator asn}, getAttrib type
      (modifyAttrib aggreator (setAggregator is4b aggregator asn) attrs) = getAttrib type attrs :=
    getAttrib_modifyAttrib_ne (setAggregator_typeCode _ _ _) (Ne.symm notAggr) attrs
  unfold restoreAggregator
  dsimp only
  repeat' split
  all_goals first
    | rfl
    | exact marked
    | exact (getAttrib_modifyAttrib_ne (setAggregator_typeCode _ _ _) (Ne.symm notAggr) _).trans marked

theorem getAttrib_downgradeAggregator_ne (notAggr4 : type ≠ as4Aggregator) :
    getAttrib type (downgradeAggregator attrs).attribs = getAttrib type attrs := by
  unfold downgradeAggregator
  repeat' split
  all_goals first
    | rfl
    | exact ((getAttrib_modifyAttrib_ne (setAggregator_typeCode _ _ _) (Ne.symm notAggr) _).trans
        (getAttrib_updateAttribute_ne (Ne.symm notAggr4) _)).trans
        (getAttrib_modifyAttrib_ne (setAggregator_typeCode _ _ _) (Ne.symm notAggr) attrs)

end Aggregators

end Mutators

/-! ## Every call, and every sequence of calls -/

theorem ne_of_footprint_pair {type first second : UInt8}
    (outside : (type == first || type == second) = false) : type ≠ first ∧ type ≠ second := by
  simpa only [Bool.or_eq_false_iff, beq_eq_false_iff_ne] using outside

/-- A call leaves `getAttrib` of every type code outside its footprint as it
was. -/
theorem getAttrib_apply_of_footprint {type : UInt8} (edit : AttribEdit) (attrs : List BgpPathAttrib)
    (outside : edit.footprint type = false) :
    getAttrib type (edit.apply attrs) = getAttrib type attrs := by
  cases edit with
  | addAttrib attrib => exact getAttrib_addAttrib_ne (Ne.symm (beq_eq_false_iff_ne.1 outside))
  | dropAttrib type' => exact getAttrib_dropAttrib_ne (beq_eq_false_iff_ne.1 outside) attrs
  | dropNonTransitive | setAttribs _ => cases outside
  | updateAttribute attrib =>
    exact getAttrib_updateAttribute_ne (Ne.symm (beq_eq_false_iff_ne.1 outside)) attrs
  | setNextHop nextHop =>
    exact getAttrib_updateAttribute_ne (Ne.symm (beq_eq_false_iff_ne.1 outside)) attrs
  | prepend unset use4bAsn asn =>
    obtain ⟨paths, fresh⟩ := Bool.or_eq_false_iff.1 outside
    obtain ⟨notPath, notPath4⟩ := ne_of_footprint_pair paths
    exact getAttrib_prepend_ne notPath notPath4 (beq_eq_false_iff_ne.1 fresh) use4bAsn asn
  | restoreAsPath =>
    obtain ⟨notPath, notPath4⟩ := ne_of_footprint_pair outside
    exact getAttrib_restoreAsPath_ne notPath notPath4
  | downgradeAsPath =>
    obtain ⟨notPath, notPath4⟩ := ne_of_footprint_pair outside
    exact getAttrib_downgradeAsPath_ne notPath notPath4
  | restoreAggregator => exact getAttrib_restoreAggregator_ne (beq_eq_false_iff_ne.1 outside)
  | downgradeAggregator =>
    obtain ⟨notAggr, notAggr4⟩ := ne_of_footprint_pair outside
    exact getAttrib_downgradeAggregator_ne notAggr notAggr4

/-- Along any sequence of calls, from any list, an attribute of a type code
that no call has in its footprint is the one the list had at the start (or
still none): the translations never touch NEXT_HOP, ORIGIN or COMMUNITY,
nor does `prepend` when its fresh AS_PATH was allocated over another code,
and `setNextHop` never touches a path. -/
theorem getAttrib_applyAll_of_footprint (edits : List AttribEdit) (attrs : List BgpPathAttrib)
    {type : UInt8} (outside : ∀ edit ∈ edits, edit.footprint type = false) :
    getAttrib type (applyAll edits attrs) = getAttrib type attrs := by
  induction edits generalizing attrs with
  | nil => rfl
  | cons edit rest ih =>
    rw [applyAll, List.foldl_cons, ← applyAll,
      ih _ fun later member => outside later (List.mem_cons_of_mem _ member)]
    exact getAttrib_apply_of_footprint edit attrs (outside edit (List.mem_cons_self _ _))

/-- The four-octet path of a message taken to a two-octet peer, prepended
there over zeroed memory and restored, next to an ORIGIN: the ORIGIN is
untouched. -/
theorem origin_kept_through_translation :
    let attrs := [BgpPathAttribOrigin.newWithLogger igp,
      setAsPath true [⟨true, asSequence, [70000, 1]⟩] (BgpPathAttribAsPath.newWithLogger true)]
    let edits := [AttribEdit.downgradeAsPath, .prepend ⟨false, false, false, false, 0⟩ false 70000,
      .restoreAsPath, .downgradeAggregator]
    (∀ edit ∈ edits, edit.footprint origin = false) ∧
      getAttrib origin (applyAll edits attrs) = getAttrib origin attrs :=
  ⟨by decide, getAttrib_applyAll_of_footprint _ _ (by decide)⟩

end BgpUpdateMessage
end Libbgp
