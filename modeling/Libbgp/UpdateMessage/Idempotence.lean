import Libbgp.UpdateMessage.PrependDowngrade

namespace Libbgp
namespace BgpUpdateMessage

open BgpPathAttribType

/-!
# Calling a translation twice

A message may pass through the translation methods more than once, as when
one received UPDATE is sent on to several peers.  On a well-typed list
`restoreAsPath`, `downgradeAsPath` and `restoreAggregator` do nothing the
second time: the first call leaves an AS_PATH of the width the method makes,
which the second call leaves alone, and `restoreAggregator` takes the same
members from the same AS4_AGGREGATOR again.

`downgradeAggregator` is different.  It records the AGGREGATOR's address and
ASN in a fresh AS4_AGGREGATOR before it maps the ASN to `AS_TRANS`; called
again, it records the mapped ASN.  So the second call changes the message
exactly when the ASN is `0xffff` or above, and then the four-octet ASN is
lost.
-/

section Twice

variable {attrs : List BgpPathAttrib}

theorem restoreAsPath_of_not_twoOctet (typed : WellTyped attrs) (wide : ¬AsPathOfWidth false attrs) :
    restoreAsPath attrs = ⟨.returns true, attrs⟩ := by
  unfold restoreAsPath
  rcases found : getAttrib asPath attrs with _ | path
  · rfl
  obtain ⟨pathTyped, code⟩ := typed.found found
  obtain ⟨is4b, segs, body, -⟩ := pathTyped.asPath_body code
  cases is4b
  case false => exact absurd ⟨path, segs, found, body⟩ wide
  case true => simp [asPathMembers, body]

theorem downgradeAsPath_of_not_fourOctet (typed : WellTyped attrs) (narrow : ¬AsPathOfWidth true attrs) :
    downgradeAsPath attrs = ⟨.returns true, attrs⟩ := by
  unfold downgradeAsPath
  rcases found : getAttrib asPath attrs with _ | path
  · rfl
  obtain ⟨pathTyped, code⟩ := typed.found found
  obtain ⟨is4b, segs, body, -⟩ := pathTyped.asPath_body code
  cases is4b
  case true => exact absurd ⟨path, segs, found, body⟩ narrow
  case false => simp [asPathMembers, body]

theorem restoreAggregator_of_missing {aggr : BgpPathAttrib} {is4b : Bool} {aggregator asn : UInt32}
    (found : getAttrib aggreator attrs = some aggr) (body : aggr.body = .aggregator is4b aggregator asn)
    (missing : getAttrib as4Aggregator attrs = none) :
    restoreAggregator attrs =
      ⟨.returns true, modifyAttrib aggreator (setAggregator true aggregator asn) attrs⟩ := by
  simp only [restoreAggregator, found, aggregatorMembers, body,
    getAttrib_modifyAttrib_ne (setAggregator_typeCode true aggregator asn)
      (show aggreator ≠ as4Aggregator by decide), missing]

theorem restoreAggregator_restoreAggregator (typed : WellTyped attrs) :
    restoreAggregator (restoreAggregator attrs).attribs = restoreAggregator attrs := by
  rcases found : getAttrib aggreator attrs with _ | aggr
  · have unchanged : restoreAggregator attrs = ⟨.returns true, attrs⟩ := by
      simp [restoreAggregator, found]
    rw [unchanged]
    exact unchanged
  obtain ⟨aggrTyped, code⟩ := typed.found found
  obtain ⟨is4b, aggregator, asn, body⟩ := aggrTyped.aggregator_body code
  rcases found4 : getAttrib as4Aggregator attrs with _ | aggr4
  · rw [restoreAggregator_of_missing found body found4,
      restoreAggregator_of_missing (getAttrib_modifyAttrib (setAggregator_typeCode true aggregator asn) found)
        rfl ((getAttrib_modifyAttrib_ne (setAggregator_typeCode true aggregator asn)
          (show aggreator ≠ as4Aggregator by decide) attrs).trans found4),
      modifyAttrib_modifyAttrib (setAggregator_typeCode true aggregator asn),
      setAggregator_comp_setAggregator]
  · obtain ⟨typed4, code4⟩ := typed.found found4
    obtain ⟨aggregator4, asn4, body4⟩ := typed4.as4Aggregator_body code4
    rw [restoreAggregator_of_as4Aggregator found body found4 body4,
      restoreAggregator_of_as4Aggregator
        (getAttrib_modifyAttrib (setAggregator_typeCode true aggregator4 asn4) found) rfl
        ((getAttrib_modifyAttrib_ne (setAggregator_typeCode true aggregator4 asn4)
          (show aggreator ≠ as4Aggregator by decide) attrs).trans found4) body4,
      modifyAttrib_modifyAttrib (setAggregator_typeCode true aggregator4 asn4),
      setAggregator_comp_setAggregator]

/-- On a well-typed list, `restoreAsPath`, `downgradeAsPath` and
`restoreAggregator`, each called on its own result, give the same outcome and
list as the first call, and that outcome is `true`: the second call returns
`true` and changes nothing. -/
theorem translations_idempotent (typed : WellTyped attrs) :
    (restoreAsPath (restoreAsPath attrs).attribs = restoreAsPath attrs ∧
      (restoreAsPath attrs).ret = .returns true) ∧
    (downgradeAsPath (downgradeAsPath attrs).attribs = downgradeAsPath attrs ∧
      (downgradeAsPath attrs).ret = .returns true) ∧
    (restoreAggregator (restoreAggregator attrs).attribs = restoreAggregator attrs ∧
      (restoreAggregator attrs).ret = .returns true) := by
  obtain ⟨restored, restoredCall, restoredTyped, restoredWide⟩ := restoreAsPath_of_wellTyped typed
  obtain ⟨downgraded, downgradedCall, downgradedTyped, downgradedNarrow⟩ :=
    downgradeAsPath_of_wellTyped typed
  obtain ⟨_, aggrCall, -⟩ := restoreAggregator_wellTyped typed
  rw [restoredCall, downgradedCall]
  exact ⟨⟨restoreAsPath_of_not_twoOctet restoredTyped restoredWide, rfl⟩,
    ⟨downgradeAsPath_of_not_fourOctet downgradedTyped downgradedNarrow, rfl⟩,
    ⟨restoreAggregator_restoreAggregator typed, by rw [aggrCall]⟩⟩

/-- A two-octet UPDATE from a two-octet peer, with AS4_PATH and
AS4_AGGREGATOR. -/
theorem translations_idempotent_on_two_octet_update :
    let attrs := [BgpPathAttribOrigin.newWithLogger igp,
      setAsPath false [⟨false, asSequence, [23456, 1]⟩] (BgpPathAttribAsPath.newWithLogger false),
      BgpPathAttribAs4Path.new [⟨true, asSequence, [70000, 1]⟩],
      optionalTransitive aggreator (.aggregator false 3 23456), BgpPathAttribAs4Aggregator.new 3 70000]
    WellTyped attrs ∧
      ((restoreAsPath (restoreAsPath attrs).attribs = restoreAsPath attrs ∧
          (restoreAsPath attrs).ret = .returns true) ∧
        (downgradeAsPath (downgradeAsPath attrs).attribs = downgradeAsPath attrs ∧
          (downgradeAsPath attrs).ret = .returns true) ∧
        (restoreAggregator (restoreAggregator attrs).attribs = restoreAggregator attrs ∧
          (restoreAggregator attrs).ret = .returns true)) :=
  ⟨by decide, translations_idempotent (by decide)⟩

end Twice

/-! ## `downgradeAggregator` twice -/

section DowngradeTwice

variable {attrs : List BgpPathAttrib} {aggr : BgpPathAttrib} {is4b : Bool} {aggregator asn : UInt32}

theorem dropAttrib_append_of_missing {type : UInt8} {attr : BgpPathAttrib}
    (missing : hasAttrib type attrs = false) (typed : attr.typeCode = type) :
    (dropAttrib type (attrs ++ [attr])).2 = attrs := by
  rw [dropAttrib, List.eraseP_append_right _ (by simpa [hasAttrib] using missing)]
  simp [List.eraseP_cons, typed]

/-- `downgradeAggregator` called on its own result, from a list with an
AGGREGATOR and no AS4_AGGREGATOR: the AS4_AGGREGATOR it records the second
time carries the ASN as the first call left it in the AGGREGATOR. -/
theorem downgradeAggregator_downgradeAggregator (found : getAttrib aggreator attrs = some aggr)
    (body : aggr.body = .aggregator is4b aggregator asn) (noAs4 : hasAttrib as4Aggregator attrs = false) :
    downgradeAggregator (downgradeAggregator attrs).attribs = ⟨.returns true,
      modifyAttrib aggreator (setAggregator false aggregator (mapAsTrans asn)) attrs ++
        [BgpPathAttribAs4Aggregator.new aggregator (mapAsTrans asn)]⟩ := by
  have keeps := setAggregator_typeCode false aggregator (mapAsTrans asn)
  have present : hasAttrib aggreator
      (modifyAttrib aggreator (setAggregator false aggregator (mapAsTrans asn)) attrs) = true :=
    (hasAttrib_modifyAttrib keeps aggreator attrs).trans (hasAttrib_of_getAttrib found)
  have stillNoAs4 : hasAttrib as4Aggregator
      (modifyAttrib aggreator (setAggregator false aggregator (mapAsTrans asn)) attrs) = false :=
    (hasAttrib_modifyAttrib keeps as4Aggregator attrs).trans noAs4
  have found' := getAttrib_append_of_some (getAttrib_modifyAttrib keeps found)
    [BgpPathAttribAs4Aggregator.new aggregator asn]
  have marked : (setAggregator false aggregator (mapAsTrans asn) aggr).body =
      .aggregator false aggregator (mapAsTrans asn) := rfl
  have code : (BgpPathAttribAs4Aggregator.new aggregator (mapAsTrans asn)).typeCode = as4Aggregator := rfl
  rw [downgradeAggregator_of_missing found body noAs4]
  simp only [downgradeAggregator, found', aggregatorMembers, marked,
    modifyAttrib_of_fixed found' (setAggregator_of_body marked), updateAttribute, code,
    dropAttrib_append_of_missing stillNoAs4
      (show (BgpPathAttribAs4Aggregator.new aggregator asn).typeCode = as4Aggregator from rfl),
    addAttrib, stillNoAs4, Bool.false_eq_true, if_false, mapAsTrans_mapAsTrans]
  rw [modifyAttrib_append present, modifyAttrib_modifyAttrib keeps, setAggregator_comp_setAggregator]

/-- So from a list with an AGGREGATOR and no AS4_AGGREGATOR, calling
`downgradeAggregator` on its own result records the ASN as the first call
left it, and gives the same outcome and list as the first call exactly when
the AGGREGATOR's ASN is below `0xffff`; from `0xffff` on, the AS4_AGGREGATOR
then holds `AS_TRANS` instead of the ASN. -/
theorem downgradeAggregator_twice_iff (found : getAttrib aggreator attrs = some aggr)
    (body : aggr.body = .aggregator is4b aggregator asn) (noAs4 : hasAttrib as4Aggregator attrs = false) :
    downgradeAggregator (downgradeAggregator attrs).attribs = ⟨.returns true,
        modifyAttrib aggreator (setAggregator false aggregator (mapAsTrans asn)) attrs ++
          [BgpPathAttribAs4Aggregator.new aggregator (mapAsTrans asn)]⟩ ∧
      (downgradeAggregator (downgradeAggregator attrs).attribs = downgradeAggregator attrs ↔
        asn.toNat < 65535) := by
  refine ⟨downgradeAggregator_downgradeAggregator found body noAs4, ?_⟩
  rw [downgradeAggregator_downgradeAggregator found body noAs4,
    downgradeAggregator_of_missing found body noAs4]
  constructor
  · intro same
    have recorded := congrArg (·.body) (List.singleton_inj.1
      (List.append_inj_right' (congrArg Called.attribs same) rfl))
    simp only [BgpPathAttribAs4Aggregator.new, optionalTransitive, AttribBody.as4Aggregator.injEq,
      true_and] at recorded
    exact mapAsTrans_eq_self_iff.1 recorded
  · intro small
    rw [mapAsTrans_eq_self_iff.2 small]

/-- A four-octet AGGREGATOR of ASN 70000 after ORIGIN. -/
theorem downgradeAggregator_twice_of_four_octet_asn :
    let aggr := optionalTransitive aggreator (.aggregator true 3 70000)
    let attrs := [BgpPathAttribOrigin.newWithLogger igp, aggr]
    (getAttrib aggreator attrs = some aggr ∧ aggr.body = .aggregator true 3 70000 ∧
      hasAttrib as4Aggregator attrs = false) ∧
    (downgradeAggregator (downgradeAggregator attrs).attribs = ⟨.returns true,
        modifyAttrib aggreator (setAggregator false 3 (mapAsTrans 70000)) attrs ++
          [BgpPathAttribAs4Aggregator.new 3 (mapAsTrans 70000)]⟩ ∧
      (downgradeAggregator (downgradeAggregator attrs).attribs = downgradeAggregator attrs ↔
        (70000 : UInt32).toNat < 65535)) :=
  ⟨⟨rfl, rfl, rfl⟩, downgradeAggregator_twice_iff rfl rfl rfl⟩

end DowngradeTwice

end BgpUpdateMessage

end Libbgp
