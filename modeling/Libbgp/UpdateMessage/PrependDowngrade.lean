import Libbgp.UpdateMessage.WellTyped

namespace Libbgp
namespace BgpUpdateMessage

open BgpPathAttribType

/-!
# Prepending before or after `downgradeAsPath`

A speaker that sends a route learnt in a four-octet session to a two-octet
peer prepends its own ASN and downgrades the AS_PATH; it can do the two in
either order.  Prepending first, in four-octet mode, puts the ASN into the
four-octet path, and `downgradeAsPath` then copies that path into the
AS4_PATH.  Prepending after, in two-octet mode, puts `prep_asn`, the ASN
through `asn >= 0xffff ? 23456 : asn`, into the two-octet AS_PATH and into
the AS4_PATH alike.

The two-octet AS_PATHs agree for every ASN: the segment loop of
`downgradeAsPath` and the segment `prepend` commute.  The AS4_PATHs agree
exactly when `prep_asn` is the ASN: so the two orders give the same message
exactly for ASNs below `0xffff`.
-/

/-! ## One ASN -/

section Asns

variable {asn : UInt32}

theorem le_iff_toNat_le (a b : UInt32) : a ≤ b ↔ a.toNat ≤ b.toNat := Iff.rfl

theorem lt_iff_toNat_lt (a b : UInt32) : a < b ↔ a.toNat < b.toNat := Iff.rfl

theorem mapAsTrans_toNat : (mapAsTrans asn).toNat = if 65535 <= asn.toNat then 23456 else asn.toNat := by
  unfold mapAsTrans
  by_cases big : 65535 <= asn.toNat
  · rw [if_pos ((le_iff_toNat_le 65535 asn).2 big), if_pos big]; rfl
  · rw [if_neg (mt (le_iff_toNat_le 65535 asn).1 big), if_neg big]

theorem twoOctetAsn_toNat :
    (twoOctetAsn asn).toNat = if 65535 < asn.toNat then 23456 else asn.toNat := by
  unfold twoOctetAsn
  by_cases big : 65535 < asn.toNat
  · rw [if_pos ((lt_iff_toNat_lt 65535 asn).2 big), if_pos big]; rfl
  · rw [if_neg (mt (lt_iff_toNat_lt 65535 asn).1 big), if_neg big]

@[simp] theorem twoOctetAsn_mapAsTrans (asn : UInt32) : twoOctetAsn (mapAsTrans asn) = mapAsTrans asn :=
  UInt32.toNat.inj (by rw [twoOctetAsn_toNat, mapAsTrans_toNat]; split_ifs <;> omega)

@[simp] theorem mapAsTrans_mapAsTrans (asn : UInt32) : mapAsTrans (mapAsTrans asn) = mapAsTrans asn :=
  UInt32.toNat.inj (by rw [mapAsTrans_toNat, mapAsTrans_toNat]; split_ifs <;> omega)

@[simp] theorem mapAsTrans_twoOctetAsn (asn : UInt32) : mapAsTrans (twoOctetAsn asn) = mapAsTrans asn :=
  UInt32.toNat.inj (by rw [mapAsTrans_toNat, mapAsTrans_toNat, twoOctetAsn_toNat]; split_ifs <;> omega)

theorem mapAsTrans_eq_self_iff : mapAsTrans asn = asn ↔ asn.toNat < 65535 := by
  constructor
  · intro same
    have := congrArg UInt32.toNat same
    rw [mapAsTrans_toNat] at this
    split_ifs at this <;> omega
  · intro small
    exact UInt32.toNat.inj (by rw [mapAsTrans_toNat, if_neg (by omega)])

end Asns

/-! ## The segments -/

theorem asSequence_ne_asSet : asSequence ≠ asSet := by decide

/-- A segment as the loop of `downgradeAsPath` rebuilds it: two-octet, each
ASN through `asn >= 0xffff ? 23456 : asn`. -/
def downgradeSeg (seg : BgpAsPathSegment) : BgpAsPathSegment :=
  ⟨false, seg.type, seg.value.map mapAsTrans⟩

@[simp] theorem downgradeSeg_type (seg : BgpAsPathSegment) : (downgradeSeg seg).type = seg.type := rfl

@[simp] theorem downgradeSeg_value_length (seg : BgpAsPathSegment) :
    (downgradeSeg seg).value.length = seg.value.length := by
  simp [downgradeSeg]

theorem downgradeSegs_eq {segs : List BgpAsPathSegment} (wide : ∀ seg ∈ segs, seg.is4b = true) :
    downgradeSegs segs = some (segs.map downgradeSeg) :=
  downgradeSegs_of_fourOctet wide

/-- Downgrading a path after prepending an ASN gives the downgraded path
with `prep_asn` prepended, whatever the path. -/
theorem prepend_map_downgradeSeg (segs : List BgpAsPathSegment) (asn : UInt32) :
    (BgpPathAttribAsPath.prepend true segs asn).map (·.map downgradeSeg) =
      BgpPathAttribAsPath.prepend false (segs.map downgradeSeg) (mapAsTrans asn) := by
  cases segs with
  | nil => simp [BgpPathAttribAsPath.prepend, addSeg, downgradeSeg]
  | cons seg rest =>
    by_cases isSet : seg.type = asSet
    · simp [BgpPathAttribAsPath.prepend, isSet, addSeg, downgradeSeg]
    by_cases isSeq : seg.type = asSequence
    · by_cases full : seg.value.length >= 255
      · simp [BgpPathAttribAsPath.prepend, isSet, isSeq, full, addSeg, downgradeSeg]
      · cases width : seg.is4b <;>
          simp [BgpPathAttribAsPath.prepend, isSeq, asSequence_ne_asSet, full,
            BgpAsPathSegment.prepend, width, downgradeSeg]
    · simp [BgpPathAttribAsPath.prepend, isSet, isSeq]

theorem prepend_fourOctet_inj {segs segs' : List BgpAsPathSegment} {asn asn' : UInt32}
    (wide : ∀ seg ∈ segs, seg.is4b = true)
    (first : BgpPathAttribAsPath.prepend true segs asn = some segs')
    (second : BgpPathAttribAsPath.prepend true segs asn' = some segs') : asn = asn' := by
  have same := first.trans second.symm
  cases segs with
  | nil => simpa [BgpPathAttribAsPath.prepend, addSeg] using same
  | cons seg rest =>
    have width := wide seg (List.mem_cons_self _ _)
    by_cases isSet : seg.type = asSet
    · simpa [BgpPathAttribAsPath.prepend, isSet, addSeg] using same
    by_cases isSeq : seg.type = asSequence
    · by_cases full : seg.value.length >= 255
      · simpa [BgpPathAttribAsPath.prepend, isSeq, asSequence_ne_asSet, full, addSeg] using same
      · simpa [BgpPathAttribAsPath.prepend, isSeq, asSequence_ne_asSet, full,
          BgpAsPathSegment.prepend, width] using same
    · simp [BgpPathAttribAsPath.prepend, isSet, isSeq] at first

/-! ## The two calls on a four-octet path -/

section Calls

variable {unset : UnsetHeader} {attrs : List BgpPathAttrib} {path : BgpPathAttrib}
  {segs : List BgpAsPathSegment}

theorem setAsPath_setAsPath (is4b is4b' : Bool) (segs segs' : List BgpAsPathSegment) :
    setAsPath is4b' segs' ∘ setAsPath is4b segs = setAsPath is4b' segs' :=
  rfl

theorem prepend_fourOctet_of_asPath (missing : hasAttrib as4Path attrs = false)
    (found : getAttrib asPath attrs = some path) (body : path.body = .asPath true segs)
    {asn : UInt32} {segs' : List BgpAsPathSegment}
    (prepended : BgpPathAttribAsPath.prepend true segs asn = some segs') :
    prepend unset true asn attrs = ⟨.returns true, modifyAttrib asPath (setAsPath true segs') attrs⟩ := by
  simp [prepend, missing, prependAsPath, found, asPathMembers, body, prepended]

theorem downgradeAsPath_of_missing (missing : hasAttrib as4Path attrs = false)
    (found : getAttrib asPath attrs = some path) (body : path.body = .asPath true segs)
    (wide : ∀ seg ∈ segs, seg.is4b = true) :
    downgradeAsPath attrs = ⟨.returns true,
      modifyAttrib asPath (setAsPath false (segs.map downgradeSeg)) attrs ++
        [BgpPathAttribAs4Path.new segs]⟩ := by
  have present : hasAttrib asPath attrs = true := hasAttrib_of_getAttrib found
  simp only [downgradeAsPath, found, asPathMembers, body, downgradeSegs_eq wide,
    updateAttribute_of_missing (show hasAttrib (BgpPathAttribAs4Path.new segs).typeCode attrs = false
      from missing), Bool.not_true, Bool.false_eq_true, if_false]
  rw [modifyAttrib_append present]

theorem modifyAttrib_append_of_missing {type : UInt8} {edit : BgpPathAttrib -> BgpPathAttrib}
    {attrs : List BgpPathAttrib} (missing : hasAttrib type attrs = false) (more : List BgpPathAttrib) :
    modifyAttrib type edit (attrs ++ more) = attrs ++ modifyAttrib type edit more := by
  induction attrs with
  | nil => rfl
  | cons attr rest ih =>
    have other : attr.typeCode ≠ type := by simp_all [hasAttrib]
    have later : hasAttrib type rest = false := by simp_all [hasAttrib]
    simp [modifyAttrib, other, ih later]

theorem prepend_twoOctet_of_appended (missing : hasAttrib as4Path attrs = false)
    (found : getAttrib asPath attrs = some path) (body : path.body = .asPath false segs)
    {asn : UInt32} {segs' segs4 segs4' : List BgpAsPathSegment}
    (prepended : BgpPathAttribAsPath.prepend false segs (mapAsTrans asn) = some segs')
    (prepended4 : BgpPathAttribAsPath.prepend true segs4 (mapAsTrans asn) = some segs4') :
    prepend unset false asn (attrs ++ [BgpPathAttribAs4Path.new segs4]) = ⟨.returns true,
      modifyAttrib asPath (setAsPath false segs') attrs ++ [BgpPathAttribAs4Path.new segs4']⟩ := by
  have present : hasAttrib asPath attrs = true := hasAttrib_of_getAttrib found
  have found4 : getAttrib as4Path (modifyAttrib asPath (setAsPath false segs')
      (attrs ++ [BgpPathAttribAs4Path.new segs4])) = some (BgpPathAttribAs4Path.new segs4) := by
    rw [getAttrib_modifyAttrib_ne (setAsPath_typeCode false segs') (show asPath ≠ as4Path by decide)]
    exact getAttrib_append_of_missing (show hasAttrib (BgpPathAttribAs4Path.new segs4).typeCode attrs = false
      from missing)
  have missing' : hasAttrib as4Path (modifyAttrib asPath (setAsPath false segs') attrs) = false := by
    rw [hasAttrib_modifyAttrib (setAsPath_typeCode false segs')]; exact missing
  have body4 : (BgpPathAttribAs4Path.new segs4).body = .as4Path segs4 := rfl
  simp only [prepend, Bool.false_eq_true, if_false, prependAsPath, getAttrib_append_of_some found,
    asPathMembers, body, bne_self_eq_false, prepended, prependAs4Path, found4, as4PathMembers,
    body4, BgpPathAttribAs4Path.prepend, prepended4]
  rw [modifyAttrib_append present, modifyAttrib_append_of_missing missing']
  rfl

/-- Four-octet `prepend` and then `downgradeAsPath`, on a list without
AS4_PATH and with a four-octet AS_PATH. -/
theorem downgradeAsPath_prepend_fourOctet (missing : hasAttrib as4Path attrs = false)
    (found : getAttrib asPath attrs = some path) (body : path.body = .asPath true segs)
    {asn : UInt32} {segs' : List BgpAsPathSegment}
    (prepended : BgpPathAttribAsPath.prepend true segs asn = some segs')
    (wide : ∀ seg ∈ segs', seg.is4b = true) :
    downgradeAsPath (prepend unset true asn attrs).attribs = ⟨.returns true,
      modifyAttrib asPath (setAsPath false (segs'.map downgradeSeg)) attrs ++
        [BgpPathAttribAs4Path.new segs']⟩ := by
  rw [prepend_fourOctet_of_asPath missing found body prepended,
    downgradeAsPath_of_missing
      (by rw [hasAttrib_modifyAttrib (setAsPath_typeCode true segs')]; exact missing)
      (getAttrib_modifyAttrib (setAsPath_typeCode true segs') found) rfl wide,
    modifyAttrib_modifyAttrib (setAsPath_typeCode true segs'), setAsPath_setAsPath]

/-- Two-octet `prepend` after `downgradeAsPath` does what `downgradeAsPath`
after four-octet `prepend` of `prep_asn` does, for every ASN: both return
`true` and leave the same list. -/
theorem prepend_after_downgradeAsPath (missing : hasAttrib as4Path attrs = false)
    (found : getAttrib asPath attrs = some path) (body : path.body = .asPath true segs)
    (fit : SegsOfWidth true segs) (asn : UInt32) :
    prepend unset false asn (downgradeAsPath attrs).attribs =
      downgradeAsPath (prepend unset true (mapAsTrans asn) attrs).attribs := by
  obtain ⟨segs', prepended, fit'⟩ := prepend_segsOfWidth fit (mapAsTrans asn)
  have downPrepended : BgpPathAttribAsPath.prepend false (segs.map downgradeSeg) (mapAsTrans asn) =
      some (segs'.map downgradeSeg) := by
    have commutes := prepend_map_downgradeSeg segs (mapAsTrans asn)
    rw [prepended, mapAsTrans_mapAsTrans] at commutes
    exact commutes.symm
  rw [downgradeAsPath_prepend_fourOctet missing found body prepended fit'.width,
    downgradeAsPath_of_missing missing found body fit.width,
    prepend_twoOctet_of_appended
      (by rw [hasAttrib_modifyAttrib (setAsPath_typeCode false _)]; exact missing)
      (getAttrib_modifyAttrib (setAsPath_typeCode false _) found) rfl downPrepended prepended,
    modifyAttrib_modifyAttrib (setAsPath_typeCode false _), setAsPath_setAsPath]

/-- So on a list without AS4_PATH and with a four-octet AS_PATH of known
segment types, downgrading and then prepending in two-octet mode gives what
prepending `prep_asn` in four-octet mode and then downgrading gives; and
prepending the ASN itself in four-octet mode and then downgrading gives the
same exactly when the ASN is below `0xffff`: from `0xffff` on, the AS4_PATH
gets `AS_TRANS` instead of the ASN. -/
theorem downgradeAsPath_prepend_comm_iff (unset : UnsetHeader) (missing : hasAttrib as4Path attrs = false)
    (found : getAttrib asPath attrs = some path) (body : path.body = .asPath true segs)
    (fit : SegsOfWidth true segs) (asn : UInt32) :
    prepend unset false asn (downgradeAsPath attrs).attribs =
        downgradeAsPath (prepend unset true (mapAsTrans asn) attrs).attribs ∧
      (downgradeAsPath (prepend unset true asn attrs).attribs =
          prepend unset false asn (downgradeAsPath attrs).attribs ↔ asn.toNat < 65535) := by
  refine ⟨prepend_after_downgradeAsPath missing found body fit asn, ?_⟩
  rw [prepend_after_downgradeAsPath missing found body fit]
  constructor
  · intro same
    obtain ⟨segs', prepended, fit'⟩ := prepend_segsOfWidth fit asn
    obtain ⟨segsTrans, prependedTrans, fitTrans⟩ := prepend_segsOfWidth fit (mapAsTrans asn)
    rw [downgradeAsPath_prepend_fourOctet missing found body prepended fit'.width,
      downgradeAsPath_prepend_fourOctet missing found body prependedTrans fitTrans.width] at same
    have appended := congrArg (·.body) (List.singleton_inj.1
      (List.append_inj_right' (congrArg Called.attribs same) rfl))
    simp only [BgpPathAttribAs4Path.new, optionalTransitive, AttribBody.as4Path.injEq] at appended
    subst appended
    exact mapAsTrans_eq_self_iff.1 (prepend_fourOctet_inj fit.width prependedTrans prepended)
  · intro small
    rw [mapAsTrans_eq_self_iff.2 small]

/-- A one-segment four-octet path, a fresh path's header of zeroed memory,
and the ASN `645112`. -/
theorem downgradeAsPath_prepend_comm_private_asn :
    let path := setAsPath true [⟨true, asSequence, [1]⟩] (BgpPathAttribAsPath.newWithLogger true)
    let zeroed : UnsetHeader := ⟨false, false, false, false, 0⟩
    (hasAttrib as4Path [path] = false ∧ getAttrib asPath [path] = some path ∧
      path.body = .asPath true [⟨true, asSequence, [1]⟩] ∧ SegsOfWidth true [⟨true, asSequence, [1]⟩]) ∧
    (prepend zeroed false 64512 (downgradeAsPath [path]).attribs =
        downgradeAsPath (prepend zeroed true (mapAsTrans 64512) [path]).attribs ∧
      (downgradeAsPath (prepend zeroed true 64512 [path]).attribs =
          prepend zeroed false 64512 (downgradeAsPath [path]).attribs ↔ (64512 : UInt32).toNat < 65535)) :=
  ⟨⟨rfl, rfl, rfl, by decide⟩,
    downgradeAsPath_prepend_comm_iff _ (by rfl) (by rfl) (by rfl) (by decide) 64512⟩

end Calls

end BgpUpdateMessage

end Libbgp
