import Libbgp.UpdateMessage.WellTyped

namespace Libbgp
namespace BgpUpdateMessage

open BgpPathAttribType

/-!
# A four-octet AS_PATH through `downgradeAsPath` and `restoreAsPath`

`downgradeAsPath` makes a four-octet AS_PATH two-octet, each ASN of `0xffff`
or above replaced by `AS_TRANS`, and records the original segments in an
AS4_PATH.  `restoreAsPath` drops that AS4_PATH and walks each two-octet
segment from one position of the AS4_PATH's AS_SEQUENCE ASNs, that of the
first ASN above `0xffff`.  Until the walk meets an `AS_TRANS` it stays at that
position; from then on it moves with every ASN, and takes the AS4_PATH's ASN
wherever the segment holds `AS_TRANS`.

The round trip therefore gives the path back when every ASN is below
`0xffff` and is not `AS_TRANS`, but in one AS_SEQUENCE segment from its first
ASN above `0xffff` on (`Restorable`).  The walk of that segment meets its
first `AS_TRANS` at the very position it starts from, and then moves in step
with the AS4_PATH.  Every other segment restarts at the same position, so an
`AS_TRANS` there would take that segment's ASN instead of its own; and `0xffff`
itself becomes `AS_TRANS` without being counted as four-octet.
-/

/-- An ASN that two octets carry as it is, and that is not `AS_TRANS`. -/
def PlainTwoOctet (asn : UInt32) : Prop := asn < 65535 ∧ asn ≠ asTrans

instance (asn : UInt32) : Decidable (PlainTwoOctet asn) :=
  inferInstanceAs (Decidable (asn < 65535 ∧ asn ≠ asTrans))

/-- The paths that `downgradeAsPath` and then `restoreAsPath` give back:
every ASN is plain two-octet, but in one AS_SEQUENCE segment from its first
ASN above `0xffff` on. -/
def Restorable (segs : List BgpAsPathSegment) : Prop :=
  (∀ seg ∈ segs, ∀ asn ∈ seg.value, PlainTwoOctet asn) ∨
    ∃ pre seg post plain rest, segs = pre ++ seg :: post ∧ seg.type = asSequence ∧
      seg.value = plain ++ rest ∧ (∀ s ∈ pre ++ post, ∀ asn ∈ s.value, PlainTwoOctet asn) ∧
      (∀ asn ∈ plain, PlainTwoOctet asn) ∧ ∀ asn ∈ rest.head?, asn > 65535

/-! ## One ASN -/

section Asns

variable {asn : UInt32}

theorem lowOctets_of_lt (fits : asn.toNat < 65536) : lowOctets asn = asn := by
  apply UInt32.eq_of_val_eq
  apply Fin.ext
  simp only [lowOctets, UInt32.toUInt16, UInt16.toUInt32, Nat.toUInt16, UInt16.ofNat, UInt16.toNat]
  simp [UInt32.val, UInt32.toNat, Fin.ofNat] at *
  omega

theorem lowOctets_mapAsTrans (asn : UInt32) : lowOctets (mapAsTrans asn) = mapAsTrans asn := by
  unfold mapAsTrans
  split
  · rfl
  · rename_i small
    apply lowOctets_of_lt
    simp [UInt32.le_def, BitVec.le_def, UInt32.toNat] at small
    simp only [UInt32.toNat]
    omega

theorem mapAsTrans_of_plain (plain : PlainTwoOctet asn) : mapAsTrans asn = asn := by
  have small : ¬asn >= 65535 := by
    have below := plain.1
    simp [UInt32.lt_def, UInt32.le_def, BitVec.lt_def, BitVec.le_def] at below ⊢
    omega
  simp [mapAsTrans, small]

theorem mapAsTrans_of_gt (big : asn > 65535) : mapAsTrans asn = asTrans := by
  have large : asn >= 65535 := by
    simp [UInt32.lt_def, UInt32.le_def, BitVec.lt_def, BitVec.le_def] at big ⊢
    omega
  simp [mapAsTrans, large]

theorem lowOctets_asTrans : lowOctets asTrans = asTrans := by decide

theorem restored_mapAsTrans (asn : UInt32) :
    (if lowOctets (mapAsTrans asn) == asTrans then asn else lowOctets (mapAsTrans asn)) = asn := by
  rw [lowOctets_mapAsTrans]
  unfold mapAsTrans
  split <;> simp

end Asns

/-! ## The walk over one segment -/

section Walk

variable {full : List UInt32}

theorem restoreValues_cons_plain {has4b : Bool} {asn : UInt32} (plain : PlainTwoOctet asn)
    (index : Nat) (rest : List UInt32) :
    restoreValues full has4b index false (mapAsTrans asn :: rest) =
      asn :: restoreValues full has4b index false rest := by
  have kept : lowOctets (mapAsTrans asn) = asn := by
    rw [lowOctets_mapAsTrans, mapAsTrans_of_plain plain]
  have notTrans : (asn == asTrans) = false := by simpa using plain.2
  simp only [restoreValues, kept, notTrans]
  split <;> simp

theorem restoreValues_plain {has4b : Bool} {plain : List UInt32}
    (plainAsns : ∀ asn ∈ plain, PlainTwoOctet asn) (index : Nat) (rest : List UInt32) :
    restoreValues full has4b index false (plain.map mapAsTrans ++ rest) =
      plain ++ restoreValues full has4b index false rest := by
  induction plain with
  | nil => rfl
  | cons asn plain ih =>
      rw [List.map_cons, List.cons_append, restoreValues_cons_plain (plainAsns asn (List.mem_cons_self _ _)),
        ih fun other member => plainAsns other (List.mem_cons_of_mem _ member), List.cons_append]

theorem restoreValues_all_plain {has4b : Bool} {plain : List UInt32}
    (plainAsns : ∀ asn ∈ plain, PlainTwoOctet asn) (index : Nat) :
    restoreValues full has4b index false (plain.map mapAsTrans) = plain := by
  simpa [restoreValues] using restoreValues_plain plainAsns index []

theorem restoreValues_cons_found {index : Nat} {asn : UInt32} (found : full[index]? = some asn)
    {moving : Bool} (moves : moving = true ∨ asn > 65535) (rest : List UInt32) :
    restoreValues full true index moving (mapAsTrans asn :: rest) =
      asn :: restoreValues full true (index + 1) true rest := by
  have moving' : (moving || lowOctets (mapAsTrans asn) == asTrans) = true := by
    rcases moves with rfl | big
    · rfl
    · simp [mapAsTrans_of_gt big, lowOctets_asTrans]
  simp only [restoreValues, found, moving', if_true, restored_mapAsTrans]

theorem restoreValues_moving (pre rest tail : List UInt32) :
    restoreValues (pre ++ rest ++ tail) true pre.length true (rest.map mapAsTrans) = rest := by
  induction rest generalizing pre with
  | nil => rfl
  | cons asn rest ih =>
      have found : (pre ++ asn :: rest ++ tail)[pre.length]? = some asn := by
        rw [List.append_assoc, List.getElem?_append_right (Nat.le_refl _)]
        simp
      rw [List.map_cons, restoreValues_cons_found found (.inl rfl)]
      simpa using congrArg (asn :: ·) (ih (pre ++ [asn]))

/-- The walk of the segment that holds the first ASN above `0xffff`: it keeps
the plain ASNs before it, and from it on follows the AS4_PATH. -/
theorem restoreValues_from_first (front plain rest back : List UInt32)
    (plainAsns : ∀ asn ∈ plain, PlainTwoOctet asn) (starts : ∀ asn ∈ rest.head?, asn > 65535) :
    restoreValues (front ++ (plain ++ rest) ++ back) true (front.length + plain.length) false
      ((plain ++ rest).map mapAsTrans) = plain ++ rest := by
  rw [List.map_append, restoreValues_plain plainAsns]
  cases rest with
  | nil => rfl
  | cons asn rest =>
      have found : (front ++ (plain ++ asn :: rest) ++ back)[front.length + plain.length]? = some asn := by
        rw [List.append_assoc, List.getElem?_append_right (Nat.le_add_right _ _), Nat.add_sub_cancel_left,
          List.append_assoc, List.getElem?_append_right (Nat.le_refl _)]
        simp
      rw [List.map_cons, restoreValues_cons_found found (.inr (starts asn rfl))]
      simpa using congrArg (fun tail => plain ++ asn :: tail) (restoreValues_moving (front ++ plain ++ [asn]) rest back)

end Walk

/-! ## The walk over the whole path -/

theorem sequenceAsns_plain {segs : List BgpAsPathSegment}
    (plain : ∀ seg ∈ segs, ∀ asn ∈ seg.value, PlainTwoOctet asn) :
    ∀ asn ∈ sequenceAsns segs, PlainTwoOctet asn := by
  simp only [sequenceAsns, List.mem_flatMap]
  rintro asn ⟨seg, member, found⟩
  split at found
  · exact plain seg member asn found
  · cases found

theorem findIdx_after_plain {plain : List UInt32} (plainAsns : ∀ asn ∈ plain, PlainTwoOctet asn)
    (rest : List UInt32) :
    (plain ++ rest).findIdx (· > 65535) = plain.length + rest.findIdx (· > 65535) := by
  have none : plain.findIdx (· > 65535) = plain.length := List.findIdx_eq_length.2 fun asn member => by
    have below := (plainAsns asn member).1
    simp [UInt32.lt_def, BitVec.lt_def] at below ⊢
    omega
  rw [List.findIdx_append, none, if_neg (Nat.lt_irrefl _), Nat.add_comm]

/-- On a restorable path, the walk of each segment of its two-octet form
gives the segment's ASNs back. -/
theorem restoreValues_of_restorable {segs : List BgpAsPathSegment} (restorable : Restorable segs)
    {seg : BgpAsPathSegment} (member : seg ∈ segs) :
    restoreValues (sequenceAsns segs) (!(sequenceAsns segs).isEmpty)
      ((sequenceAsns segs).findIdx (· > 65535)) false (seg.value.map mapAsTrans) = seg.value := by
  rcases restorable with allPlain | ⟨pre, seg', post, plain, rest, split, typed, value, others, plainAsns, starts⟩
  · exact restoreValues_all_plain (allPlain seg member) _
  by_cases other : seg ∈ pre ++ post
  · exact restoreValues_all_plain (others seg other) _
  have same : seg = seg' := by
    simp only [split, List.mem_append, List.mem_cons] at member other
    tauto
  subst same
  cases rest with
  | nil => simpa [value] using restoreValues_all_plain plainAsns _
  | cons asn rest =>
    have full : sequenceAsns segs = sequenceAsns pre ++ (plain ++ asn :: rest) ++ sequenceAsns post := by
      simp [split, sequenceAsns, typed, value]
    have start : (sequenceAsns segs).findIdx (· > 65535) = (sequenceAsns pre).length + plain.length := by
      rw [full, List.append_assoc,
        findIdx_after_plain (sequenceAsns_plain fun s member => others s (List.mem_append_left _ member)),
        List.append_assoc, findIdx_after_plain plainAsns]
      simp [List.findIdx_cons, starts asn rfl]
    have nonempty : (!(sequenceAsns segs).isEmpty) = true := by simp [full]
    rw [start, nonempty, full, value]
    exact restoreValues_from_first _ _ _ _ plainAsns starts

/-- On a four-octet restorable path, the outer loop of `restoreAsPath` over
the path's two-octet form gives the path back. -/
theorem restoreSegs_downgraded {segs : List BgpAsPathSegment} (wide : ∀ seg ∈ segs, seg.is4b = true)
    (restorable : Restorable segs) :
    restoreSegs (sequenceAsns segs) (!(sequenceAsns segs).isEmpty)
        ((sequenceAsns segs).findIdx (· > 65535))
        (segs.map fun seg => ⟨false, seg.type, seg.value.map mapAsTrans⟩) = some segs := by
  rw [restoreSegs_of_twoOctet _ _ _ (by simp), List.map_map]
  refine congrArg some ((List.map_congr_left fun seg member => ?_).trans (List.map_id segs))
  have walked := restoreValues_of_restorable restorable member
  have width := wide seg member
  cases seg
  simp_all

/-! ## The attribute list -/

theorem setAsPath_of_body {attr : BgpPathAttrib} {is4b : Bool} {segs : List BgpAsPathSegment}
    (body : attr.body = .asPath is4b segs) : setAsPath is4b segs attr = attr := by
  cases attr
  dsimp only at body
  subst body
  rfl

theorem downgradeAsPath_of_fourOctet {attrs : List BgpPathAttrib} (distinct : TypeCodesDistinct attrs)
    {path : BgpPathAttrib} {segs : List BgpAsPathSegment} (found : getAttrib asPath attrs = some path)
    (body : path.body = .asPath true segs) (wide : ∀ seg ∈ segs, seg.is4b = true) :
    downgradeAsPath attrs = ⟨.returns true,
      modifyAttrib asPath (setAsPath false (segs.map fun seg => ⟨false, seg.type, seg.value.map mapAsTrans⟩))
        (dropAttrib as4Path attrs).2 ++ [BgpPathAttribAs4Path.new segs]⟩ := by
  have present : hasAttrib asPath (dropAttrib as4Path attrs).2 = true :=
    hasAttrib_of_getAttrib ((getAttrib_dropAttrib_ne (by decide) attrs).trans found)
  have code : (BgpPathAttribAs4Path.new segs).typeCode = as4Path := rfl
  simp only [downgradeAsPath, found, asPathMembers, body, downgradeSegs_of_fourOctet wide, updateAttribute,
    addAttrib, code, hasAttrib_dropAttrib_of_distinct distinct, Bool.not_true, Bool.false_eq_true, if_false]
  rw [modifyAttrib_append present]

theorem restoreAsPath_of_appended {attrs : List BgpPathAttrib} {path : BgpPathAttrib}
    {segs segs4 restored : List BgpAsPathSegment} (found : getAttrib asPath attrs = some path)
    (body : path.body = .asPath false segs) (missing : hasAttrib as4Path attrs = false)
    (wide : ∀ seg ∈ segs4, seg.is4b = true)
    (walked : restoreSegs (sequenceAsns segs4) (!(sequenceAsns segs4).isEmpty)
      ((sequenceAsns segs4).findIdx (· > 65535)) segs = some restored) :
    restoreAsPath (attrs ++ [BgpPathAttribAs4Path.new segs4]) =
      ⟨.returns true, modifyAttrib asPath (setAsPath true restored) attrs⟩ := by
  have missing' : hasAttrib (BgpPathAttribAs4Path.new segs4).typeCode attrs = false := missing
  have found4 : getAttrib as4Path (attrs ++ [BgpPathAttribAs4Path.new segs4]) =
      some (BgpPathAttribAs4Path.new segs4) := getAttrib_append_of_missing missing'
  have dropped : (dropAttrib as4Path (attrs ++ [BgpPathAttribAs4Path.new segs4])).2 = attrs := by
    rw [dropAttrib, List.eraseP_append_right _ (by simpa [hasAttrib] using missing)]
    simp [List.eraseP_cons, BgpPathAttribAs4Path.new, optionalTransitive]
  have body4 : (BgpPathAttribAs4Path.new segs4).body = .as4Path segs4 := rfl
  simp only [restoreAsPath, getAttrib_append_of_some found, asPathMembers, body, Bool.false_eq_true, if_false,
    found4, as4PathMembers, body4, as4Sequence_of_fourOctet wide, dropped, walked]

/-- From a list with distinct type codes and a four-octet, restorable
AS_PATH, `downgradeAsPath` and then `restoreAsPath` return `true` and leave the
list as it was without its AS4_PATH: the AS_PATH comes back unchanged. -/
theorem restoreAsPath_downgradeAsPath_of_restorable {attrs : List BgpPathAttrib}
    (distinct : TypeCodesDistinct attrs) {path : BgpPathAttrib} {segs : List BgpAsPathSegment}
    (found : getAttrib asPath attrs = some path) (body : path.body = .asPath true segs)
    (wide : ∀ seg ∈ segs, seg.is4b = true) (restorable : Restorable segs) :
    restoreAsPath (downgradeAsPath attrs).attribs = ⟨.returns true, (dropAttrib as4Path attrs).2⟩ := by
  have foundD : getAttrib asPath (dropAttrib as4Path attrs).2 = some path :=
    (getAttrib_dropAttrib_ne (by decide) attrs).trans found
  have keeps : ∀ attr, (setAsPath false (segs.map fun seg => ⟨false, seg.type, seg.value.map mapAsTrans⟩)
      attr).typeCode = attr.typeCode := fun _ => rfl
  rw [downgradeAsPath_of_fourOctet distinct found body wide,
    restoreAsPath_of_appended (getAttrib_modifyAttrib keeps foundD) rfl
      ((hasAttrib_modifyAttrib keeps as4Path _).trans (hasAttrib_dropAttrib_of_distinct distinct as4Path))
      wide (restoreSegs_downgraded wide restorable),
    modifyAttrib_modifyAttrib keeps]
  exact congrArg _ (modifyAttrib_of_fixed foundD (setAsPath_of_body body))

/-- An AS_SEQUENCE behind an AS_SET, holding after the plain ASN `3` the
four-octet ASN `70000`, then `65535` and `AS_TRANS` itself: all come back. -/
theorem round_trip_restores_after_first_fourOctet :
    let segs := [⟨true, asSet, [1, 2]⟩, ⟨true, asSequence, [3, 70000, 65535, 23456, 70001]⟩]
    let path := setAsPath true segs (BgpPathAttribAsPath.newWithLogger true)
    let attrs := [BgpPathAttribOrigin.newWithLogger igp, path, BgpPathAttribNexthop.new 1]
    (TypeCodesDistinct attrs ∧ getAttrib asPath attrs = some path ∧ path.body = .asPath true segs ∧
        (∀ seg ∈ segs, seg.is4b = true) ∧ Restorable segs) ∧
      restoreAsPath (downgradeAsPath attrs).attribs = ⟨.returns true, (dropAttrib as4Path attrs).2⟩ := by
  have restorable : Restorable [⟨true, asSet, [1, 2]⟩, ⟨true, asSequence, [3, 70000, 65535, 23456, 70001]⟩] :=
    .inr ⟨[⟨true, asSet, [1, 2]⟩], _, [], [3], [70000, 65535, 23456, 70001], rfl, rfl, rfl, by decide,
      by decide, fun asn first => by cases first; decide⟩
  exact ⟨⟨by decide, rfl, rfl, by decide, restorable⟩,
    restoreAsPath_downgradeAsPath_of_restorable (by decide) rfl rfl (by decide) restorable⟩

end BgpUpdateMessage
end Libbgp
