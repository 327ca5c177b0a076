import Libbgp.PathAttribParse

namespace Libbgp

/-!
# Writing one path attribute

`BgpPathAttrib::writeHeader(to, buffer_sz)` stores the flags byte and the
type code; a class's `write(to, buffer_sz)` has it write those two bytes,
then stores the one-byte length and the value.  The writers of the base
class and of ORIGIN are among the sources.

The header makes a round trip: `parseHeader` of the two bytes `writeHeader`
stores, followed by a length byte, rebuilds the attribute's four flags and
type code.  The base class's writer stores as many bytes as it returns, and
no more than `buffer_sz`.  ORIGIN's writer checks for three bytes of room and
stores four.
-/

/-- A flag member converted for `flag << n`: `1` or `0`. -/
def flagBit (flag : Bool) : UInt8 := if flag then 1 else 0

/-- The flags byte of `writeHeader`,
`(optional << 7) | (transitive << 6) | (partial << 5) | (extened << 4)`. -/
def flagsByte (attrib : BgpPathAttrib) : UInt8 :=
  flagBit attrib.optional <<< 7 ||| flagBit attrib.transitive <<< 6 |||
    flagBit attrib.partialBit <<< 5 ||| flagBit attrib.extended <<< 4

/-- `BgpPathAttrib::writeHeader(to, buffer_sz)`: the bytes it stores from
`to` on and the count it returns, `none` for `-1`. -/
def writeHeader (attrib : BgpPathAttrib) (bufferSz : Nat) : Option (List UInt8 × Nat) :=
  if bufferSz < 2 then none else some ([flagsByte attrib, attrib.typeCode], 2)

/-- `BgpPathAttribUnknow::write(to, buffer_sz)` for an object holding the
raw `value`, whose length is `value_len`. -/
def BgpPathAttribUnknow.write (attrib : BgpPathAttrib) (value : List UInt8) (bufferSz : Nat) :
    Option (List UInt8 × Nat) :=
  let valueLen := value.length
  if bufferSz < valueLen + 3 then none else do
    let (header, written) <- writeHeader attrib 2
    if written ≠ 2 then none else
    some (header ++ [UInt8.ofNat valueLen] ++ value, valueLen + 3)

/-- `BgpPathAttribOrigin::write(to, buffer_sz)` for an object holding
`origin`. -/
def BgpPathAttribOrigin.write (attrib : BgpPathAttrib) (origin : UInt8) (bufferSz : Nat) :
    Option (List UInt8 × Nat) :=
  if bufferSz < 3 then none else do
    let (header, written) <- writeHeader attrib 2
    if written ≠ 2 then none else
    some (header ++ [1, origin], 4)

/-! ## The header -/

theorem flagsByte_attrib (attrib : BgpPathAttrib) (valueLen : Nat) :
    (⟨flagsByte attrib, attrib.typeCode, valueLen⟩ : AttribHeader).attrib attrib.body = attrib := by
  rcases attrib with ⟨optional, transitive, partialBit, extended, typeCode, body⟩
  simp only [AttribHeader.attrib, AttribHeader.optional, AttribHeader.transitive,
    AttribHeader.partialBit, AttribHeader.extended, flagsByte, BgpPathAttrib.mk.injEq, and_true]
  cases optional <;> cases transitive <;> cases partialBit <;> cases extended <;> decide

/-- `parseHeader` of what `writeHeader` stored, followed by a length byte
that fits in `buffer_sz`, rebuilds the attribute: the header makes a round
trip. -/
theorem parseHeader_writeHeader {attrib : BgpPathAttrib} {size : Nat} {bytes : List UInt8}
    {written : Nat} (wrote : writeHeader attrib size = some (bytes, written)) (valueLen : UInt8)
    (rest : List UInt8) {bufferSz : Nat} (room : valueLen.toNat + 3 <= bufferSz) :
    parseHeader (bytes ++ valueLen :: rest) bufferSz =
      .ok (⟨flagsByte attrib, attrib.typeCode, valueLen.toNat⟩, 2) ∧
    (⟨flagsByte attrib, attrib.typeCode, valueLen.toNat⟩ : AttribHeader).attrib attrib.body = attrib := by
  unfold writeHeader at wrote
  split at wrote
  · cases wrote
  · cases wrote
    refine ⟨?_, flagsByte_attrib attrib _⟩
    simp [parseHeader, readByte, show ¬ bufferSz < 3 by omega, show ¬ valueLen.toNat > bufferSz - 3 by omega]

/-! ## The two writers -/

theorem BgpPathAttribUnknow.write_eq (attrib : BgpPathAttrib) (value : List UInt8) (bufferSz : Nat) :
    BgpPathAttribUnknow.write attrib value bufferSz =
      if bufferSz < value.length + 3 then none
      else some ([flagsByte attrib, attrib.typeCode, UInt8.ofNat value.length] ++ value,
        value.length + 3) := by
  unfold BgpPathAttribUnknow.write
  dsimp only
  split <;> rfl

/-- The base class's writer stores as many bytes as it returns, and no more
than `buffer_sz`. -/
theorem BgpPathAttribUnknow.write_within {attrib : BgpPathAttrib} {value : List UInt8}
    {bufferSz : Nat} {bytes : List UInt8} {n : Nat}
    (wrote : BgpPathAttribUnknow.write attrib value bufferSz = some (bytes, n)) :
    bytes.length = n ∧ n <= bufferSz := by
  rw [BgpPathAttribUnknow.write_eq] at wrote
  split at wrote
  · cases wrote
  · cases wrote
    exact ⟨by simp, by omega⟩

theorem BgpPathAttribOrigin.write_eq (attrib : BgpPathAttrib) (origin : UInt8) (bufferSz : Nat) :
    BgpPathAttribOrigin.write attrib origin bufferSz =
      if bufferSz < 3 then none else some ([flagsByte attrib, attrib.typeCode, 1, origin], 4) := by
  unfold BgpPathAttribOrigin.write
  split <;> rfl

/-- ORIGIN's writer stores within `buffer_sz` exactly when it is not `3`:
given three bytes of room, it passes its check and stores four. -/
theorem BgpPathAttribOrigin.write_within_iff (attrib : BgpPathAttrib) (origin : UInt8)
    (bufferSz : Nat) :
    (∀ bytes n, BgpPathAttribOrigin.write attrib origin bufferSz = some (bytes, n) ->
      bytes.length <= bufferSz) ↔ bufferSz ≠ 3 := by
  rw [BgpPathAttribOrigin.write_eq]
  constructor
  · intro within three
    subst three
    exact absurd (within _ _ rfl) (by simp)
  · intro notThree bytes n wrote
    split at wrote
    · cases wrote
    · cases wrote
      simp only [List.length_cons, List.length_nil]
      omega

end Libbgp
