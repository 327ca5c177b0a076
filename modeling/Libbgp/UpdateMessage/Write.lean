import Libbgp.UpdateMessage.Parse

namespace Libbgp

/-!
# Writing an UPDATE message

`BgpUpdateMessage::write(to, buf_sz)` lays out the three sections of an
UPDATE body in the destination `to`.  The model keeps the destination as its
list of bytes, whatever it held before, and each store into it as the source
makes it, at the pointer the source uses:

* each section length field is reserved by moving `buffer` one byte, though
  the field written there later is two bytes long;
* a route's prefix bytes are copied from the local `route_len`, not from the
  route;
* each attribute is written at `buffer`, which the attribute loop never moves,
  and the NLRI start at that same place.

Only the count the function returns adds up as the layout intends.  The
attribute classes enter through `AttribWriter`, their `write(buffer,
buf_left)`.
-/

/-- Why `write` ends without a result. -/
inductive WriteStop where
  /-- `return -1`. -/
  | refused
  /-- A store past the end of the destination, or a copy past the end of its
  source object. -/
  | undefined
  /-- An `assert` of the source fails. -/
  | assertFailed
  deriving DecidableEq, Repr

/-- A computation that writes into a destination buffer. -/
abbrev Encode := Except WriteStop

namespace Encode

/-- `if (cond) return -1;` -/
def refuseIf (cond : Prop) [Decidable cond] : Encode Unit :=
  if cond then .error .refused else pure ()

/-- `assert(cond)`. -/
def assert (cond : Prop) [Decidable cond] : Encode Unit :=
  if cond then pure () else .error .assertFailed

@[simp] theorem refuseIf_bind {β : Type} {cond : Prop} [Decidable cond] (f : Unit -> Encode β) :
    (refuseIf cond >>= f) = if cond then .error .refused else f () := by
  unfold refuseIf; split <;> rfl

@[simp] theorem assert_bind {β : Type} {cond : Prop} [Decidable cond] (f : Unit -> Encode β) :
    (assert cond >>= f) = if cond then f () else .error .assertFailed := by
  unfold assert; split <;> rfl

end Encode

/-- Storing `bytes` into the destination from offset `off` on, as
`putValue` and `memcpy` do. -/
def store (buf : List UInt8) (off : Nat) (bytes : List UInt8) : Encode (List UInt8) :=
  if off + bytes.length <= buf.length then .ok (buf.take off ++ bytes ++ buf.drop (off + bytes.length))
  else .error .undefined

section Store

variable {buf out : List UInt8} {off : Nat} {bytes : List UInt8}

theorem store_ok (stored : store buf off bytes = .ok out) :
    off + bytes.length <= buf.length ∧ out = buf.take off ++ bytes ++ buf.drop (off + bytes.length) := by
  unfold store at stored
  split at stored
  · cases stored; exact ⟨‹_›, rfl⟩
  · cases stored

theorem store_length (stored : store buf off bytes = .ok out) : out.length = buf.length := by
  obtain ⟨fits, rfl⟩ := store_ok stored
  simp; omega

theorem store_getElem?_below (stored : store buf off bytes = .ok out) {i : Nat} (below : i < off) :
    out[i]? = buf[i]? := by
  obtain ⟨fits, rfl⟩ := store_ok stored
  rw [List.append_assoc, List.getElem?_append_left (by simp; omega), List.getElem?_take_of_lt below]

theorem store_getElem?_inside (stored : store buf off bytes = .ok out) {i : Nat}
    (inside : i < bytes.length) : out[off + i]? = bytes[i]? := by
  obtain ⟨fits, rfl⟩ := store_ok stored
  have before : (buf.take off).length = off := by simp; omega
  rw [List.append_assoc, List.getElem?_append_right (by omega), before, Nat.add_sub_cancel_left,
    List.getElem?_append_left inside]

end Store

/-- `putValue<uint16_t>(&ptr, htons(n))`: the two bytes of `n` as an
`uint16_t`, high byte first. -/
def u16Field (n : Nat) : List UInt8 := [UInt8.ofNat (n / 256), UInt8.ofNat n]

/-- `memcpy(buffer, &route_len, pfx_buf_sz)`: the source is the one-byte
local `route_len`, so copying more than one byte reads past it. -/
def routeLenBytes (routeLen : UInt8) (n : Nat) : Encode (List UInt8) :=
  if n <= 1 then pure ([routeLen].take n) else .error .undefined

/-- What the UPDATE writer uses of an attribute class: `write(buffer,
buf_left)`, as the bytes it stores from `buffer` on and the count it returns,
`none` for `-1`. -/
structure AttribWriter (α : Type) where
  write : α -> Nat -> Option (List UInt8 × Nat)

/-- An attribute writer that stores only within the size it is given and
returns the number of bytes it stored. -/
def AttribWriter.StaysWithin {α : Type} (codec : AttribWriter α) : Prop :=
  ∀ attr bufLeft bytes writeRet, codec.write attr bufLeft = some (bytes, writeRet) ->
    writeRet = bytes.length ∧ bytes.length <= bufLeft

namespace UpdateMessage

variable {α : Type}

/-- The loop writing a route section, shared by the withdrawn routes and the
NLRI: `before` is `tot_written` when the loop starts, `buffer` the cursor and
`written` the section's count so far. -/
def writeRoutes (bufSz before : Nat) :
    List Route -> List UInt8 -> Nat -> Nat -> Encode (List UInt8 × Nat × Nat)
  | [], buf, buffer, written => pure (buf, buffer, written)
  | route :: rest, buf, buffer, written => do
      let routeLen := route.length
      let pfxBufSz := prefixBytes routeLen.toNat
      Encode.refuseIf (1 + written + pfxBufSz + before > bufSz)
      let buf <- store buf buffer [routeLen]
      let buf <- store buf (buffer + 1) (<- routeLenBytes routeLen pfxBufSz)
      writeRoutes bufSz before rest buf (buffer + 1 + pfxBufSz) (written + 1 + pfxBufSz)

/-- The attribute loop: each attribute gets `buf_left`, an `ssize_t` computed
from `size_t` operands, and is written at `buffer`, which stays where it is;
`written` is `written_attrib_length`. -/
def writeAttribs (codec : AttribWriter α) (bufSz totWritten buffer : Nat) :
    List α -> List UInt8 -> Nat -> Encode (List UInt8 × Nat)
  | [], buf, written => pure (buf, written)
  | attr :: rest, buf, written => do
      let bufLeft : Int := bufSz - written - totWritten
      Encode.assert (bufLeft >= 0)
      match codec.write attr bufLeft.toNat with
      | none => .error .refused
      | some (bytes, writeRet) =>
          let buf <- store buf buffer bytes
          writeAttribs codec bufSz totWritten buffer rest buf (written + writeRet)

/-- `BgpUpdateMessage::write(to, buf_sz)` with `buf_sz` the destination's
length: the destination's bytes afterwards, and the return value. -/
def write (codec : AttribWriter α) (msg : UpdateMessage α) (buf : List UInt8) :
    Encode (List UInt8 × Nat) := do
  let bufSz := buf.length
  Encode.refuseIf (bufSz < 4)
  let withdrawnRoutesLenPtr := 0
  let (buf, buffer, writtenWithdrawnLength) <-
    writeRoutes bufSz 0 msg.withdrawnRoutes buf (withdrawnRoutesLenPtr + 1) 0
  let buf <- store buf withdrawnRoutesLenPtr (u16Field writtenWithdrawnLength)
  let totWritten := writtenWithdrawnLength + 2
  let routeAttribLenPtr := buffer
  let buffer := buffer + 1
  let (buf, writtenAttribLength) <-
    writeAttribs codec bufSz totWritten buffer msg.pathAttribute buf 0
  let buf <- store buf routeAttribLenPtr (u16Field writtenAttribLength)
  let totWritten := totWritten + writtenAttribLength + 2
  let (buf, _, writtenNlriLen) <- writeRoutes bufSz totWritten msg.nlri buf buffer 0
  pure (buf, totWritten + writtenNlriLen)

/-- The attribute loop stores only from `buffer` on, and keeps the
destination's length. -/
theorem writeAttribs_frame (codec : AttribWriter α) (bufSz totWritten buffer : Nat)
    (attrs : List α) {buf out : List UInt8} {written total : Nat}
    (done : writeAttribs codec bufSz totWritten buffer attrs buf written = .ok (out, total)) :
    out.length = buf.length ∧ ∀ i < buffer, out[i]? = buf[i]? := by
  induction attrs generalizing buf written with
  | nil =>
    cases done
    exact ⟨rfl, fun _ _ => rfl⟩
  | cons attr rest ih =>
    simp only [writeAttribs, Encode.assert_bind] at done
    split at done
    · split at done
      · cases done
      · obtain ⟨stored, storedIn, done⟩ := bind_eq_ok.1 done
        obtain ⟨sameLength, below⟩ := ih done
        exact ⟨sameLength.trans (store_length storedIn),
          fun i inside => (below i inside).trans (store_getElem?_below storedIn inside)⟩
    · cases done

/-- Without routes, `write` returns `4` plus the attribute bytes it counted,
and stores the attribute length at offsets 1 and 2, over the low byte of the
withdrawn length and the first byte of the attributes: what it leaves at
offsets 0 to 2 is `0` and the attribute length's two bytes. -/
theorem write_without_routes (codec : AttribWriter α) (msg : UpdateMessage α)
    (noWithdrawn : msg.withdrawnRoutes = []) (noNlri : msg.nlri = [])
    {buf out : List UInt8} {n : Nat} (written : write codec msg buf = .ok (out, n)) :
    4 <= n ∧ out.length = buf.length ∧ out[0]? = some 0 ∧
      out[1]? = some (UInt8.ofNat ((n - 4) / 256)) ∧ out[2]? = some (UInt8.ofNat (n - 4)) := by
  simp only [write, noWithdrawn, noNlri, Encode.refuseIf, writeRoutes, bind_eq_ok, pure_eq_ok,
    ok_bind] at written
  obtain ⟨_, -, _, withdrawnLength, ⟨_, attribLength⟩, loop, _, attribLengthField, returned⟩ :=
    written
  obtain ⟨rfl, rfl⟩ := Prod.mk.inj (Except.ok.inj returned)
  obtain ⟨sameLength, below⟩ := writeAttribs_frame codec _ _ _ _ loop
  refine ⟨by omega, ?_, ?_, ?_, ?_⟩
  · rw [store_length attribLengthField, sameLength, store_length withdrawnLength]
  · rw [store_getElem?_below attribLengthField (by omega), below 0 (by omega)]
    exact store_getElem?_inside withdrawnLength (i := 0) (by decide)
  · simpa [u16Field] using store_getElem?_inside attribLengthField (i := 0) (by simp [u16Field])
  · simpa [u16Field] using store_getElem?_inside attribLengthField (i := 1) (by simp [u16Field])

/-- So for a message without routes whose attributes take 1 to 255 bytes,
`parse` of the bytes `write` counted refuses them, whatever the attribute
codec and the message parsed into: the attribute length it reads is the one
written times 256, plus a byte. -/
theorem parse_write_without_routes (parser : AttribParser α) (codec : AttribWriter α)
    (msg target : UpdateMessage α) (noWithdrawn : msg.withdrawnRoutes = []) (noNlri : msg.nlri = [])
    {buf out : List UInt8} {n : Nat} (written : write codec msg buf = .ok (out, n))
    (fits : n <= buf.length) (someAttribs : 4 < n) (short : n < 260) :
    parse parser target (out.take n) = fail (.update eAttrList) := by
  obtain ⟨_, sameLength, at0, at1, at2⟩ := write_without_routes codec msg noWithdrawn noNlri written
  have length : (out.take n).length = n := by simp [sameLength, fits]
  have high : UInt8.ofNat ((n - 4) / 256) = 0 := by rw [Nat.div_eq_of_lt (by omega)]; rfl
  have low : (UInt8.ofNat (n - 4)).toNat = n - 4 :=
    UInt8.toNat_ofNat_of_lt (show n - 4 < 256 by omega)
  obtain ⟨next, at3⟩ : exists next, (out.take n)[3]? = some next :=
    ⟨_, List.getElem?_eq_getElem (by omega)⟩
  have withdrawnLen : readU16 (out.take n) 0 = .ok 0 := by
    have at0 : (out.take n)[0]? = some 0 := by rw [List.getElem?_take_of_lt (by omega), at0]
    have at1 : (out.take n)[0 + 1]? = some 0 := by
      rw [List.getElem?_take_of_lt (by omega), at1, high]
    rw [readU16_of_getElem? at0 at1]; rfl
  have attributeLen : readU16 (out.take n) 2 = .ok ((n - 4) * 256 + next.toNat) := by
    have at2 : (out.take n)[2]? = some (UInt8.ofNat (n - 4)) := by
      rw [List.getElem?_take_of_lt (by omega), at2]
    rw [readU16_of_getElem? at2 at3, low]
  simp only [parse, length, failIf_bind, withdrawnLen, attributeLen, ok_bind, assert_bind,
    show ¬ n < 4 by omega, show ¬ 0 > n - 4 by omega, if_false]
  simp [parseRoutes, show (n - 4) * 256 + next.toNat + 0 + 4 > n by omega]

/-! ## The round trip of the framing -/

/-- An attribute codec whose parse reads back exactly what its write stored
and returns that count, the write staying within the space it was given: the
codecs a round trip of the framing is stated for. -/
def RoundTrips (parser : AttribParser α) (writer : AttribWriter α) : Prop :=
  forall attr bufLeft bytes writeRet, writer.write attr bufLeft = some (bytes, writeRet) ->
    writeRet = bytes.length ∧ bytes.length <= bufLeft ∧
      forall attrType use4bAsn suffix length, bytes.length <= length ->
        length <= (bytes ++ suffix).length ->
          parser.parse attrType use4bAsn (bytes ++ suffix) length = .ok (attr, bytes.length)

/-- The writer of bare attributes: an attribute is its type code, written as
a well-known transitive attribute with an empty value. -/
def bareWriter : AttribWriter UInt8 :=
  ⟨fun type bufLeft => if bufLeft < 3 then none else some ([64, type, 0], 3)⟩

/-- The parser of bare attributes. -/
def bareParser : AttribParser UInt8 where
  typeCode := id
  parse _ _ buf length := do
    failIf (length < 3) (.update eUnspecUpdate)
    let type <- readByte buf 1
    let valueLen <- readByte buf 2
    failIf (valueLen ≠ 0) (.update eAttrLen)
    pure (type, 3)

theorem bare_roundTrips : RoundTrips bareParser bareWriter := by
  intro type bufLeft bytes writeRet written
  simp only [bareWriter] at written
  split at written
  · cases written
  · cases written
    refine ⟨rfl, by simp; omega, fun _ _ suffix length fits _ => ?_⟩
    simp only [List.length_cons, List.length_nil] at fits
    simp [bareParser, readByte, show ¬ length < 3 by omega]

/-- One bare attribute written into ten bytes. -/
theorem parse_write_one_bare_attribute :
    let msg : UpdateMessage UInt8 := ⟨false, [], [1], []⟩
    msg.withdrawnRoutes = [] ∧ msg.nlri = [] ∧
      ∃ out, write bareWriter msg (List.replicate 10 0) = .ok (out, 7) ∧
        7 <= (List.replicate 10 (0 : UInt8)).length ∧ 4 < 7 ∧ 7 < 260 ∧
        parse bareParser msg (out.take 7) = fail (.update eAttrList) := by
  obtain ⟨out, written⟩ :
      ∃ out, write bareWriter ⟨false, [], [1], []⟩ (List.replicate 10 0) = .ok (out, 7) := ⟨_, rfl⟩
  exact ⟨rfl, rfl, out, written, by decide, by decide, by decide,
    parse_write_without_routes bareParser bareWriter _ _ rfl rfl written (by decide) (by decide) (by decide)⟩

theorem RoundTrips.staysWithin {parser : AttribParser α} {writer : AttribWriter α}
    (trips : RoundTrips parser writer) : writer.StaysWithin :=
  fun attr bufLeft bytes writeRet written =>
    ⟨(trips attr bufLeft bytes writeRet written).1, (trips attr bufLeft bytes writeRet written).2.1⟩

/-- Two ways `write` leaves the destination's bounds, with a writer that
stays within the size it is given.  One bare attribute into 5 bytes: the
attribute gets `buf_left = 3` and stores its 3 bytes at offsets 2 to 4, and
`write` returns 7.  Two withdrawn `/8` prefixes into 4 bytes: the size check
`1 + written + pfx_buf_sz + tot_written > buf_sz` does not count the withdrawn
length field, so the second prefix byte goes to offset 4. -/
theorem write_exceeds_buffer :
    bareWriter.StaysWithin ∧
    write bareWriter ⟨false, [], [1], []⟩ (List.replicate 5 0) = .ok ([0, 0, 3, 1, 0], 7) ∧
    write bareWriter ⟨false, [⟨0, 8⟩, ⟨0, 8⟩], [], []⟩ (List.replicate 4 0) = .error .undefined :=
  ⟨bare_roundTrips.staysWithin, rfl, rfl⟩

/-- ORIGIN, AS_PATH and NEXT_HOP as bare attributes, without routes, into a
destination of the 13 bytes their encoding takes: `write` returns 13, but
the three attributes went to the same offset and the attribute length `9`
to offset 1, so `parse` of those 13 bytes reads an attribute length of
`0x0903` and refuses the message. -/
theorem write_then_parse_rejects_three_attributes :
    RoundTrips bareParser bareWriter ∧
    write bareWriter ⟨false, [], [1, 2, 3], []⟩ (List.replicate 13 0) =
      .ok ([0, 0, 9, 3, 0, 0, 0, 0, 0, 0, 0, 0, 0], 13) ∧
    parse bareParser ⟨false, [], [], []⟩ [0, 0, 9, 3, 0, 0, 0, 0, 0, 0, 0, 0, 0] =
      fail (.update eAttrList) :=
  ⟨bare_roundTrips, rfl, rfl⟩

end UpdateMessage

end Libbgp
