import Libbgp.UpdateMessage.Write
import Mathlib.Algebra.Group.Nat.Basic

namespace Libbgp

/-!
# The layout `parse` reads

An UPDATE body is the withdrawn routes behind their two-byte length, the
attribute section behind its own, and the NLRI to the end; a route is its
`route_len` byte and the `(route_len + 7) / 8` bytes of its prefix.  This
module states that layout as a function of its parts, `layout`, and shows
that `BgpUpdateMessage::parse` is its decoder:

* every buffer `parse` accepts, with an attribute codec that stays inside its
  buffer, is the layout of the routes it appended, every route well formed,
  around an attribute section from which it parsed the attributes it appended;
* every layout of well-formed routes around a section of attributes the codec
  reads back is accepted, with exactly those routes and attributes appended,
  when the message's attributes then pass `validateAttribs`.

The route loop is taken first, one lemma each way, by induction over the
loop's rounds; the framing is then assembled from the two loops.
-/

/-! ## Prefix bytes -/

/-- The low `n` bytes of `value`, lowest first: the bytes of a host integer
as `memcpy` copies them out, the inverse of `hostValue`. -/
def hostBytes : Nat -> Nat -> List UInt8
  | 0, _ => []
  | n + 1, value => UInt8.ofNat value :: hostBytes n (value / 256)

@[simp] theorem length_hostBytes (n value : Nat) : (hostBytes n value).length = n := by
  induction n generalizing value <;> simp [hostBytes, *]

@[simp] theorem hostValue_nil : hostValue [] = 0 := rfl

@[simp] theorem hostValue_cons (byte : UInt8) (rest : List UInt8) :
    hostValue (byte :: rest) = byte.toNat + 256 * hostValue rest := rfl

theorem hostValue_lt (bytes : List UInt8) : hostValue bytes < 256 ^ bytes.length := by
  induction bytes with
  | nil => simp
  | cons byte rest ih =>
    have low : byte.toNat < 256 := byte.toNat_lt_size
    rw [hostValue_cons, List.length_cons, Nat.pow_succ]
    omega

theorem hostBytes_hostValue (bytes : List UInt8) : hostBytes bytes.length (hostValue bytes) = bytes := by
  induction bytes with
  | nil => rfl
  | cons byte rest ih =>
    have low : byte.toNat < 256 := byte.toNat_lt_size
    have first : UInt8.ofNat (byte.toNat + 256 * hostValue rest) = byte :=
      UInt8.toNat.inj (by simp [UInt8.toNat, UInt8.ofNat]; omega)
    have next : (byte.toNat + 256 * hostValue rest) / 256 = hostValue rest := by omega
    rw [List.length_cons, hostValue_cons, hostBytes, first, next, ih]

theorem hostValue_hostBytes (n : Nat) {value : Nat} (fits : value < 256 ^ n) :
    hostValue (hostBytes n value) = value := by
  induction n generalizing value with
  | zero => simp_all [hostBytes]
  | succ n ih =>
    rw [Nat.pow_succ] at fits
    rw [hostBytes, hostValue_cons, ih (by omega)]
    simp [UInt8.toNat, UInt8.ofNat]
    omega

/-! ## Routes on the wire -/

/-- A route as the loops of `parse` read it: `route_len`, then the bytes of
the prefix member that `(route_len + 7) / 8` covers. -/
def Route.encode (route : Route) : List UInt8 :=
  route.length :: hostBytes (prefixBytes route.length.toNat) route.addr.toNat

/-- A route section: the routes' encodings one after the other. -/
def encodeRoutes (routes : List Route) : List UInt8 :=
  routes.flatMap Route.encode

/-- A route that its encoding carries whole: at most 32 bits long, and no
byte of the prefix member set beyond those the length covers. -/
structure Route.WellFormed (route : Route) : Prop where
  short : route.length.toNat <= 32
  covered : route.addr.toNat < 256 ^ prefixBytes route.length.toNat

instance : DecidablePred Route.WellFormed := fun route =>
  decidable_of_iff (route.length.toNat <= 32 ∧
      route.addr.toNat < 256 ^ prefixBytes route.length.toNat)
    ⟨fun ⟨short, covered⟩ => ⟨short, covered⟩, fun ⟨short, covered⟩ => ⟨short, covered⟩⟩

@[simp] theorem encodeRoutes_nil : encodeRoutes [] = [] := rfl

@[simp] theorem encodeRoutes_cons (route : Route) (routes : List Route) :
    encodeRoutes (route :: routes) = route.encode ++ encodeRoutes routes := rfl

theorem length_le_encodeRoutes (routes : List Route) :
    routes.length <= (encodeRoutes routes).length := by
  induction routes <;> simp [Route.encode]; omega

theorem read_route {routeLen : UInt8} {addr : List UInt8} (short : routeLen.toNat <= 32)
    (length : addr.length = prefixBytes routeLen.toNat) :
    (Route.mk (UInt32.ofNat (hostValue addr)) routeLen).encode = routeLen :: addr ∧
      (Route.mk (UInt32.ofNat (hostValue addr)) routeLen).WellFormed := by
  have fits := hostValue_lt addr
  rw [length] at fits
  have wide := Nat.pow_le_pow_right (show 0 < 256 by decide) (prefixBytes_le_four short)
  have value : (UInt32.ofNat (hostValue addr)).toNat = hostValue addr := by
    simp [UInt32.toNat, UInt32.ofNat]; omega
  refine ⟨?_, short, by simpa only [value] using fits⟩
  rw [Route.encode, value, ← length, hostBytes_hostValue]

theorem read_encoded (route : Route) (formed : route.WellFormed) :
    Route.mk (UInt32.ofNat (hostValue (hostBytes (prefixBytes route.length.toNat) route.addr.toNat)))
      route.length = route := by
  rw [hostValue_hostBytes _ formed.covered]
  exact congrArg (Route.mk · route.length) (UInt32.toNat.inj (by simp [UInt32.toNat, UInt32.ofNat]))

theorem take_drop_add {β : Type} (l : List β) (off a b : Nat) :
    (l.drop off).take (a + b) = (l.drop off).take a ++ (l.drop (off + a)).take b := by
  rw [List.take_add, List.drop_drop]

theorem take_drop_succ {β : Type} {l : List β} {off : Nat} {x : β} (found : l[off]? = some x) (n : Nat) :
    (l.drop off).take (n + 1) = x :: (l.drop (off + 1)).take n := by
  obtain ⟨inside, rfl⟩ := List.getElem?_eq_some_iff.1 found
  rw [List.drop_eq_getElem_cons inside, List.take_succ_cons]

theorem readByte_eq_ok {buf : List UInt8} {off : Nat} {byte : UInt8} :
    readByte buf off = .ok byte ↔ buf[off]? = some byte := by
  unfold readByte; split <;> simp [*]

theorem assert_eq_ok {cond : Prop} [Decidable cond] {u : Unit} : assert cond = .ok u ↔ cond := by
  unfold assert; split <;> simp_all

theorem failIf_eq_ok {cond : Prop} [Decidable cond] {err : BgpError} {u : Unit} :
    failIf cond err = .ok u ↔ ¬cond := by
  unfold failIf; split <;> simp_all [fail]

namespace UpdateMessage

/-! ## The route loop -/

/-- The route loop reads an encoded route section: the `len - parsed` bytes
left of it are the encodings of the routes it returns, each well formed, and
it stops at `len`. -/
theorem parseRoutes_sound {buf : List UInt8} {base len : Nat} (fuel parsed : Nat)
    {routes : List Route} {parsedEnd : Nat} (started : parsed <= len)
    (read : parseRoutes buf base len fuel parsed = .ok (routes, parsedEnd)) :
    parsedEnd = len ∧ (buf.drop (base + parsed)).take (len - parsed) = encodeRoutes routes ∧
      ∀ route ∈ routes, route.WellFormed := by
  induction fuel generalizing parsed routes parsedEnd with
  | zero =>
    simp only [parseRoutes] at read
    split at read
    · cases read
    · obtain ⟨rfl, rfl⟩ := Prod.mk.inj (Except.ok.inj read)
      exact ⟨by omega, by simp [show len - parsed = 0 by omega], nofun⟩
  | succ fuel ih =>
    simp only [parseRoutes] at read
    split at read
    case isFalse =>
      obtain ⟨rfl, rfl⟩ := Prod.mk.inj (Except.ok.inj read)
      exact ⟨by omega, by simp [show len - parsed = 0 by omega], nofun⟩
    case isTrue =>
    simp only [bind_eq_ok, failIf_eq_ok] at read
    obtain ⟨_, -, routeLen, atLen, _, short, _, inside, addr, addrRead, ⟨rest, restEnd⟩, loop,
      returned⟩ := read
    obtain ⟨rfl, rfl⟩ := Prod.mk.inj (Except.ok.inj returned)
    obtain ⟨rfl, restBytes, restFormed⟩ := ih _ (by omega) loop
    simp only [readBytes] at addrRead
    split at addrRead
    case isFalse => cases addrRead
    cases addrRead
    dsimp only
    obtain ⟨encoded, formed⟩ := read_route
      (by simpa [UInt8.lt_def, BitVec.lt_def] using short)
      (show ((buf.drop (base + parsed + 1)).take (prefixBytes routeLen.toNat)).length =
        prefixBytes routeLen.toNat by simp; omega)
    refine ⟨rfl, ?_, by simpa using ⟨formed, restFormed⟩⟩
    rw [show restEnd - parsed = (prefixBytes routeLen.toNat +
        (restEnd - (parsed + 1 + prefixBytes routeLen.toNat))) + 1 by omega,
      take_drop_succ (readByte_eq_ok.1 atLen), take_drop_add,
      show base + parsed + 1 + prefixBytes routeLen.toNat =
        base + (parsed + 1 + prefixBytes routeLen.toNat) by omega, restBytes, encodeRoutes_cons,
      encoded, List.cons_append]

/-- And it reads every encoded section back: from `parsed` on, the
encodings of well-formed routes up to `len` give those routes, with a round
of fuel per route. -/
theorem parseRoutes_encodeRoutes {buf : List UInt8} {base len : Nat} {rest : List UInt8}
    (routes : List Route) (formed : ∀ route ∈ routes, route.WellFormed) {fuel parsed : Nat}
    (laid : buf.drop (base + parsed) = encodeRoutes routes ++ rest)
    (ends : len = parsed + (encodeRoutes routes).length) (enough : routes.length <= fuel) :
    parseRoutes buf base len fuel parsed = .ok (routes, len) := by
  induction routes generalizing fuel parsed with
  | nil =>
    simp only [encodeRoutes_nil, List.length_nil, Nat.add_zero] at ends
    subst ends
    cases fuel <;> simp [parseRoutes]
  | cons route routes ih =>
    obtain ⟨fuel, rfl⟩ : ∃ rounds, fuel = rounds + 1 := ⟨fuel - 1, by simp at enough; omega⟩
    have lengthByte : buf[base + parsed]? = some route.length := by
      have := congrArg (·[0]?) laid
      simp only [List.getElem?_drop, Nat.add_zero, encodeRoutes_cons, Route.encode,
        List.cons_append, List.getElem?_cons_zero] at this
      exact this
    have prefixAt : buf.drop (base + parsed + 1) =
        hostBytes (prefixBytes route.length.toNat) route.addr.toNat ++ (encodeRoutes routes ++ rest) := by
      rw [← List.drop_drop, laid]; simp [Route.encode]
    have fits : base + parsed + 1 + prefixBytes route.length.toNat <= buf.length := by
      have := congrArg List.length laid
      simp only [List.length_drop, List.length_append, encodeRoutes_cons, Route.encode,
        List.length_cons, length_hostBytes] at this
      omega
    have restAt : buf.drop (base + (parsed + 1 + prefixBytes route.length.toNat)) =
        encodeRoutes routes ++ rest := by
      rw [← Nat.add_assoc, ← Nat.add_assoc, ← List.drop_drop, prefixAt,
        List.drop_left' (length_hostBytes _ _)]
    have short : ¬route.length > 32 := by
      simpa [UInt8.lt_def, BitVec.lt_def] using (formed route (List.mem_cons_self _ _)).short
    simp only [encodeRoutes_cons, Route.encode, List.length_append, List.length_cons,
      length_hostBytes] at ends
    rw [parseRoutes, if_pos (by omega)]
    simp only [failIf_bind, if_neg (show ¬len - parsed < 1 by omega), readByte, lengthByte,
      ok_bind, if_neg short, if_neg (show ¬parsed + 1 + prefixBytes route.length.toNat > len by omega),
      readBytes, if_pos fits, prefixAt, List.take_left' (length_hostBytes _ _),
      ih (fun r member => formed r (List.mem_cons_of_mem _ member)) restAt (by omega)
        (by simpa using enough),
      read_encoded route (formed route (List.mem_cons_self _ _)), pure_eq_ok]

/-! ## The attribute loop -/

variable {α : Type}

/-- `bytes` encode `attr` for a codec: they are at least a header long, their
type code is below 128, so that `GetTypeFromBuffer` reads it as non-negative,
and the codec's parser for that type code reads `attr` back from them and
returns their length, whatever follows them and whatever part of the section
it is handed. -/
structure Encodes (codec : AttribParser α) (use4bAsn : Bool) (attr : α) (bytes : List UInt8) :
    Prop where
  long : 3 <= bytes.length
  readBack : ∃ type, bytes[1]? = some type ∧ type.toNat < 128 ∧
    ∀ suffix length, bytes.length <= length -> length <= (bytes ++ suffix).length ->
      codec.parse type use4bAsn (bytes ++ suffix) length = .ok (attr, bytes.length)

/-- The attribute loop reads a section of encoded attributes back, one round
of fuel each, and stops at the section's end. -/
theorem parseAttribs_encoded {codec : AttribParser α} {use4bAsn : Bool} {buf : List UInt8}
    {attributeLen : Nat} {rest : List UInt8} (pieces : List (α × List UInt8))
    (encoded : ∀ piece ∈ pieces, Encodes codec use4bAsn piece.1 piece.2) {fuel offset parsed : Nat}
    (laid : buf.drop offset = pieces.flatMap Prod.snd ++ rest)
    (ends : attributeLen = parsed + (pieces.flatMap Prod.snd).length) (short : attributeLen < 65536)
    (enough : pieces.length <= fuel) :
    parseAttribs codec use4bAsn buf attributeLen fuel offset parsed =
      .ok (pieces.map Prod.fst, offset + (pieces.flatMap Prod.snd).length, attributeLen) := by
  induction pieces generalizing fuel offset parsed with
  | nil =>
    simp only [List.flatMap_nil, List.length_nil, Nat.add_zero] at ends
    subst ends
    cases fuel <;> simp [parseAttribs]
  | cons piece pieces ih =>
    obtain ⟨attr, bytes⟩ := piece
    obtain ⟨long, type, typeAt, typeSmall, readBack⟩ : Encodes codec use4bAsn attr bytes :=
      encoded _ (List.mem_cons_self _ _)
    obtain ⟨fuel, rfl⟩ : ∃ rounds, fuel = rounds + 1 := ⟨fuel - 1, by simp at enough; omega⟩
    simp only [List.flatMap_cons, List.length_append, List.append_assoc] at laid ends ⊢
    have fits := congrArg List.length laid
    simp only [List.length_drop, List.length_append] at fits
    have typeRead : getTypeFromBuffer (buf.drop offset) (attributeLen - parsed) =
        .ok (type.toNat : Int) := by
      have found : (buf.drop offset)[1]? = some type := by
        rw [laid, List.getElem?_append_left (by omega), typeAt]
      simp [getTypeFromBuffer, show ¬attributeLen - parsed < 3 by omega, readByte, found,
        typeSmall]
    have restAt : buf.drop (offset + bytes.length) = pieces.flatMap Prod.snd ++ rest := by
      rw [← List.drop_drop, laid, List.drop_left' rfl]
    have code : (type.toNat : Int).toNat.toUInt8 = type :=
      UInt8.toNat.inj (by simp [Nat.toUInt8, UInt8.toNat, UInt8.ofNat])
    have parsedAttr : codec.parse type use4bAsn (buf.drop offset) (attributeLen - parsed) =
        .ok (attr, bytes.length) := by
      rw [laid]; exact readBack _ _ (by omega) (by simp only [List.length_append]; omega)
    have next := @ih (fun p member => encoded p (List.mem_cons_of_mem _ member)) fuel
      (offset + bytes.length) (parsed + bytes.length) restAt (by omega) (by simpa using enough)
    rw [parseAttribs, if_pos (by omega)]
    simp only [failIf_bind, if_neg (show ¬attributeLen - parsed < 3 by omega), typeRead, ok_bind,
      if_neg (show ¬(type.toNat : Int) < 0 by omega), code, parsedAttr,
      Nat.mod_eq_of_lt (show parsed + bytes.length < 65536 by omega), next, List.map_cons,
      pure_eq_ok, Nat.add_assoc]

theorem length_le_of_encodes {codec : AttribParser α} {use4bAsn : Bool}
    (pieces : List (α × List UInt8)) (encoded : ∀ piece ∈ pieces, Encodes codec use4bAsn piece.1 piece.2) :
    pieces.length <= (pieces.flatMap Prod.snd).length := by
  induction pieces with
  | nil => simp
  | cons piece pieces ih =>
    have long := (encoded piece (List.mem_cons_self _ _)).long
    have rest := ih fun p member => encoded p (List.mem_cons_of_mem _ member)
    simp only [List.length_cons, List.flatMap_cons, List.length_append]
    omega

/-! ## The framing -/

/-- An UPDATE body laid out from its parts: the withdrawn routes behind
their length, the attribute section behind its length, and the NLRI to the
end. -/
def layout (withdrawn : List Route) (attributes : List UInt8) (nlri : List Route) : List UInt8 :=
  u16Field (encodeRoutes withdrawn).length ++ encodeRoutes withdrawn ++
    u16Field attributes.length ++ attributes ++ encodeRoutes nlri

theorem readU16_u16Field {buf rest : List UInt8} {off n : Nat}
    (laid : buf.drop off = u16Field n ++ rest) (short : n < 65536) : readU16 buf off = .ok n := by
  have high := congrArg (·[0]?) laid
  have low := congrArg (·[1]?) laid
  simp only [List.getElem?_drop, Nat.add_zero, u16Field, List.cons_append,
    List.getElem?_cons_zero, List.getElem?_cons_succ] at high low
  rw [readU16_of_getElem? high low]
  simp [UInt8.toNat, UInt8.ofNat]
  omega

theorem u16Field_of_readU16 {buf : List UInt8} {off n : Nat} (read : readU16 buf off = .ok n) :
    (buf.drop off).take 2 = u16Field n ∧ n < 65536 := by
  simp only [readU16, bind_eq_ok, readByte_eq_ok, pure_eq_ok, Except.ok.injEq] at read
  obtain ⟨high, highAt, low, lowAt, rfl⟩ := read
  have highSmall : high.toNat < 256 := high.toNat_lt_size
  have lowSmall : low.toNat < 256 := low.toNat_lt_size
  refine ⟨?_, by omega⟩
  rw [take_drop_succ highAt, take_drop_succ lowAt, List.take_zero, u16Field]
  congr 2 <;> apply UInt8.toNat.inj <;> simp [UInt8.toNat, UInt8.ofNat] <;> omega

section Layout

variable (withdrawn : List Route) (attributes : List UInt8) (nlri : List Route)

theorem length_u16Field (n : Nat) : (u16Field n).length = 2 := rfl

theorem layout_eq : layout withdrawn attributes nlri = u16Field (encodeRoutes withdrawn).length ++
    (encodeRoutes withdrawn ++ (u16Field attributes.length ++ (attributes ++ encodeRoutes nlri))) := by
  simp only [layout, List.append_assoc]

theorem length_layout : (layout withdrawn attributes nlri).length =
    4 + (encodeRoutes withdrawn).length + attributes.length + (encodeRoutes nlri).length := by
  simp only [layout, List.length_append, u16Field, List.length_cons, List.length_nil]
  omega

theorem layout_drop_withdrawn : (layout withdrawn attributes nlri).drop (2 + 0) =
    encodeRoutes withdrawn ++ (u16Field attributes.length ++ (attributes ++ encodeRoutes nlri)) := by
  rw [layout_eq, Nat.add_zero, List.drop_left' (length_u16Field _)]

theorem layout_drop_attributeLen :
    (layout withdrawn attributes nlri).drop (2 + (encodeRoutes withdrawn).length) =
      u16Field attributes.length ++ (attributes ++ encodeRoutes nlri) := by
  rw [← List.drop_drop, layout_drop_withdrawn, List.drop_left' rfl]

theorem layout_drop_attributes :
    (layout withdrawn attributes nlri).drop (4 + (encodeRoutes withdrawn).length) =
      attributes ++ encodeRoutes nlri := by
  rw [show 4 + (encodeRoutes withdrawn).length = 2 + (encodeRoutes withdrawn).length + 2 by omega,
    ← List.drop_drop, layout_drop_attributeLen, List.drop_left' (length_u16Field _)]

theorem layout_drop_nlri :
    (layout withdrawn attributes nlri).drop (4 + (encodeRoutes withdrawn).length + attributes.length + 0) =
      encodeRoutes nlri ++ [] := by
  rw [Nat.add_zero, ← List.drop_drop, layout_drop_attributes, List.drop_left' rfl, List.append_nil]

end Layout

/-- `parse` reads every layout back: well-formed routes, and attributes
encoded for the codec, in sections short enough for their length fields,
are appended to the message as they were laid out, when its attributes then
pass `validateAttribs`; `parse` returns the body's length. -/
theorem parse_layout (codec : AttribParser α) (msg : UpdateMessage α) {withdrawn nlri : List Route}
    {pieces : List (α × List UInt8)} (formed : ∀ route ∈ withdrawn ++ nlri, route.WellFormed)
    (encoded : ∀ piece ∈ pieces, Encodes codec msg.use4bAsn piece.1 piece.2)
    (withdrawnShort : (encodeRoutes withdrawn).length < 65536)
    (attributesShort : (pieces.flatMap Prod.snd).length < 65536)
    (valid : validateAttribs codec.typeCode (msg.pathAttribute ++ pieces.map Prod.fst) = none) :
    parse codec msg (layout withdrawn (pieces.flatMap Prod.snd) nlri) =
      .ok ({ msg with withdrawnRoutes := msg.withdrawnRoutes ++ withdrawn,
                      pathAttribute := msg.pathAttribute ++ pieces.map Prod.fst,
                      nlri := msg.nlri ++ nlri },
        (layout withdrawn (pieces.flatMap Prod.snd) nlri).length) := by
  have size := length_layout withdrawn (pieces.flatMap Prod.snd) nlri
  have withdrawnRead : readU16 (layout withdrawn (pieces.flatMap Prod.snd) nlri) 0 =
      .ok (encodeRoutes withdrawn).length :=
    readU16_u16Field (by rw [List.drop_zero, layout_eq]) withdrawnShort
  have withdrawnLoop := parseRoutes_encodeRoutes withdrawn
    (fun route member => formed route (List.mem_append_left _ member))
    (layout_drop_withdrawn withdrawn (pieces.flatMap Prod.snd) nlri) (Nat.zero_add _).symm
    (length_le_encodeRoutes withdrawn)
  have attributesRead := readU16_u16Field
    (layout_drop_attributeLen withdrawn (pieces.flatMap Prod.snd) nlri) attributesShort
  have attribsLoop := parseAttribs_encoded pieces encoded
    (layout_drop_attributes withdrawn (pieces.flatMap Prod.snd) nlri) (Nat.zero_add _).symm
    attributesShort (length_le_of_encodes pieces encoded)
  have nlriLen : (layout withdrawn (pieces.flatMap Prod.snd) nlri).length - 4 -
      (pieces.flatMap Prod.snd).length - (encodeRoutes withdrawn).length =
        (encodeRoutes nlri).length := by omega
  have nlriLoop := parseRoutes_encodeRoutes nlri
    (fun route member => formed route (List.mem_append_right _ member))
    (layout_drop_nlri withdrawn (pieces.flatMap Prod.snd) nlri) (Nat.zero_add _).symm
    (length_le_encodeRoutes nlri)
  have long : ¬(layout withdrawn (pieces.flatMap Prod.snd) nlri).length < 4 := by omega
  have withdrawnFits : ¬(encodeRoutes withdrawn).length >
      (layout withdrawn (pieces.flatMap Prod.snd) nlri).length - 4 := by omega
  have attributesFit : ¬(pieces.flatMap Prod.snd).length + (encodeRoutes withdrawn).length + 4 >
      (layout withdrawn (pieces.flatMap Prod.snd) nlri).length := by omega
  simp only [parse, failIf_bind, if_neg long, withdrawnRead, ok_bind, if_neg withdrawnFits,
    withdrawnLoop, assert_bind, if_pos, attributesRead, if_neg attributesFit, attribsLoop, valid,
    nlriLen, nlriLoop, pure_eq_ok]
  rw [if_pos (by omega)]

theorem bare_encodes (use4bAsn : Bool) {type : UInt8} (small : type.toNat < 128) :
    Encodes bareParser use4bAsn type [64, type, 0] :=
  ⟨Nat.le_refl _, type, rfl, small, fun suffix length long _ => by
    simp only [List.length_cons, List.length_nil] at long
    simp [bareParser, readByte, show ¬length < 3 by omega]⟩

/-- A withdrawn `/8`, the three mandatory attributes as bare attributes, and
an NLRI `/24`. -/
theorem parse_layout_of_bare_attributes :
    (∀ route ∈ [Route.mk 10 8] ++ [Route.mk 0x01a8c0 24], route.WellFormed) ∧
    (∀ piece ∈ [((1 : UInt8), [64, 1, 0]), (2, [64, 2, 0]), (3, [64, 3, 0])],
      Encodes bareParser false piece.1 piece.2) ∧
    (encodeRoutes [Route.mk 10 8]).length < 65536 ∧
    ([((1 : UInt8), [64, 1, 0]), (2, [64, 2, 0]), (3, [64, 3, 0])].flatMap Prod.snd).length < 65536 ∧
    validateAttribs bareParser.typeCode
      (([] : List UInt8) ++ [((1 : UInt8), [64, 1, 0]), (2, [64, 2, 0]), (3, [64, 3, 0])].map Prod.fst) =
        none ∧
    parse bareParser ⟨false, [], [], []⟩ (layout [Route.mk 10 8]
        ([((1 : UInt8), [64, 1, 0]), (2, [64, 2, 0]), (3, [64, 3, 0])].flatMap Prod.snd)
        [Route.mk 0x01a8c0 24]) =
      .ok ({ (⟨false, [], [], []⟩ : UpdateMessage UInt8) with
              withdrawnRoutes := [] ++ [Route.mk 10 8],
              pathAttribute := [] ++ [((1 : UInt8), [64, 1, 0]), (2, [64, 2, 0]), (3, [64, 3, 0])].map Prod.fst,
              nlri := [] ++ [Route.mk 0x01a8c0 24] },
        (layout [Route.mk 10 8]
          ([((1 : UInt8), [64, 1, 0]), (2, [64, 2, 0]), (3, [64, 3, 0])].flatMap Prod.snd)
          [Route.mk 0x01a8c0 24]).length) := by
  have formed : ∀ route ∈ [Route.mk 10 8] ++ [Route.mk 0x01a8c0 24], route.WellFormed := by decide
  have encoded : ∀ piece ∈ [((1 : UInt8), [64, 1, 0]), (2, [64, 2, 0]), (3, [64, 3, 0])],
      Encodes bareParser false piece.1 piece.2 := by
    intro piece member
    simp only [List.mem_cons, List.mem_singleton, List.not_mem_nil, or_false] at member
    rcases member with rfl | rfl | rfl <;> exact bare_encodes false (by decide)
  exact ⟨formed, encoded, by decide, by decide, by decide,
    parse_layout bareParser ⟨false, [], [], []⟩ formed encoded (by decide) (by decide) (by decide)⟩

/-- Every body `parse` accepts, with a codec whose parsers stay inside their
buffer, is a layout: of the withdrawn routes and NLRI it appended, each well
formed, around an attribute section, each section within its length field;
and the attributes it appended leave the message's list passing
`validateAttribs`.  `parse` then returns the body's length. -/
theorem parse_accepts_only_layouts {codec : AttribParser α} (bounded : codec.Bounded)
    (msg : UpdateMessage α) (buf : List UInt8) {result : UpdateMessage α × Nat}
    (accepted : parse codec msg buf = .ok result) :
    result.2 = buf.length ∧ ∃ withdrawn attributes attribs nlri,
      buf = layout withdrawn attributes nlri ∧
      (encodeRoutes withdrawn).length < 65536 ∧ attributes.length < 65536 ∧
      (∀ route ∈ withdrawn ++ nlri, route.WellFormed) ∧
      result.1 = { msg with withdrawnRoutes := msg.withdrawnRoutes ++ withdrawn,
                            pathAttribute := msg.pathAttribute ++ attribs,
                            nlri := msg.nlri ++ nlri } ∧
      validateAttribs codec.typeCode result.1.pathAttribute = none := by
  simp only [parse, bind_eq_ok, failIf_eq_ok, assert_eq_ok] at accepted
  obtain ⟨_, long, _, withdrawnRead, _, withdrawnFits, ⟨withdrawn, withdrawnLen⟩,
    withdrawnLoop, _, rfl, _, attributesRead, _, attributesFit,
    ⟨attribs, nlriStart, attributeLen⟩, attribsLoop, rest⟩ := accepted
  split at rest
  case h_1 => exact absurd rest (fail_ne_ok _ _)
  rename_i valid
  simp only [bind_eq_ok, assert_eq_ok, pure_eq_ok] at rest
  obtain ⟨_, rfl, ⟨nlri, nlriLen⟩, nlriLoop, _, total, returned⟩ := rest
  obtain rfl := Except.ok.inj returned
  dsimp only at *
  obtain ⟨withdrawnField, withdrawnShort⟩ := u16Field_of_readU16 withdrawnRead
  obtain ⟨attributesField, attributesShort⟩ := u16Field_of_readU16 attributesRead
  obtain ⟨-, withdrawnBytes, withdrawnFormed⟩ :=
    parseRoutes_sound _ 0 (Nat.zero_le _) withdrawnLoop
  have attribsDone : Completes (fun result => result.2.1 = 4 + withdrawnLen + (attributeLen - 0) ∧
      result.2.2 = attributeLen)
      (parseAttribs codec msg.use4bAsn buf attributeLen attributeLen (4 + withdrawnLen) 0) :=
    parseAttribs_completes bounded msg.use4bAsn attributesShort attributeLen (4 + withdrawnLen) 0
      (Nat.zero_le _) (by omega) (Nat.le_refl _)
  rw [attribsLoop, completes_ok] at attribsDone
  obtain ⟨rfl, -⟩ := attribsDone
  obtain ⟨rfl, nlriBytes, nlriFormed⟩ := parseRoutes_sound _ 0 (Nat.zero_le _) nlriLoop
  simp only [Nat.sub_zero, Nat.add_zero] at withdrawnBytes nlriBytes
  have withdrawnLength : (encodeRoutes withdrawn).length = withdrawnLen := by
    rw [← withdrawnBytes]; simp; omega
  have attributesLength : ((buf.drop (4 + withdrawnLen)).take attributeLen).length = attributeLen := by
    simp; omega
  refine ⟨rfl, withdrawn, (buf.drop (4 + withdrawnLen)).take attributeLen, attribs, nlri, ?_,
    by omega, by omega, fun route member => ?_, rfl, valid⟩
  · calc buf
        = (buf.drop 0).take (2 + (withdrawnLen + (2 + (attributeLen +
            (buf.length - 4 - attributeLen - withdrawnLen))))) := by
          rw [List.drop_zero, List.take_of_length_le (by omega)]
      _ = (buf.drop 0).take 2 ++ ((buf.drop 2).take withdrawnLen ++
            ((buf.drop (2 + withdrawnLen)).take 2 ++ ((buf.drop (4 + withdrawnLen)).take attributeLen ++
              (buf.drop (4 + withdrawnLen + attributeLen)).take
                (buf.length - 4 - attributeLen - withdrawnLen)))) := by
          rw [take_drop_add, take_drop_add, take_drop_add, take_drop_add, Nat.zero_add,
            show 2 + withdrawnLen + 2 = 4 + withdrawnLen by omega]
      _ = layout withdrawn ((buf.drop (4 + withdrawnLen)).take attributeLen) nlri := by
          rw [withdrawnField, withdrawnBytes, attributesField, nlriBytes, layout_eq, withdrawnLength,
            attributesLength]
  · rcases List.mem_append.1 member with early | late
    · exact withdrawnFormed route early
    · exact nlriFormed route late

/-- A message already holding ORIGIN, AS_PATH and NEXT_HOP, and a body with
a withdrawn `/8`, no attributes and an NLRI `/24`, parsed with the library's
attribute classes. -/
theorem parse_accepts_routes_of_a_layout :
    let msg : BgpUpdateMessage := ⟨false, [], [BgpPathAttribOrigin.newWithLogger igp,
      BgpPathAttribAsPath.newWithLogger false, BgpPathAttribNexthop.new 1], []⟩
    let buf : List UInt8 := [0, 2, 8, 10, 0, 0, 24, 192, 168, 1]
    ∃ result, parse bgpAttribParser msg buf = .ok result ∧
      (result.2 = buf.length ∧ ∃ withdrawn attributes attribs nlri,
        buf = layout withdrawn attributes nlri ∧
        (encodeRoutes withdrawn).length < 65536 ∧ attributes.length < 65536 ∧
        (∀ route ∈ withdrawn ++ nlri, route.WellFormed) ∧
        result.1 = { msg with withdrawnRoutes := msg.withdrawnRoutes ++ withdrawn,
                              pathAttribute := msg.pathAttribute ++ attribs,
                              nlri := msg.nlri ++ nlri } ∧
        validateAttribs bgpAttribParser.typeCode result.1.pathAttribute = none) :=
  ⟨_, rfl, parse_accepts_only_layouts bgpAttribParser_bounded _ _ rfl⟩

end UpdateMessage

end Libbgp
