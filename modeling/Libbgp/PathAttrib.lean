import Libbgp.Wire

namespace Libbgp

/-!
# Path attributes

The source models attributes as a class family: a `BgpPathAttrib` base that
holds the header (the four flag bits and the type code) and the raw value of
an attribute it does not recognise, and one derived class per known type.
Here the family is one record, the header fields and a body with one
constructor per class.  The header's `type_code` is a field of its own, as in
the source: nothing ties it to the body, and code that expects a given class
behind a given type code goes through `dynamic_cast`, which the update
message models as a possible exception.

No constructor among the sources sets the header.  `BgpPathAttrib()` sets
the error state and `BgpPathAttribAsPath(bool)` sets `is_4b`, so an AS_PATH
built so carries whatever type code and flags its allocation held: an
`UnsetHeader` the results about it quantify over.  The constructors whose
bodies are not among the sources are modelled from the spec, with the header
RFC 4271 and RFC 6793 fix for their type.

AS_PATH segments carry their own width flag.  A segment's `prepend` maps an
ASN above `65535` to `AS_TRANS` on a two-octet segment, and refuses to grow a
segment past 255 ASNs.  The attribute's `prepend` follows RFC 4271 §5.1.2.b:
it grows the first AS_SEQUENCE, and otherwise calls `addSeg`, which appends a
new one-ASN sequence with `push_back`, that is, at the end of the path.
-/

/-! ## Type codes of `BgpPathAttribType` -/

namespace BgpPathAttribType

def origin : UInt8 := 1
def asPath : UInt8 := 2
def nextHop : UInt8 := 3
def multiExitDisc : UInt8 := 4
def localPref : UInt8 := 5
def atomicAggregate : UInt8 := 6
def aggreator : UInt8 := 7
def community : UInt8 := 8
def as4Path : UInt8 := 17
def as4Aggregator : UInt8 := 18

end BgpPathAttribType

/-- `AS_SET` and `AS_SEQUENCE` of `BgpAsPathSegmentType`. -/
def asSet : UInt8 := 1
def asSequence : UInt8 := 2

/-- `IGP` of `BgpPathAttribOrigins`. -/
def igp : UInt8 := 0

/-- `AS_TRANS`: the literal `23456` of the source. -/
def asTrans : UInt32 := 23456

/-! ## The attribute record -/

/-- `BgpAsPathSegment`: an AS_PATH or AS4_PATH segment. -/
structure BgpAsPathSegment where
  is4b : Bool
  type : UInt8
  value : List UInt32
  deriving DecidableEq, Repr

/-- The members of the classes derived from `BgpPathAttrib`, one constructor
per class.  `unknown` is the base class itself, which keeps the raw value of
an attribute it does not recognise. -/
inductive AttribBody where
  | unknown (value : List UInt8)
  | origin (origin : UInt8)
  | asPath (is4b : Bool) (asPaths : List BgpAsPathSegment)
  | nexthop (nextHop : UInt32)
  | med (med : UInt32)
  | localPref (localPref : UInt32)
  | atomicAggregate
  | aggregator (is4b : Bool) (aggregator aggregatorAsn : UInt32)
  | as4Path (as4Paths : List BgpAsPathSegment)
  | as4Aggregator (aggregator aggregatorAsn4 : UInt32)
  | community (community : UInt32)
  deriving DecidableEq, Repr

/-- `BgpPathAttrib`: the header members and the body.  The error state of an
attribute object lives only while it is parsed, and is carried by the
parse's failure instead.  `partial` is spelt `partialBit`, the word being
reserved in Lean. -/
structure BgpPathAttrib where
  optional : Bool
  transitive : Bool
  partialBit : Bool
  extended : Bool
  typeCode : UInt8
  body : AttribBody
  deriving DecidableEq, Repr

/-! ## Constructors -/

/-- The header members a constructor of the sources leaves unset: the flag
bits and the type code are members of `BgpPathAttrib` with no initial value,
and `BgpPathAttrib()` sets only the error state.  An object built so holds
whatever its allocation held. -/
structure UnsetHeader where
  optional : Bool
  transitive : Bool
  partialBit : Bool
  extended : Bool
  typeCode : UInt8
  deriving DecidableEq, Repr

/-- The header RFC 4271 fixes for a well-known attribute of `typeCode`:
non-optional, transitive and non-partial (spec §3). -/
def wellKnown (typeCode : UInt8) (body : AttribBody) : BgpPathAttrib :=
  ⟨false, true, false, false, typeCode, body⟩

/-- The header RFC 6793 fixes for AS4_PATH and AS4_AGGREGATOR: optional and
transitive. -/
def optionalTransitive (typeCode : UInt8) (body : AttribBody) : BgpPathAttrib :=
  ⟨true, true, false, false, typeCode, body⟩

/-- `new BgpPathAttribAsPath(is_4b)`: the body sets `is_4b` alone, so the
path is empty and the header is what `unset` holds. -/
def BgpPathAttribAsPath.new (unset : UnsetHeader) (is4b : Bool) : BgpPathAttrib :=
  ⟨unset.optional, unset.transitive, unset.partialBit, unset.extended, unset.typeCode,
    .asPath is4b []⟩

/-- Modelled from the spec: `new BgpPathAttribAsPath(logger, is_4b)`, the
constructor the RIB's local inserts call, whose body is not among the
sources: an empty path under the AS_PATH header of a well-known attribute. -/
def BgpPathAttribAsPath.newWithLogger (is4b : Bool) : BgpPathAttrib :=
  wellKnown BgpPathAttribType.asPath (.asPath is4b [])

/-- Modelled from the spec: `new BgpPathAttribOrigin(logger)` with `origin`
set, the constructor the RIB's local inserts call, whose body is not among
the sources. -/
def BgpPathAttribOrigin.newWithLogger (origin : UInt8) : BgpPathAttrib :=
  wellKnown BgpPathAttribType.origin (.origin origin)

/-- Modelled from the spec: `BgpPathAttribNexthop()` with `next_hop` set,
whose body is not among the sources. -/
def BgpPathAttribNexthop.new (nextHop : UInt32) : BgpPathAttrib :=
  wellKnown BgpPathAttribType.nextHop (.nexthop nextHop)

/-- Modelled from the spec: `BgpPathAttribAs4Path` with its segments, whose
constructor is not among the sources. -/
def BgpPathAttribAs4Path.new (as4Paths : List BgpAsPathSegment) : BgpPathAttrib :=
  optionalTransitive BgpPathAttribType.as4Path (.as4Path as4Paths)

/-- Modelled from the spec: `BgpPathAttribAs4Aggregator` with its two
members, whose constructor is not among the sources. -/
def BgpPathAttribAs4Aggregator.new (aggregator aggregatorAsn4 : UInt32) : BgpPathAttrib :=
  optionalTransitive BgpPathAttribType.as4Aggregator (.as4Aggregator aggregator aggregatorAsn4)

/-! ## Prepending to a path -/

/-- The two-octet value `BgpAsPathSegment2b::prepend` and `addSeg` store for
`asn`: `asn > 65535 ? 23456 : asn`. -/
def twoOctetAsn (asn : UInt32) : UInt32 :=
  if asn > 65535 then asTrans else asn

/-- `BgpAsPathSegment::prepend`: the bodies of `BgpAsPathSegment2b::prepend`
and `BgpAsPathSegment4b::prepend`, chosen by the segment's width.  `none` is
a `false` return, which leaves the segment as it was. -/
def BgpAsPathSegment.prepend (seg : BgpAsPathSegment) (asn : UInt32) :
    Option BgpAsPathSegment :=
  if seg.value.length >= 255 then none
  else some { seg with value := (if seg.is4b then asn else twoOctetAsn asn) :: seg.value }

/-- `BgpPathAttribAsPath::addSeg`: a new AS_SEQUENCE holding `asn`, of the
path's width, added with `push_back`. -/
def addSeg (is4b : Bool) (asPaths : List BgpAsPathSegment) (asn : UInt32) :
    List BgpAsPathSegment :=
  asPaths ++ [⟨is4b, asSequence, [if is4b then asn else twoOctetAsn asn]⟩]

/-- `BgpPathAttribAsPath::prepend` on a path of width `is4b`.  `none` is the
`false` return for a first segment of unknown type; the path is then left as
it was.  The segment's own `prepend` cannot fail below 255 ASNs, and its
result is not inspected. -/
def BgpPathAttribAsPath.prepend (is4b : Bool) (asPaths : List BgpAsPathSegment)
    (asn : UInt32) : Option (List BgpAsPathSegment) :=
  match asPaths with
  | [] => some (addSeg is4b [] asn)
  | seg :: rest =>
      if seg.type = asSet then some (addSeg is4b asPaths asn)
      else if seg.type = asSequence then
        if seg.value.length >= 255 then some (addSeg is4b asPaths asn)
        else some ((seg.prepend asn).getD seg :: rest)
      else none

/-- A four-octet path whose first segment is an AS_SET: `prepend(5)` returns
`true` and puts the new AS_SEQUENCE after the set, so the path still starts
with the ASN `1`. -/
theorem BgpPathAttribAsPath.prepend_puts_sequence_after_set :
    BgpPathAttribAsPath.prepend true [⟨true, asSet, [1]⟩] 5 =
      some [⟨true, asSet, [1]⟩, ⟨true, asSequence, [5]⟩] :=
  rfl

/-- Modelled from the spec: `BgpPathAttribAs4Path::prepend`, whose body is
not among the sources.  Its class declares the same `prepend` and `addSeg`
pair as `BgpPathAttribAsPath`, and AS4_PATH segments are four-octet
(spec §3), so it is the AS_PATH `prepend` on a four-octet path. -/
def BgpPathAttribAs4Path.prepend (as4Paths : List BgpAsPathSegment) (asn : UInt32) :
    Option (List BgpAsPathSegment) :=
  BgpPathAttribAsPath.prepend true as4Paths asn

end Libbgp
