import MoveWire.Digest
import MoveWire.Address

/-!
References to objects at a version, and who owns an object.
-/

namespace MoveWire

/-- An owned or immutable object at one version. -/
structure ObjectRef where
  id : ObjectId
  version : UInt64
  digest : ObjectDigest
  deriving DecidableEq

/-- A shared object, the version at which it became shared, and whether it may change. -/
structure SharedObjectRef where
  id : ObjectId
  initialVersion : UInt64
  mutable : Bool
  deriving DecidableEq

inductive Owner where
  | account (address : Address)
  | object (id : Address)
  | shared (initialVersion : UInt64)
  | immutable
  | consensus (authenticator : Address) (startVersion : UInt64)
  deriving DecidableEq

namespace ObjectRef

def codec : Codec ObjectRef :=
  (Address.codec.pair (Codec.u64.pair Digest.codec)).map (fun (id, version, digest) =>
    ⟨id, version, digest⟩) fun r => (r.id, r.version, r.digest)

def toJson (r : ObjectRef) : Json := .record [
  ("objectId", r.id.toJson),
  ("version", .ofNat r.version.toNat),
  ("digest", r.digest.toJson)]

end ObjectRef

namespace SharedObjectRef

def codec : Codec SharedObjectRef :=
  (Address.codec.pair (Codec.u64.pair Codec.bool)).map (fun (id, initialVersion, mutable) =>
    ⟨id, initialVersion, mutable⟩) fun r => (r.id, r.initialVersion, r.mutable)

def toJson (r : SharedObjectRef) : Json := .record [
  ("objectId", r.id.toJson),
  ("initialSharedVersion", .ofNat r.initialVersion.toNat),
  ("mutable", .bool r.mutable)]

end SharedObjectRef

namespace Owner

def variants : List (Variant Owner) := [
  ⟨Address, Address.codec, .account, fun | .account a => some a | _ => none⟩,
  ⟨Address, Address.codec, .object, fun | .object a => some a | _ => none⟩,
  ⟨UInt64, Codec.u64, .shared, fun | .shared v => some v | _ => none⟩,
  .constant .immutable,
  ⟨Address × UInt64, Address.codec.pair Codec.u64, fun (a, v) => .consensus a v,
    fun | .consensus a v => some (a, v) | _ => none⟩]

def codec : Codec Owner := .union .one "Owner" variants

/-- The address that has to sign for a use of the object. -/
def address? : Owner → Option Address
  | .account a => some a
  | .object a => some a
  | .consensus a _ => some a
  | .shared _ => none
  | .immutable => none

def isShared : Owner → Bool
  | .shared _ => true
  | .consensus .. => true
  | _ => false

def isImmutable : Owner → Bool
  | .immutable => true
  | _ => false

def text : Owner → String
  | .account a => s!"Account Address ( {a.text} )"
  | .object a => s!"Object ID: ( {a.text} )"
  | .shared version => s!"Shared( {version.toNat} )"
  | .immutable => "Immutable"
  | .consensus a version => s!"ConsensusV2( {version.toNat}, {a.text} )"

def toJson : Owner → Json
  | .account a => .record [("AddressOwner", a.toJson)]
  | .object a => .record [("ObjectOwner", a.toJson)]
  | .shared version =>
    .record [("Shared", .record [("initial_shared_version", .ofNat version.toNat)])]
  | .immutable => .string "Immutable"
  | .consensus a version => .record [("ConsensusV2", .record [
      ("authenticator", a.toJson),
      ("start_version", .ofNat version.toNat)])]

end Owner

end MoveWire
