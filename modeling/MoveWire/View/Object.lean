import MoveWire.Object
import MoveWire.View.Reading

/-!
Reading digests, object references and owners from their views. The fields of an object are read
in the order of their names before missing ones are refused; a reference may also be an array.
-/

namespace MoveWire

def Digest.ofJson {kind : DigestKind} : ViewReader (Digest kind) := View.parsed Digest.parse

def ObjectRef.ofJson (rules : ViewRules) : ViewReader ObjectRef
  | .array items => do
    let id ← View.item 0 (View.address rules) items
    let version ← View.item 1 (View.u64 rules) items
    let digest ← View.item 2 Digest.ofJson items
    if items.length = 3 then return ⟨id, version, digest⟩ else View.shape
  | .object fields => do
    let digest ← View.field? "digest" Digest.ofJson (.object fields)
    let id ← View.field? "objectId" (View.address rules) (.object fields)
    let version ← View.field? "version" (View.u64 rules) (.object fields)
    return ⟨← View.required id, ← View.required version, ← View.required digest⟩
  | _ => View.shape

def SharedObjectRef.ofJson (rules : ViewRules) : ViewReader SharedObjectRef
  | .array items => do
    let id ← View.item 0 (View.address rules) items
    let version ← View.item 1 (View.u64 rules) items
    let mutable ← View.item 2 View.bool items
    if items.length = 3 then return ⟨id, version, mutable⟩ else View.shape
  | .object fields => do
    let version ← View.field? "initialSharedVersion" (View.u64 rules) (.object fields)
    let mutable ← View.field? "mutable" View.bool (.object fields)
    let id ← View.field? "objectId" (View.address rules) (.object fields)
    return ⟨← View.required id, ← View.required version, ← View.required mutable⟩
  | _ => View.shape

def Owner.ofJson (rules : ViewRules) : ViewReader Owner := fun json => do
  let (name, content) ← View.variant json
  match name with
  | "AddressOwner" => .account <$> View.address rules content
  | "ObjectOwner" => .object <$> View.address rules content
  | "Shared" => .shared <$> View.field "initial_shared_version" (View.u64 rules) content
  | "Immutable" => View.constant .immutable content
  | "ConsensusV2" => do
    let authenticator ← View.field? "authenticator" (View.address rules) content
    let version ← View.field? "start_version" (View.u64 rules) content
    return .consensus (← View.required authenticator) (← View.required version)
  | _ => View.shape

end MoveWire
