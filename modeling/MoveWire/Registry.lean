import MoveWire.Registry.Table
import MoveWire.Registry.WireType

/-!
The registry of the types of the library.
-/

namespace MoveWire

instance : WireFamily WireType := ⟨WireType.Value, WireType.codec, WireType.label⟩

abbrev WireValue := ErasedValue WireType

abbrev NamedCodec := ErasedCodec WireType

abbrev Registry := CodecTable WireType

namespace Registry

def empty : Registry := CodecTable.empty

def ofPrimitives : Registry := (empty.registerAll WireType.primitives).2

/-- All types of the library under their names. -/
def standard : Registry := (ofPrimitives.registerAll WireType.domain).2

end Registry

end MoveWire
