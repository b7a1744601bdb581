/-!
The bytes that structure JSON text. None of them is part of a longer UTF-8 sequence, so that a text
can be read byte by byte.
-/

namespace MoveWire.Json.Mark

@[match_pattern] abbrev quote : UInt8 := 0x22

@[match_pattern] abbrev backslash : UInt8 := 0x5C

@[match_pattern] abbrev comma : UInt8 := 0x2C

@[match_pattern] abbrev colon : UInt8 := 0x3A

@[match_pattern] abbrev openList : UInt8 := 0x5B

@[match_pattern] abbrev closeList : UInt8 := 0x5D

@[match_pattern] abbrev openObject : UInt8 := 0x7B

@[match_pattern] abbrev closeObject : UInt8 := 0x7D

@[match_pattern] abbrev plus : UInt8 := 0x2B

@[match_pattern] abbrev minus : UInt8 := 0x2D

@[match_pattern] abbrev point : UInt8 := 0x2E

@[match_pattern] abbrev zero : UInt8 := 0x30

@[match_pattern] abbrev lowerE : UInt8 := 0x65

@[match_pattern] abbrev upperE : UInt8 := 0x45

@[match_pattern] abbrev lowerF : UInt8 := 0x66

@[match_pattern] abbrev lowerN : UInt8 := 0x6E

@[match_pattern] abbrev lowerT : UInt8 := 0x74

@[match_pattern] abbrev lowerU : UInt8 := 0x75

@[match_pattern] abbrev lineFeed : UInt8 := 0x0A

end MoveWire.Json.Mark
