/-!
# Byte strings

Wire data is a list of bytes, so that reading is pattern matching and a rest is a suffix.
-/

namespace SaslClient

/-- A byte string. -/
abbrev Bytes := List UInt8

end SaslClient
