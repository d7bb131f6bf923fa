/-!
# UTF-8

Text as bytes and back. Reading never fails: a byte that cannot go on with the character begun,
or cannot begin one, ends a *damaged* stretch, and each such stretch becomes one replacement
character. The stretch is as long as it can be while some character still starts with it.

* `encode` : the bytes of a text.
* `State`, `step` : the reader, one byte at a time.
* `decode` : the characters of any bytes at all.
* `decode?` : the characters of bytes that hold no damage.
-/

namespace ScriptAudit.Utf8

/-- The bytes of a text. -/
def encode (text : List Char) : List UInt8 :=
  text.flatMap String.utf8EncodeChar

/-- The bytes of a string. -/
def encodeString (text : String) : List UInt8 :=
  encode text.toList

/-- Stands in for bytes that are no character. -/
def replacement : Char := '\uFFFD'

/-- Where the reader stands. Inside a character it holds the bits read so far, the number of
bytes still owed after the next one, and the range the next byte must lie in. -/
inductive State where
  | start
  | inside (bits owed low high : Nat)
  deriving DecidableEq, Repr

/-- Reads a byte between two characters. -/
def begin (byte : Nat) : List Char × State :=
  if byte < 0x80 then ([Char.ofNat byte], .start)
  else if byte < 0xC2 then ([replacement], .start)
  else if byte < 0xE0 then ([], .inside (byte - 0xC0) 0 0x80 0xBF)
  else if byte < 0xF0 then
    ([], .inside (byte - 0xE0) 1
      (if byte = 0xE0 then 0xA0 else 0x80) (if byte = 0xED then 0x9F else 0xBF))
  else if byte < 0xF5 then
    ([], .inside (byte - 0xF0) 2
      (if byte = 0xF0 then 0x90 else 0x80) (if byte = 0xF4 then 0x8F else 0xBF))
  else ([replacement], .start)

/-- Reads one byte: the characters it completes, and where the reader stands after it. A byte out
of range closes the damaged stretch before it and is read afresh. -/
def step : State → Nat → List Char × State
  | .start, byte => begin byte
  | .inside bits owed low high, byte =>
    if low ≤ byte ∧ byte ≤ high then
      let bits := bits * 64 + (byte - 0x80)
      match owed with
      | 0 => ([Char.ofNat bits], .start)
      | owed + 1 => ([], .inside bits owed 0x80 0xBF)
    else
      let (read, state) := begin byte
      (replacement :: read, state)

/-- What a reader that stops in a given state still has to say. -/
def finish : State → List Char
  | .start => []
  | .inside .. => [replacement]

/-- The characters of the bytes, from a given state. -/
def decodeFrom : State → List UInt8 → List Char
  | state, [] => finish state
  | state, byte :: bytes =>
    let (read, state) := step state byte.toNat
    read ++ decodeFrom state bytes

/-- The characters of any bytes. -/
def decode (bytes : List UInt8) : List Char :=
  decodeFrom .start bytes

/-- The string of any bytes. -/
def decodeString (bytes : List UInt8) : String :=
  String.ofList (decode bytes)

/-- The characters of bytes without damage: bytes are sound exactly when writing what was read
gives them back. -/
def decode? (bytes : List UInt8) : Option (List Char) :=
  if encode (decode bytes) = bytes then some (decode bytes) else none

end ScriptAudit.Utf8
