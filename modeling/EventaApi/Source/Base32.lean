import EventaApi.Source.Discounts

/-!
# Base32

A seed is shown in the alphabet of RFC 4648, without padding. JavaScript's shifts give a 32-bit
integer, and neither loop masks its own: it keeps the bits of all that went before, as far as
they fit.
-/
namespace EventaApi.Source

def BASE32_ALPHABET : List Char :=
  ['A', 'B', 'C', 'D', 'E', 'F', 'G', 'H', 'I', 'J', 'K', 'L', 'M', 'N', 'O', 'P', 'Q', 'R', 'S',
    'T', 'U', 'V', 'W', 'X', 'Y', 'Z', '2', '3', '4', '5', '6', '7']

/-- `BASE32_ALPHABET[index]`. Every index was masked, so there is a character. -/
def alphabetAt (index : BitVec 32) : Char := BASE32_ALPHABET.getD index.toNat 'A'

/-! ## Encoding -/

structure Encoder where
  bits : Nat := 0
  value : BitVec 32 := 0
  output : List Char := []

/-- The body of the inner loop. -/
def emitCharacter (state : Encoder) : Encoder :=
  { state with
    output := state.output ++ [alphabetAt (state.value >>> (state.bits - 5) &&& 31)]
    bits := state.bits - 5 }

/-- The inner loop, for so many rounds at most. -/
def emitCharacters : Nat → Encoder → Encoder
  | 0, state => state
  | rounds + 1, state =>
    if 5 ≤ state.bits then emitCharacters rounds (emitCharacter state) else state

/-- Each round takes bits off, so as many rounds as there are bits are enough. -/
def encodeByte (state : Encoder) (byte : UInt8) : Encoder :=
  let fed := { state with
    value := state.value <<< 8 ||| byte.toBitVec.setWidth 32
    bits := state.bits + 8 }
  emitCharacters fed.bits fed

def base32Encode (buffer : List UInt8) : String :=
  let state := buffer.foldl encodeByte {}
  String.ofList (if 0 < state.bits then
    state.output ++ [alphabetAt (state.value <<< (5 - state.bits) &&& 31)]
  else state.output)

/-! ## Decoding -/

/-- `toUpperCase` of one character, where that has letters of the alphabet. -/
def upperCased (char : Char) : List Char :=
  match char with
  | 'ŉ' => ['ʼ', 'N']
  | 'ǰ' => ['J', Char.ofNat 0x30C]
  | 'ẖ' => ['H', Char.ofNat 0x331]
  | 'ẗ' => ['T', Char.ofNat 0x308]
  | 'ẘ' => ['W', Char.ofNat 0x30A]
  | 'ẙ' => ['Y', Char.ofNat 0x30A]
  | 'ẚ' => ['A', 'ʾ']
  | char => toUpperCase char

/-- `replace(/=+$/, '')`. -/
def withoutPadding (secret : List Char) : List Char :=
  (secret.reverse.dropWhile (· == '=')).reverse

structure Decoder where
  bits : Nat := 0
  value : BitVec 32 := 0
  bytes : List Nat := []

def decodeChar (state : Decoder) (char : Char) : Decoder :=
  match BASE32_ALPHABET.idxOf? char with
  | none => state -- spaces and hyphens that users paste in
  | some index =>
    let value := state.value <<< 5 ||| BitVec.ofNat 32 index
    let bits := state.bits + 5
    if 8 ≤ bits then
      { bits := bits - 8, value, bytes := state.bytes ++ [(value >>> (bits - 8) &&& 0xff).toNat] }
    else { state with bits, value }

def base32Decode (secret : String) : List UInt8 :=
  (((withoutPadding secret.toList).flatMap upperCased).foldl decodeChar {}).bytes.map UInt8.ofNat

/-- The seed of RFC 4226's first vectors begins so. -/
example : base32Encode [49, 50, 51] = "GEZDG" ∧ base32Decode "ge-zd g===" = [49, 50, 51] := by
  decide +kernel

end EventaApi.Source
