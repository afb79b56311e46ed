import EventaApi.Library.Regrouping
import EventaApi.Source.Base32

/-!
# A seed's text

Both directions are one regrouping in a 32-bit register: bytes into digits of five bits, and back.
Whatever a character's upper case has of the alphabet is read, and everything else is passed over.
-/
namespace EventaApi.Guarantees
open Library Source

/-! ## Characters -/

/-- The character of a digit. -/
def characterOf (digit : Nat) : Char := BASE32_ALPHABET.getD digit 'A'

theorem mem_alphabet {digit : Nat} (small : digit < 32) : characterOf digit ∈ BASE32_ALPHABET := by
  have each : ∀ digit ∈ List.range 32, characterOf digit ∈ BASE32_ALPHABET := by decide
  exact each digit (List.mem_range.mpr small)

theorem idxOf_characterOf {digit : Nat} (small : digit < 32) :
    BASE32_ALPHABET.idxOf? (characterOf digit) = some digit := by
  have each : ∀ digit ∈ List.range 32,
      BASE32_ALPHABET.idxOf? (characterOf digit) = some digit := by decide
  exact each digit (List.mem_range.mpr small)

/-! ## Encoding -/

/-- What was fed has come out as characters, and the rest is in the register. -/
def Encodes (fed out : List Nat) (state : Encoder) : Prop :=
  Regrouped 8 5 fed out state.bits state.value ∧ state.output = out.map characterOf

theorem Encodes.emitCharacter {fed out : List Nat} {state : Encoder}
    (encodes : Encodes fed out state) (enough : 5 ≤ state.bits) :
    Encodes fed (out ++ [(state.value >>> (state.bits - 5) &&& 31).toNat])
      (emitCharacter state) := by
  refine ⟨encodes.1.emit enough rfl, ?_⟩
  rw [List.map_append, ← encodes.2]
  rfl

theorem Encodes.emitCharacters {fed out : List Nat} {state : Encoder} (rounds : Nat)
    (encodes : Encodes fed out state) : ∃ out, Encodes fed out (emitCharacters rounds state) := by
  induction rounds generalizing state out with
  | zero => exact ⟨out, encodes⟩
  | succ rounds ih =>
    unfold Source.emitCharacters
    split
    next enough => exact ih (encodes.emitCharacter enough)
    next => exact ⟨out, encodes⟩

theorem bits_emitCharacters {rounds : Nat} {state : Encoder} (enough : state.bits ≤ rounds) :
    (emitCharacters rounds state).bits < 5 := by
  induction rounds generalizing state with
  | zero =>
    unfold emitCharacters
    omega
  | succ rounds ih =>
    unfold emitCharacters
    split
    next =>
      apply ih
      show state.bits - 5 ≤ rounds
      omega
    next few => omega

theorem Encodes.encodeByte {fed out : List Nat} {state : Encoder} (encodes : Encodes fed out state)
    (few : state.bits < 5) (byte : UInt8) :
    ∃ out, Encodes (fed ++ [byte.toNat]) out (encodeByte state byte) := by
  have width : (byte.toBitVec.setWidth 32).toNat = byte.toNat := by
    rw [BitVec.toNat_setWidth]
    exact Nat.mod_eq_of_lt (lt_of_lt_of_le byte.toNat_lt (by decide))
  have fedIn : Regrouped 8 5 (fed ++ [byte.toNat]) out (state.bits + 8)
      (state.value <<< 8 ||| byte.toBitVec.setWidth 32) := by
    rw [← width]
    apply encodes.1.feed
    · omega
    · rw [width]
      exact byte.toNat_lt
  apply Encodes.emitCharacters
  exact ⟨fedIn, encodes.2⟩

/-- The loop over the bytes. -/
theorem Encodes.foldl {fed out : List Nat} {state : Encoder} (encodes : Encodes fed out state)
    (few : state.bits < 5) (buffer : List UInt8) :
    ∃ out, Encodes (fed ++ buffer.map (·.toNat)) out (buffer.foldl Source.encodeByte state) ∧
      (buffer.foldl Source.encodeByte state).bits < 5 := by
  induction buffer generalizing state fed out with
  | nil => exact ⟨out, by simpa using encodes, few⟩
  | cons byte rest ih =>
    obtain ⟨next, encodes⟩ := encodes.encodeByte few byte
    have few : (Source.encodeByte state byte).bits < 5 := bits_emitCharacters (Nat.le_refl _)
    simpa using ih encodes few

/-- The digits of an encoding denote the bytes with fewer than five zeros behind them. -/
theorem base32Encode_digits (buffer : List UInt8) :
    ∃ digits pad, (base32Encode buffer).toList = digits.map characterOf ∧
      (∀ digit ∈ digits, digit < 2 ^ 5) ∧ pad < 5 ∧
      5 * digits.length = 8 * (buffer.map (·.toNat)).length + pad ∧
      number (2 ^ 5) digits = number (2 ^ 8) (buffer.map (·.toNat)) * 2 ^ pad := by
  have start : Encodes [] [] {} := ⟨.start, rfl⟩
  obtain ⟨out, ⟨regrouped, output⟩, few⟩ := start.foldl (by decide) buffer
  rw [List.nil_append] at regrouped
  dsimp only [base32Encode]
  rw [String.toList_ofList]
  generalize buffer.foldl encodeByte {} = state at regrouped output few ⊢
  have counted := regrouped.counted
  by_cases left : 0 < state.bits
  · refine ⟨out ++ [(state.value <<< (5 - state.bits) &&& 31).toNat], 5 - state.bits, ?_, ?_,
      by omega, ?_, regrouped.flush few.le (by decide) rfl⟩
    · rw [if_pos left, List.map_append, ← output]
      rfl
    · intro digit member
      rcases List.mem_append.mp member with earlier | last
      · exact regrouped.bounded digit earlier
      · rw [List.mem_singleton.mp last]
        exact and_mask_lt _ rfl
    · rw [List.length_append, List.length_singleton]
      omega
  · have none : state.bits = 0 := by omega
    refine ⟨out, 0, ?_, regrouped.bounded, by decide, ?_, ?_⟩
    · rw [if_neg left]
      exact output
    · omega
    · have denoted := regrouped.denoted
      rw [none] at denoted
      simpa [Nat.mod_one] using denoted.symm

theorem length_base32Encode (buffer : List UInt8) :
    (base32Encode buffer).toList.length = (8 * buffer.length + 4) / 5 := by
  obtain ⟨digits, pad, written, _, few, size, _⟩ := base32Encode_digits buffer
  rw [List.length_map] at size
  rw [written, List.length_map]
  omega

theorem base32Encode_alphabet {buffer : List UInt8} {char : Char}
    (member : char ∈ (base32Encode buffer).toList) : char ∈ BASE32_ALPHABET := by
  obtain ⟨digits, _, written, small, _⟩ := base32Encode_digits buffer
  rw [written] at member
  obtain ⟨digit, among, rfl⟩ := List.mem_map.mp member
  exact mem_alphabet (small digit among)

/-! ## Decoding -/

theorem decodeChar_ignored {char : Char} (outside : char ∉ BASE32_ALPHABET) (state : Decoder) :
    decodeChar state char = state := by
  unfold decodeChar
  rw [List.idxOf?_eq_none_iff.mpr outside]

theorem foldl_decodeChar_ignored {text : List Char}
    (outside : ∀ char ∈ text, char ∉ BASE32_ALPHABET) (state : Decoder) :
    text.foldl decodeChar state = state := by
  induction text with
  | nil => rfl
  | cons char rest ih =>
    rw [List.foldl_cons, decodeChar_ignored (outside char List.mem_cons_self)]
    exact ih fun other member => outside other (List.mem_cons_of_mem _ member)

/-- The digits read have come out as bytes, with less than a byte in the register. -/
def Decodes (fed : List Nat) (state : Decoder) : Prop :=
  Regrouped 5 8 fed state.bytes state.bits state.value ∧ state.bits < 8

theorem Decodes.decodeChar {fed : List Nat} {state : Decoder} (decodes : Decodes fed state)
    {digit : Nat} (small : digit < 32) :
    Decodes (fed ++ [digit]) (decodeChar state (characterOf digit)) := by
  obtain ⟨regrouped, few⟩ := decodes
  have width : (BitVec.ofNat 32 digit).toNat = digit := by
    rw [BitVec.toNat_ofNat]
    exact Nat.mod_eq_of_lt (by omega)
  have fedIn : Regrouped 5 8 (fed ++ [digit]) state.bytes (state.bits + 5)
      (state.value <<< 5 ||| BitVec.ofNat 32 digit) := by
    have small : (BitVec.ofNat 32 digit).toNat < 2 ^ 5 := by omega
    have fedIn := regrouped.feed (by omega) small
    rw [width] at fedIn
    exact fedIn
  unfold Source.decodeChar
  rw [idxOf_characterOf small]
  dsimp only
  split
  next enough =>
    refine ⟨fedIn.emit enough rfl, ?_⟩
    show state.bits + 5 - 8 < 8
    omega
  next short =>
    refine ⟨fedIn, ?_⟩
    show state.bits + 5 < 8
    omega

/-- The loop over the characters of an encoding. -/
theorem Decodes.foldl {fed : List Nat} {state : Decoder} (decodes : Decodes fed state)
    {digits : List Nat} (small : ∀ digit ∈ digits, digit < 32) :
    Decodes (fed ++ digits) ((digits.map characterOf).foldl Source.decodeChar state) := by
  induction digits generalizing state fed with
  | nil => simpa using decodes
  | cons digit rest ih =>
    have first := decodes.decodeChar (small digit List.mem_cons_self)
    simpa using ih first fun other member => small other (List.mem_cons_of_mem _ member)

theorem decode_base32Encode (buffer : List UInt8) :
    ((base32Encode buffer).toList.foldl decodeChar {}).bytes = buffer.map (·.toNat) := by
  obtain ⟨digits, pad, written, small, few, size, padded⟩ := base32Encode_digits buffer
  have start : Decodes [] {} := ⟨.start, by decide⟩
  obtain ⟨regrouped, rest⟩ := start.foldl small
  rw [written]
  apply Regrouped.back (by decide) _ size padded (by omega) regrouped rest
  intro byte member
  obtain ⟨original, _, rfl⟩ := List.mem_map.mp member
  exact original.toNat_lt

/-! ## Spellings of an encoding -/

/-- The text is the encoding, some letters of it in lower case and ignored characters put in. -/
inductive Respells (ignored : Char → Prop) : List Char → List Char → Prop
  | nil : Respells ignored [] []
  | keep (char : Char) {encoded text : List Char} (rest : Respells ignored encoded text) :
      Respells ignored (char :: encoded) (char :: text)
  | lower (char : Char) {encoded text : List Char} (rest : Respells ignored encoded text) :
      Respells ignored (char :: encoded) (char.toLower :: text)
  | insert (char : Char) {encoded text : List Char} (outside : ignored char)
      (rest : Respells ignored encoded text) : Respells ignored encoded (char :: text)

/-- Neither the character nor its capital is in the alphabet. -/
def OutsideAlphabet (char : Char) : Prop :=
  char ∉ BASE32_ALPHABET ∧ char.toUpper ∉ BASE32_ALPHABET

/-- Nothing of its upper case is in the alphabet. -/
def PassedOver (char : Char) : Prop := ∀ upper ∈ upperCased char, upper ∉ BASE32_ALPHABET

theorem upperCased_alphabet {char : Char} (known : char ∈ BASE32_ALPHABET) :
    upperCased char = [char] ∧ upperCased char.toLower = [char] := by
  have each : BASE32_ALPHABET.all (fun char =>
      upperCased char == [char] && upperCased char.toLower == [char]) = true := by decide
  have this := List.all_eq_true.mp each char known
  simpa using this

theorem Respells.foldl {encoded text : List Char} (respells : Respells PassedOver encoded text)
    (known : ∀ char ∈ encoded, char ∈ BASE32_ALPHABET) (state : Decoder) :
    (text.flatMap upperCased).foldl Source.decodeChar state =
      encoded.foldl Source.decodeChar state := by
  induction respells generalizing state with
  | nil => rfl
  | keep char _ ih =>
    rw [List.flatMap_cons, (upperCased_alphabet (known char List.mem_cons_self)).1]
    exact ih (fun other member => known other (List.mem_cons_of_mem _ member)) _
  | lower char _ ih =>
    rw [List.flatMap_cons, (upperCased_alphabet (known char List.mem_cons_self)).2]
    exact ih (fun other member => known other (List.mem_cons_of_mem _ member)) _
  | insert char outside _ ih =>
    rw [List.flatMap_cons, List.foldl_append, foldl_decodeChar_ignored outside]
    exact ih known state

/-- Padding is passed over like anything else outside the alphabet. -/
theorem foldl_withoutPadding (text : List Char) (state : Decoder) :
    ((withoutPadding text).flatMap upperCased).foldl Source.decodeChar state =
      (text.flatMap upperCased).foldl Source.decodeChar state := by
  have split : text = withoutPadding text ++ (text.reverse.takeWhile (· == '=')).reverse := by
    rw [withoutPadding, ← List.reverse_append, List.takeWhile_append_dropWhile,
      List.reverse_reverse]
  have ignored : ∀ char ∈ ((text.reverse.takeWhile (· == '=')).reverse).flatMap upperCased,
      char ∉ BASE32_ALPHABET := by
    intro char member
    obtain ⟨pad, among, upper⟩ := List.mem_flatMap.mp member
    have equals : pad = '=' := by
      have all := List.all_eq_true.mp List.all_takeWhile pad (List.mem_reverse.mp among)
      simpa using all
    subst equals
    have itself : upperCased '=' = ['='] := by decide
    rw [itself, List.mem_singleton] at upper
    subst upper
    decide
  conv_rhs => rw [split, List.flatMap_append, List.foldl_append, foldl_decodeChar_ignored ignored]

theorem respells_lowered (encoded : List Char) (pads : Nat) :
    Respells PassedOver encoded (encoded.map Char.toLower ++ List.replicate pads '=') := by
  induction encoded with
  | nil =>
    induction pads with
    | zero => exact .nil
    | succ pads ih =>
      have outside : PassedOver '=' := by
        intro upper member
        have itself : upperCased '=' = ['='] := by decide
        rw [itself, List.mem_singleton] at member
        subst member
        decide
      exact .insert '=' outside ih
  | cons char rest ih => exact .lower char ih

theorem base32Decode_of_respells {buffer : List UInt8} {text : String}
    (respells : Respells PassedOver (base32Encode buffer).toList text.toList) :
    base32Decode text = buffer := by
  have bytes : (buffer.map (·.toNat)).map UInt8.ofNat = buffer := by
    rw [List.map_map]
    apply List.map_id''
    intro byte
    exact UInt8.ofNat_toNat
  unfold base32Decode
  rw [foldl_withoutPadding, respells.foldl fun _ => base32Encode_alphabet, decode_base32Encode,
    bytes]

/-- Decoding an encoding gives the bytes back, also where it was lower-cased and padded, and where
characters were put in that have nothing of the alphabet in their upper case; the encoding has as
many characters of the alphabet as its bits fill. -/
theorem base32_round_trips (buffer : List UInt8) :
    base32Decode (base32Encode buffer) = buffer ∧
      (∀ pads, base32Decode (String.ofList ((base32Encode buffer).toList.map Char.toLower ++
        List.replicate pads '=')) = buffer) ∧
      (∀ text, Respells PassedOver (base32Encode buffer).toList text.toList →
        base32Decode text = buffer) ∧
      (base32Encode buffer).toList.length = (8 * buffer.length + 4) / 5 ∧
      ∀ char ∈ (base32Encode buffer).toList, char ∈ BASE32_ALPHABET := by
  refine ⟨?_, ?_, fun text => base32Decode_of_respells, length_base32Encode buffer,
    fun char => base32Encode_alphabet⟩
  · apply base32Decode_of_respells
    induction (base32Encode buffer).toList with
    | nil => exact .nil
    | cons char rest ih => exact .keep char ih
  · intro pads
    apply base32Decode_of_respells
    rw [String.toList_ofList]
    exact respells_lowered _ pads

/-- A sharp s is read as two letters. -/
theorem sharp_s_is_read :
    ¬ ∀ (buffer : List UInt8) (text : String),
      Respells OutsideAlphabet (base32Encode buffer).toList text.toList →
        base32Decode text = buffer := by
  intro all
  have encoded : (base32Encode [0]).toList = ['A', 'A'] := by decide +kernel
  have broken : Respells OutsideAlphabet (base32Encode [0]).toList "AßA".toList := by
    rw [encoded]
    exact .keep 'A' (.insert 'ß' ⟨by decide, by decide⟩ (.keep 'A' .nil))
  have read : base32Decode "AßA" = [4, 164] := by decide +kernel
  have claimed := all [0] "AßA" broken
  rw [read] at claimed
  exact absurd claimed (by decide)

end EventaApi.Guarantees
