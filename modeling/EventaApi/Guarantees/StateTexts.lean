import EventaApi.Library.Decimals
import EventaApi.Source.CalendarConnection

/-!
# The text of a state

A state that was sent to the provider is read back as the workspace and the nonce it was made of,
no other text is read as these, and no two of workspace and random bytes make the same text.
-/
namespace EventaApi.Guarantees
open Library Source

/-! ## base64url -/

theorem alphabet_nodup : BASE64URL_ALPHABET.Nodup := by decide +kernel

theorem length_alphabet : BASE64URL_ALPHABET.length = 64 := by decide +kernel

theorem sextet_eq (number : Nat) :
    ∃ inside : number % 64 < BASE64URL_ALPHABET.length,
      sextet number = BASE64URL_ALPHABET[number % 64] := by
  have inside : number % 64 < BASE64URL_ALPHABET.length :=
    length_alphabet ▸ Nat.mod_lt _ (by decide)
  exact ⟨inside, List.getElem_eq_getD _ |>.symm⟩

theorem sextet_mem (number : Nat) : sextet number ∈ BASE64URL_ALPHABET := by
  obtain ⟨inside, same⟩ := sextet_eq number
  rw [same]
  exact List.getElem_mem inside

theorem sextet_inj {first second : Nat} (same : sextet first = sextet second) :
    first % 64 = second % 64 := by
  obtain ⟨_, isFirst⟩ := sextet_eq first
  obtain ⟨_, isSecond⟩ := sextet_eq second
  rw [isFirst, isSecond] at same
  exact (alphabet_nodup.getElem_inj_iff).mp same

theorem length_base64url (bytes : List UInt8) :
    (base64url bytes).length = (4 * bytes.length + 2) / 3 := by
  fun_induction base64url bytes with
  | case1 first second third rest group ih =>
    simp only [List.length_cons, ih]
    omega
  | case2 | case3 | case4 => simp

theorem base64url_mem (bytes : List UInt8) : ∀ char ∈ base64url bytes, char ∈ BASE64URL_ALPHABET := by
  fun_induction base64url bytes with
  | case1 first second third rest group ih =>
    intro char member
    simp only [List.mem_cons] at member
    rcases member with rfl | rfl | rfl | rfl | deeper
    · exact sextet_mem _
    · exact sextet_mem _
    · exact sextet_mem _
    · exact sextet_mem _
    · exact ih char deeper
  | case2 | case3 | case4 => simp [sextet_mem]

/-- Bytes are read back from their characters. -/
theorem base64url_inj : ∀ {bytes others : List UInt8}, bytes.length = others.length →
    base64url bytes = base64url others → bytes = others
  | [], [], _, _ => rfl
  | [first], [other], _, same => by
    simp only [base64url, List.cons.injEq] at same
    obtain ⟨high, low, _⟩ := same
    have high := sextet_inj high
    have low := sextet_inj low
    have := first.toNat_lt
    have := other.toNat_lt
    rw [UInt8.toNat_inj.mp (by omega : first.toNat = other.toNat)]
  | [first, second], [other, another], _, same => by
    simp only [base64url, List.cons.injEq] at same
    obtain ⟨high, middle, low, _⟩ := same
    have high := sextet_inj high
    have middle := sextet_inj middle
    have low := sextet_inj low
    have := first.toNat_lt
    have := other.toNat_lt
    have := second.toNat_lt
    have := another.toNat_lt
    rw [UInt8.toNat_inj.mp (by omega : first.toNat = other.toNat),
      UInt8.toNat_inj.mp (by omega : second.toNat = another.toNat)]
  | first :: second :: third :: rest, other :: another :: last :: more, sizes, same => by
    simp only [base64url, List.cons.injEq] at same
    obtain ⟨top, high, low, bottom, deeper⟩ := same
    have top := sextet_inj top
    have high := sextet_inj high
    have low := sextet_inj low
    have bottom := sextet_inj bottom
    have := first.toNat_lt
    have := other.toNat_lt
    have := second.toNat_lt
    have := another.toNat_lt
    have := third.toNat_lt
    have := last.toNat_lt
    rw [UInt8.toNat_inj.mp (by omega : first.toNat = other.toNat),
      UInt8.toNat_inj.mp (by omega : second.toNat = another.toNat),
      UInt8.toNat_inj.mp (by omega : third.toNat = last.toNat),
      base64url_inj (by simpa using sizes) deeper]

theorem random_injective : Function.Injective random := by
  intro bytes others same
  have lists : List.ofFn bytes = List.ofFn others :=
    base64url_inj (by simp) (String.ofList_injective same)
  exact List.ofFn_injective lists

theorem isNonce_random (bytes : Fin RANDOM_BYTES → UInt8) : isNonce (random bytes).toList = true := by
  have size : (base64url (List.ofFn bytes)).length = 43 := by
    rw [length_base64url, List.length_ofFn]
    rfl
  simpa [isNonce, random, size] using base64url_mem (List.ofFn bytes)

/-! ## States -/

/-- What a state may say. -/
structure IsState (parsed : ParsedState) : Prop where
  positive : 0 < parsed.organizationId
  safe : parsed.organizationId ≤ MAX_SAFE_INTEGER
  nonce : isNonce parsed.nonce.toList = true

theorem isWorkspaceId_toDigits {organizationId : Nat} (positive : 0 < organizationId)
    (safe : organizationId ≤ MAX_SAFE_INTEGER) :
    isWorkspaceId (Nat.toDigits 10 organizationId) = true := by
  have short : (Nat.toDigits 10 organizationId).length ≤ 16 := by
    rw [Nat.length_toDigits_le_iff (by decide) (by decide)]
    exact Nat.lt_of_le_of_lt safe (by decide)
  simp only [isWorkspaceId, toDigits_leads positive, short, decide_true, Bool.and_self]

theorem toList_formatState (organizationId : Nat) (nonce : String) :
    (formatState organizationId nonce).toList =
      Nat.toDigits 10 organizationId ++ '.' :: nonce.toList := by
  simp [formatState]

theorem parseState_formatState {parsed : ParsedState} (isState : IsState parsed) :
    parseState (some (formatState parsed.organizationId parsed.nonce)) = some parsed := by
  have digits : ∀ char ∈ Nat.toDigits 10 parsed.organizationId, char.isDigit = true :=
    isDigit_of_mem_digits
  have stops : ¬ '.'.isDigit = true := by decide
  simp [parseState, toList_formatState, List.takeWhile_append_of_pos digits,
    List.dropWhile_append_of_pos digits, stops, isState.nonce, isState.safe,
    isWorkspaceId_toDigits isState.positive isState.safe, Nat.ofDigitChars_ten_toDigits]

/-- What was read formats back to the text it was read from. -/
theorem formatState_of_parseState {text : String} {parsed : ParsedState}
    (accepted : parseState (some text) = some parsed) :
    text = formatState parsed.organizationId parsed.nonce ∧ IsState parsed := by
  have parts : text.toList.takeWhile Char.isDigit ++ text.toList.dropWhile Char.isDigit =
      text.toList := List.takeWhile_append_dropWhile
  have all : (text.toList.takeWhile Char.isDigit).all Char.isDigit = true :=
    List.all_takeWhile
  simp only [parseState, Option.bind_eq_bind, Option.bind_some] at accepted
  generalize text.toList.takeWhile Char.isDigit = digits at parts all accepted
  split at accepted
  · rename_i nonce after
    split at accepted
    · rename_i fits
      obtain ⟨workspace, wellFormed, safe⟩ := fits
      obtain ⟨leads, _⟩ := Bool.and_eq_true_iff.mp workspace
      obtain ⟨positive, back⟩ := toDigits_ofDigitChars all leads
      cases accepted
      refine ⟨String.toList_injective ?_, positive, safe, by rwa [String.toList_ofList]⟩
      rw [toList_formatState, back, String.toList_ofList, ← parts, after]
    · cases accepted
  · cases accepted

/-- A text is read as a workspace and a nonce exactly when it is what these are sent as; every
workspace with every random nonce is, and no two of them are sent alike. -/
theorem state_round_trip :
    (∀ text parsed, parseState (some text) = some parsed ↔
      text = formatState parsed.organizationId parsed.nonce ∧ IsState parsed) ∧
    (∀ organizationId bytes, 0 < organizationId → organizationId ≤ MAX_SAFE_INTEGER →
      parseState (some (formatState organizationId (random bytes))) =
        some ⟨organizationId, random bytes⟩) ∧
    ∀ organizationId other bytes others,
      formatState organizationId (random bytes) = formatState other (random others) →
        0 < organizationId → organizationId ≤ MAX_SAFE_INTEGER → 0 < other →
        other ≤ MAX_SAFE_INTEGER → organizationId = other ∧ bytes = others := by
  have sent : ∀ organizationId bytes, 0 < organizationId → organizationId ≤ MAX_SAFE_INTEGER →
      parseState (some (formatState organizationId (random bytes))) =
        some ⟨organizationId, random bytes⟩ := fun organizationId bytes positive safe =>
    @parseState_formatState ⟨organizationId, random bytes⟩
      ⟨positive, safe, isNonce_random bytes⟩
  refine ⟨fun text parsed => ⟨formatState_of_parseState, ?_⟩, sent, ?_⟩
  · rintro ⟨rfl, isState⟩
    exact parseState_formatState isState
  · intro organizationId other bytes others same positive safe positive' safe'
    have read := sent organizationId bytes positive safe
    rw [same, sent other others positive' safe'] at read
    obtain ⟨workspace, nonce⟩ := ParsedState.mk.inj (Option.some.inj read)
    exact ⟨workspace.symm, random_injective nonce.symm⟩

end EventaApi.Guarantees
