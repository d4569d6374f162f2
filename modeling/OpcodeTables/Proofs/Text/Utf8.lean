import Mathlib
import OpcodeTables.Text.Utf8

/-!
# What decoding keeps apart

A byte below `0x80` stands for itself and is no part of a longer encoding, so
decoding goes through concatenation in front of one, whatever the bytes before it
are: an encoding that is broken off there is replaced and takes nothing with it.

Decoding an encoded text gives the text.  The decoder reads one encoding at a time,
so this is a statement about each of the four lengths of an encoding.
-/

namespace OpcodeTables.Utf8

/-! ## In front of a byte that stands for itself -/

theorem le_least_of_lead? {first : UInt8} {lead : Lead} (hlead : lead? first = some lead) :
    0x80 ≤ lead.least := by
  unfold lead? at hlead
  split_ifs at hlead <;> cases hlead <;> decide

theorem lt_least_of_lt {first byte : UInt8} {lead : Lead} (hlead : lead? first = some lead)
    (hbyte : byte < 0x80) : byte < lead.least :=
  UInt8.lt_of_lt_of_le hbyte (le_least_of_lead? hlead)

theorem isContinuation_of_lt {byte : UInt8} (hbyte : byte < 0x80) :
    isContinuation byte = false := by
  simp [isContinuation, hbyte]

/-- A byte of a one-byte character divides what is read, whatever stands in front of it.
-/
theorem decodeChars_append_cons {byte : UInt8} (hbyte : byte < 0x80) (front behind : List UInt8) :
    decodeChars (front ++ byte :: behind) = decodeChars front ++ decodeChars (byte :: behind) := by
  have hcontinuation := isContinuation_of_lt hbyte
  fun_induction decodeChars front with
  | case1 => rfl
  | case4 first hfirst lead hlead =>
      -- a first byte that ends the front: the byte behind it is below every bound
      have hleast := lt_least_of_lt hlead hbyte
      rw [List.singleton_append, decodeChars.eq_def]
      simp only [if_neg hfirst, hlead, if_pos (Or.inl hleast), List.singleton_append]
  | _ =>
      simp only [List.cons_append, List.nil_append] at *
      rw [decodeChars.eq_def]
      simp only [*, Nat.one_ne_zero, Bool.true_eq_false, if_true, if_false]

/-! ## One encoding of each length -/

section Reading

variable {first second third fourth least greatest : UInt8} (rest : List UInt8)

theorem decodeChars_one (hfirst : first < 0x80) :
    decodeChars (first :: rest) = Char.ofNat first.toNat :: decodeChars rest := by
  rw [decodeChars.eq_def]
  simp only [if_pos hfirst]

theorem decodeChars_two (hfirst : ¬ first < 0x80) (hlead : lead? first = some ⟨least, greatest, 0⟩)
    (hsecond : ¬ (second < least ∨ greatest < second)) :
    decodeChars (first :: second :: rest) =
      Char.ofNat (first.toNat % 32 * 64 + payload second) :: decodeChars rest := by
  rw [decodeChars.eq_def]
  simp only [if_neg hfirst, hlead, if_neg hsecond, if_true]

theorem decodeChars_three (hfirst : ¬ first < 0x80)
    (hlead : lead? first = some ⟨least, greatest, 1⟩)
    (hsecond : ¬ (second < least ∨ greatest < second)) (hthird : isContinuation third = true) :
    decodeChars (first :: second :: third :: rest) =
      Char.ofNat (first.toNat % 16 * 4096 + payload second * 64 + payload third) ::
        decodeChars rest := by
  rw [decodeChars.eq_def]
  simp only [if_neg hfirst, hlead, if_neg hsecond, hthird, Nat.one_ne_zero, Bool.true_eq_false,
    if_true, if_false]

theorem decodeChars_four (hfirst : ¬ first < 0x80)
    (hlead : lead? first = some ⟨least, greatest, 2⟩)
    (hsecond : ¬ (second < least ∨ greatest < second)) (hthird : isContinuation third = true)
    (hfourth : isContinuation fourth = true) :
    decodeChars (first :: second :: third :: fourth :: rest) =
      Char.ofNat (first.toNat % 8 * 262144 + payload second * 4096 + payload third * 64 +
        payload fourth) :: decodeChars rest := by
  have hmore : ¬ 2 = 0 ∧ ¬ 2 = 1 := by decide
  rw [decodeChars.eq_def]
  simp only [if_neg hfirst, hlead, if_neg hsecond, hthird, hfourth, hmore, Bool.true_eq_false,
    if_false]

end Reading

/-! ## The bytes of an encoding -/

theorem toNat_ofNat {n : Nat} (hn : n < 256) : (UInt8.ofNat n).toNat = n := by
  rw [UInt8.toNat_ofNat']
  exact Nat.mod_eq_of_lt hn

theorem not_lt_ofNat {n : Nat} (hleast : 128 ≤ n) (hn : n < 256) : ¬ UInt8.ofNat n < 0x80 := by
  rw [UInt8.lt_iff_toNat_lt, toNat_ofNat hn]
  exact Nat.not_lt.mpr hleast

theorem not_outside (least greatest : UInt8) {n : Nat} (hn : n < 256) (hleast : least.toNat ≤ n)
    (hgreatest : n ≤ greatest.toNat) :
    ¬ (UInt8.ofNat n < least ∨ greatest < UInt8.ofNat n) := by
  rw [UInt8.lt_iff_toNat_lt, UInt8.lt_iff_toNat_lt, toNat_ofNat hn]
  omega

theorem payload_ofNat (n : Nat) : payload (UInt8.ofNat (n % 64 + 128)) = n % 64 := by
  rw [payload, toNat_ofNat (by omega)]
  omega

theorem isContinuation_ofNat (n : Nat) : isContinuation (UInt8.ofNat (n % 64 + 128)) = true := by
  have hinside := not_outside 0x80 0xBF (n := n % 64 + 128) (by omega)
    (Nat.le_add_left 128 _) (show n % 64 + 128 ≤ 191 by omega)
  rw [not_or, UInt8.not_lt, UInt8.not_lt] at hinside
  rw [isContinuation, Bool.and_eq_true, decide_eq_true_eq, decide_eq_true_eq]
  exact hinside

theorem lead?_two {n : Nat} (hleast : 194 ≤ n) (hgreatest : n < 224) :
    lead? (UInt8.ofNat n) = some ⟨0x80, 0xBF, 0⟩ := by
  interval_cases n <;> rfl

/-- The bounds of the second byte leave out overlong forms and surrogates. -/
theorem lead?_three {n : Nat} (hleast : 224 ≤ n) (hgreatest : n < 240) :
    ∃ least greatest, lead? (UInt8.ofNat n) = some ⟨least, greatest, 1⟩ ∧
      least.toNat = (if n = 224 then 160 else 128) ∧
        greatest.toNat = (if n = 237 then 159 else 191) := by
  interval_cases n <;> exact ⟨_, _, rfl, rfl, rfl⟩

/-- The bounds of the second byte leave out overlong forms and what lies above the
last code point. -/
theorem lead?_four {n : Nat} (hleast : 240 ≤ n) (hgreatest : n < 245) :
    ∃ least greatest, lead? (UInt8.ofNat n) = some ⟨least, greatest, 2⟩ ∧
      least.toNat = (if n = 240 then 144 else 128) ∧
        greatest.toNat = (if n = 244 then 143 else 191) := by
  interval_cases n <;> exact ⟨_, _, rfl, rfl, rfl⟩

/-! ## Decoding what was encoded -/

section Encoding

variable {n : Nat} (rest : List UInt8)

theorem decodeChars_encoded_two (hleast : 128 ≤ n) (hgreatest : n < 2048) :
    decodeChars (UInt8.ofNat (n / 64 % 32 + 192) :: UInt8.ofNat (n % 64 + 128) :: rest) =
      Char.ofNat n :: decodeChars rest := by
  have hlead := lead?_two (n := n / 64 % 32 + 192) (by omega) (by omega)
  have hsecond := not_outside 0x80 0xBF (n := n % 64 + 128) (by omega)
    (Nat.le_add_left 128 _) (show n % 64 + 128 ≤ 191 by omega)
  rw [decodeChars_two rest (not_lt_ofNat (by omega) (by omega)) hlead hsecond, payload_ofNat,
    toNat_ofNat (by omega)]
  congr 2
  omega

theorem decodeChars_encoded_three (hleast : 2048 ≤ n) (hgreatest : n < 65536)
    (hsurrogate : n < 0xD800 ∨ 0xDFFF < n) :
    decodeChars (UInt8.ofNat (n / 4096 % 16 + 224) :: UInt8.ofNat (n / 64 % 64 + 128) ::
        UInt8.ofNat (n % 64 + 128) :: rest) =
      Char.ofNat n :: decodeChars rest := by
  obtain ⟨least, greatest, hlead, hleastByte, hgreatestByte⟩ :=
    lead?_three (n := n / 4096 % 16 + 224) (by omega) (by omega)
  have hsecond := not_outside least greatest (n := n / 64 % 64 + 128) (by omega)
    (by rw [hleastByte]; split_ifs <;> omega) (by rw [hgreatestByte]; split_ifs <;> omega)
  rw [decodeChars_three rest (not_lt_ofNat (by omega) (by omega)) hlead hsecond
    (isContinuation_ofNat n), payload_ofNat, payload_ofNat, toNat_ofNat (by omega)]
  congr 2
  omega

theorem decodeChars_encoded_four (hleast : 65536 ≤ n) (hgreatest : n < 0x110000) :
    decodeChars (UInt8.ofNat (n / 262144 % 8 + 240) :: UInt8.ofNat (n / 4096 % 64 + 128) ::
        UInt8.ofNat (n / 64 % 64 + 128) :: UInt8.ofNat (n % 64 + 128) :: rest) =
      Char.ofNat n :: decodeChars rest := by
  obtain ⟨least, greatest, hlead, hleastByte, hgreatestByte⟩ :=
    lead?_four (n := n / 262144 % 8 + 240) (by omega) (by omega)
  have hsecond := not_outside least greatest (n := n / 4096 % 64 + 128) (by omega)
    (by rw [hleastByte]; split_ifs <;> omega) (by rw [hgreatestByte]; split_ifs <;> omega)
  rw [decodeChars_four rest (not_lt_ofNat (by omega) (by omega)) hlead hsecond
    (isContinuation_ofNat (n / 64)) (isContinuation_ofNat n), payload_ofNat, payload_ofNat,
    payload_ofNat, toNat_ofNat (by omega)]
  congr 2
  omega

/-- The bytes of a character are read as that character. -/
theorem decodeChars_encodeChar (c : Char) :
    decodeChars (String.utf8EncodeChar c ++ rest) = c :: decodeChars rest := by
  have hrange : c.toNat < 0xD800 ∨ 0xDFFF < c.toNat ∧ c.toNat < 0x110000 := c.valid
  have hchar : Char.ofNat c.toNat = c := Char.ofNat_toNat c
  unfold String.utf8EncodeChar
  rw [← Char.toNat]
  generalize c.toNat = n at hrange hchar ⊢
  dsimp only
  split_ifs with hone htwo hthree
  · have hfirst : UInt8.ofNat n < 0x80 := by
      rw [UInt8.lt_iff_toNat_lt, toNat_ofNat (by omega)]
      exact Nat.lt_succ_of_le hone
    rw [List.singleton_append, decodeChars_one rest hfirst, toNat_ofNat (by omega), hchar]
  · have hread := decodeChars_encoded_two rest (n := n) (by omega) (by omega)
    rwa [hchar] at hread
  · have hread := decodeChars_encoded_three rest (n := n) (by omega) (by omega) (by omega)
    rwa [hchar] at hread
  · have hread := decodeChars_encoded_four rest (n := n) (by omega) (by omega)
    rwa [hchar] at hread

end Encoding

theorem decodeChars_encodeChars (text : List Char) : decodeChars (encodeChars text) = text := by
  induction text with
  | nil => rfl
  | cons c text ih =>
      have hread := decodeChars_encodeChar (encodeChars text) c
      rwa [ih] at hread

/-- Every text is read back from its bytes. -/
theorem decode_encode (text : String) : decode (encode text) = text := by
  rw [decode, encode, decodeChars_encodeChars, String.ofList_toList]

theorem toList_decode (bytes : List UInt8) : (decode bytes).toList = decodeChars bytes :=
  String.toList_ofList

end OpcodeTables.Utf8
