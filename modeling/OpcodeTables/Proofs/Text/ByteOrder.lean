import Mathlib
import OpcodeTables.Proofs.Text.Utf8

/-!
# The byte order of texts

The order of texts by their characters is the order of their encodings by their bytes.
-/

namespace OpcodeTables.Utf8

/-- The bytes that the character with a number is encoded in. -/
def bytesOf (n : Nat) : List Nat :=
  if n ≤ 127 then [n]
  else if n ≤ 2047 then [n / 64 % 32 + 192, n % 64 + 128]
  else if n ≤ 65535 then [n / 4096 % 16 + 224, n / 64 % 64 + 128, n % 64 + 128]
  else [n / 262144 % 8 + 240, n / 4096 % 64 + 128, n / 64 % 64 + 128, n % 64 + 128]

/-- Some bytes come before others, whatever follows either of them. -/
inductive Before : List Nat → List Nat → Prop where
  | here {first second : Nat} {rest behind : List Nat} (hlt : first < second)
      (hbyte : second < 256) : Before (first :: rest) (second :: behind)
  | later {first second : Nat} {rest behind : List Nat} (hsame : first = second)
      (hrest : Before rest behind) : Before (first :: rest) (second :: behind)

theorem Before.append_lt {bytes others : List Nat} (hbefore : Before bytes others)
    (rest behind : List UInt8) :
    bytes.map UInt8.ofNat ++ rest < others.map UInt8.ofNat ++ behind := by
  induction hbefore with
  | here hlt hbyte =>
      refine List.cons_lt_cons_iff.mpr (.inl ?_)
      rw [UInt8.lt_iff_toNat_lt, toNat_ofNat (hlt.trans hbyte), toNat_ofNat hbyte]
      exact hlt
  | later hsame _ ih =>
      subst hsame
      exact List.cons_lt_cons_iff.mpr (.inr ⟨rfl, ih⟩)

section Digits

variable {n m : Nat}

theorem before_two (hlt : n < m) (hm : m ≤ 2047) :
    Before [n / 64 % 32 + 192, n % 64 + 128] [m / 64 % 32 + 192, m % 64 + 128] := by
  by_cases hhigh : n / 64 = m / 64
  · exact .later (by rw [hhigh]) (.here (by omega) (by omega))
  · exact .here (by omega) (by omega)

theorem before_three (hlt : n < m) (hm : m ≤ 65535) :
    Before [n / 4096 % 16 + 224, n / 64 % 64 + 128, n % 64 + 128]
      [m / 4096 % 16 + 224, m / 64 % 64 + 128, m % 64 + 128] := by
  by_cases hhigh : n / 4096 = m / 4096
  · by_cases hmiddle : n / 64 = m / 64
    · exact .later (by rw [hhigh]) (.later (by rw [hmiddle]) (.here (by omega) (by omega)))
    · exact .later (by rw [hhigh]) (.here (by omega) (by omega))
  · exact .here (by omega) (by omega)

theorem before_four (hlt : n < m) (hm : m < 0x110000) :
    Before [n / 262144 % 8 + 240, n / 4096 % 64 + 128, n / 64 % 64 + 128, n % 64 + 128]
      [m / 262144 % 8 + 240, m / 4096 % 64 + 128, m / 64 % 64 + 128, m % 64 + 128] := by
  by_cases hfirst : n / 262144 = m / 262144
  · by_cases hsecond : n / 4096 = m / 4096
    · by_cases hthird : n / 64 = m / 64
      · exact .later (by rw [hfirst]) (.later (by rw [hsecond])
          (.later (by rw [hthird]) (.here (by omega) (by omega))))
      · exact .later (by rw [hfirst]) (.later (by rw [hsecond]) (.here (by omega) (by omega)))
    · exact .later (by rw [hfirst]) (.here (by omega) (by omega))
  · exact .here (by omega) (by omega)

/-- The first byte tells the number of bytes, and the digits of the character follow from
the highest to the lowest. -/
theorem before_bytesOf (hlt : n < m) (hm : m < 0x110000) : Before (bytesOf n) (bytesOf m) := by
  by_cases hone : m ≤ 127
  · rw [bytesOf, bytesOf, if_pos (by omega), if_pos hone]
    exact .here hlt (by omega)
  by_cases htwo : m ≤ 2047
  · rw [bytesOf, bytesOf, if_neg hone, if_pos htwo]
    by_cases hn : n ≤ 127
    · rw [if_pos hn]
      exact .here (by omega) (by omega)
    · rw [if_neg hn, if_pos (by omega)]
      exact before_two hlt htwo
  by_cases hthree : m ≤ 65535
  · rw [bytesOf, bytesOf, if_neg hone, if_neg htwo, if_pos hthree]
    by_cases hn : n ≤ 2047
    · split_ifs <;> exact .here (by omega) (by omega)
    · rw [if_neg (by omega), if_neg hn, if_pos (by omega)]
      exact before_three hlt hthree
  · rw [bytesOf, bytesOf, if_neg hone, if_neg htwo, if_neg hthree]
    by_cases hn : n ≤ 65535
    · split_ifs <;> exact .here (by omega) (by omega)
    · rw [if_neg (by omega), if_neg (by omega), if_neg hn]
      exact before_four hlt hm

end Digits

theorem utf8EncodeChar_eq (c : Char) :
    String.utf8EncodeChar c = (bytesOf c.toNat).map UInt8.ofNat := by
  unfold String.utf8EncodeChar bytesOf
  rw [← Char.toNat]
  dsimp only
  split_ifs <;> rfl

theorem encodeChar_append_lt {c other : Char} (hlt : c < other) (rest behind : List UInt8) :
    String.utf8EncodeChar c ++ rest < String.utf8EncodeChar other ++ behind := by
  have hnumbers : c.toNat < other.toNat := hlt
  have hvalid : other.toNat < 0x110000 := by
    have hrange : other.toNat < 0xD800 ∨ 0xDFFF < other.toNat ∧ other.toNat < 0x110000 :=
      other.valid
    omega
  rw [utf8EncodeChar_eq, utf8EncodeChar_eq]
  exact (before_bytesOf hnumbers hvalid).append_lt rest behind

theorem encodeChars_lt {one other : List Char} (hlt : one < other) :
    encodeChars one < encodeChars other := by
  induction hlt with
  | @nil c rest =>
      obtain ⟨first, bytes, hbytes⟩ :=
        List.exists_cons_of_ne_nil (@String.utf8EncodeChar_ne_nil c)
      rw [encodeChars, encodeChars, List.flatMap_cons, hbytes]
      exact List.nil_lt_cons _ _
  | @cons c rest behind _ ih =>
      rw [encodeChars, encodeChars, List.flatMap_cons, List.flatMap_cons]
      exact List.append_left_lt ih
  | @rel c rest other behind hchar => exact encodeChar_append_lt hchar _ _

/-- Texts are in the order of their bytes. -/
theorem encode_lt {one other : String} (hlt : one < other) : encode one < encode other :=
  encodeChars_lt hlt

end OpcodeTables.Utf8
