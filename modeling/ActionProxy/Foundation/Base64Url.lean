import Mathlib.Tactic

/-!
The base64url text of bytes, without padding, and the lenient reading of such texts: both
alphabets are read, other characters are skipped, and a padding character ends the text.
-/

namespace Base64Url

def alphabet : List Char :=
  "ABCDEFGHIJKLMNOPQRSTUVWXYZabcdefghijklmnopqrstuvwxyz0123456789-_".toList

/-- The character of six bits. -/
def digit (sextet : Nat) : Char := alphabet.getD sextet 'A'

/-- The six bits of a character, in either alphabet. -/
def sextet? (char : Char) : Option Nat :=
  if 'A' ≤ char ∧ char ≤ 'Z' then some (char.toNat - 'A'.toNat)
  else if 'a' ≤ char ∧ char ≤ 'z' then some (char.toNat - 'a'.toNat + 26)
  else if '0' ≤ char ∧ char ≤ '9' then some (char.toNat - '0'.toNat + 52)
  else if char = '-' ∨ char = '+' then some 62
  else if char = '_' ∨ char = '/' then some 63
  else none

/-- Three bytes are four characters; one or two bytes at the end are two or three. -/
def encode : List UInt8 → List Char
  | first :: second :: third :: rest =>
      let bits := (first.toNat * 256 + second.toNat) * 256 + third.toNat
      digit (bits / 262144) :: digit (bits / 4096 % 64) :: digit (bits / 64 % 64) ::
        digit (bits % 64) :: encode rest
  | [first, second] =>
      let bits := (first.toNat * 256 + second.toNat) * 4
      [digit (bits / 4096), digit (bits / 64 % 64), digit (bits % 64)]
  | [first] =>
      let bits := first.toNat * 16
      [digit (bits / 64), digit (bits % 64)]
  | [] => []

def sextets (chars : List Char) : List Nat :=
  (chars.takeWhile (· != '=')).filterMap sextet?

/-- The bytes of groups of six bits; bits that are left over are dropped. -/
def bytesOf : List Nat → List UInt8
  | first :: second :: third :: fourth :: rest =>
      let bits := ((first * 64 + second) * 64 + third) * 64 + fourth
      UInt8.ofNat (bits / 65536) :: UInt8.ofNat (bits / 256 % 256) :: UInt8.ofNat (bits % 256) ::
        bytesOf rest
  | [first, second, third] =>
      let bits := (first * 64 + second) * 64 + third
      [UInt8.ofNat (bits / 1024), UInt8.ofNat (bits / 4 % 256)]
  | [first, second] => [UInt8.ofNat ((first * 64 + second) / 16)]
  | _ => []

def decode (chars : List Char) : List UInt8 := bytesOf (sextets chars)

/-! ### Reading a text back -/

theorem digit_spec : ∀ sextet < 64, sextet? (digit sextet) = some sextet ∧
    digit sextet ≠ '=' ∧ digit sextet ≠ '.' := by
  decide +kernel

theorem sextets_digit {sextet : Nat} (small : sextet < 64) (rest : List Char) :
    sextets (digit sextet :: rest) = sextet :: sextets rest := by
  obtain ⟨read, padding, -⟩ := digit_spec sextet small
  unfold sextets
  rw [List.takeWhile_cons_of_pos (by simpa using padding), List.filterMap_cons_some read]

theorem ofNat_of_eq {value : Nat} (byte : UInt8) (same : value = byte.toNat) :
    UInt8.ofNat value = byte := by
  rw [same]
  exact UInt8.ofNat_toNat

theorem decode_encode (bytes : List UInt8) : decode (encode bytes) = bytes := by
  unfold decode
  induction bytes using encode.induct with
  | case1 first second third rest ih =>
      have firstSmall := first.toNat_lt
      have secondSmall := second.toNat_lt
      have thirdSmall := third.toNat_lt
      rw [encode, sextets_digit (by omega), sextets_digit (by omega), sextets_digit (by omega),
        sextets_digit (by omega), bytesOf, ih, ofNat_of_eq first (by omega),
        ofNat_of_eq second (by omega), ofNat_of_eq third (by omega)]
  | case2 first second =>
      have firstSmall := first.toNat_lt
      have secondSmall := second.toNat_lt
      rw [encode, sextets_digit (by omega), sextets_digit (by omega), sextets_digit (by omega)]
      change bytesOf [_, _, _] = _
      rw [bytesOf, ofNat_of_eq first (by omega), ofNat_of_eq second (by omega)]
  | case3 first =>
      have firstSmall := first.toNat_lt
      rw [encode, sextets_digit (by omega), sextets_digit (by omega)]
      change bytesOf [_, _] = _
      rw [bytesOf, ofNat_of_eq first (by omega)]
  | case4 => rfl

theorem exists_sextet {bytes : List UInt8} {char : Char} (listed : char ∈ encode bytes) :
    ∃ sextet < 64, char = digit sextet := by
  induction bytes using encode.induct with
  | case1 first second third rest ih =>
      have firstSmall := first.toNat_lt
      have secondSmall := second.toNat_lt
      have thirdSmall := third.toNat_lt
      rw [encode] at listed
      simp only [List.mem_cons] at listed
      rcases listed with rfl | rfl | rfl | rfl | later
      · exact ⟨_, by omega, rfl⟩
      · exact ⟨_, by omega, rfl⟩
      · exact ⟨_, by omega, rfl⟩
      · exact ⟨_, by omega, rfl⟩
      · exact ih later
  | case2 first second =>
      have firstSmall := first.toNat_lt
      have secondSmall := second.toNat_lt
      rw [encode] at listed
      simp only [List.mem_cons, List.not_mem_nil, or_false] at listed
      rcases listed with rfl | rfl | rfl
      · exact ⟨_, by omega, rfl⟩
      · exact ⟨_, by omega, rfl⟩
      · exact ⟨_, by omega, rfl⟩
  | case3 first =>
      have firstSmall := first.toNat_lt
      rw [encode] at listed
      simp only [List.mem_cons, List.not_mem_nil, or_false] at listed
      rcases listed with rfl | rfl
      · exact ⟨_, by omega, rfl⟩
      · exact ⟨_, by omega, rfl⟩
  | case4 => exact absurd listed List.not_mem_nil

theorem period_not_mem_encode (bytes : List UInt8) : '.' ∉ encode bytes := by
  intro listed
  obtain ⟨sextet, small, same⟩ := exists_sextet listed
  exact (digit_spec sextet small).2.2 same.symm

theorem encode_ne_nil {bytes : List UInt8} (some : bytes ≠ []) : encode bytes ≠ [] := by
  intro empty
  have back := decode_encode bytes
  rw [empty] at back
  exact some back.symm

end Base64Url
