import TypedEnv.Proofs.Decimal.Digits
import TypedEnv.Url.Ipv4

/-!
# Version 4 addresses that are read again

The text of an address consists of four numbers without superfluous zeros, so
it ends in a number and is read as that address.
-/

namespace TypedEnv.Url

/-- The four bytes of an address. -/
def ipv4Bytes (value : Nat) : List Nat :=
  [value / 16777216 % 256, value / 65536 % 256, value / 256 % 256, value % 256]

theorem ipv4Text_eq (value : Nat) :
    ipv4Text value = ['.'].intercalate ((ipv4Bytes value).map Decimal.digits) := rfl

theorem point_not_mem_digits (n : Nat) : '.' ∉ Decimal.digits n := by
  intro member
  have isDigit := Decimal.isDigit_of_mem_digits member
  cases isDigit

theorem splitOn_ipv4Text (value : Nat) :
    (ipv4Text value).splitOn '.' = (ipv4Bytes value).map Decimal.digits := by
  rw [ipv4Text_eq]
  apply List.splitOn_intercalate
  · intro part member
    obtain ⟨byte, -, rfl⟩ := List.mem_map.mp member
    exact point_not_mem_digits byte
  · simp [ipv4Bytes]

theorem nameParts_ipv4Text (value : Nat) :
    nameParts (ipv4Text value) = (ipv4Bytes value).map Decimal.digits := by
  rw [nameParts, splitOn_ipv4Text]
  apply if_neg
  rintro ⟨isLast, -⟩
  simp [ipv4Bytes, Decimal.digits_ne_nil] at isLast

theorem endsInNumber_ipv4Text (value : Nat) : endsInNumber (ipv4Text value) = true := by
  have isDigit : (Decimal.digits (value % 256)).all Char.isDigit = true := by
    rw [List.all_eq_true]
    exact fun _ member => Decimal.isDigit_of_mem_digits member
  rw [endsInNumber, nameParts_ipv4Text]
  simp [ipv4Bytes, isDigit, Decimal.digits_ne_nil]

theorem read_digits : ∀ byte < 256, Ipv4Part.read (Decimal.digits byte) = .number byte := by
  decide +kernel

/-- The text of an address is read as that address. -/
theorem readIpv4?_ipv4Text {value : Nat} (fits : value < UInt32.size) :
    readIpv4? (ipv4Text value) = some value := by
  have bound : value < 4294967296 := fits
  have first : value / 16777216 % 256 < 256 := Nat.mod_lt _ (by decide)
  have second : value / 65536 % 256 < 256 := Nat.mod_lt _ (by decide)
  have third : value / 256 % 256 < 256 := Nat.mod_lt _ (by decide)
  have fourth : value % 256 < 256 := Nat.mod_lt _ (by decide)
  have total : ipv4Value? UInt32.size 0 (ipv4Bytes value) = some value := by
    have sum : ((value / 16777216 % 256 * 256 + value / 65536 % 256) * 256 +
        value / 256 % 256) * 256 + value % 256 = value := by omega
    have limit : UInt32.size = 4294967296 := rfl
    simp [ipv4Bytes, ipv4Value?, limit, first, second, third, fourth, sum]
  rw [readIpv4?, nameParts_ipv4Text]
  simp only [ipv4Bytes, List.map_cons, List.map_nil, List.mapM_cons, List.mapM_nil,
    read_digits _ first, read_digits _ second, read_digits _ third, read_digits _ fourth]
  exact total

/-- The numbers of an address fill no more than the bytes that are left. -/
theorem lt_of_ipv4Value? {numbers : List Nat} {limit value result : Nat}
    (found : ipv4Value? limit value numbers = some result) : result < (value + 1) * limit := by
  induction numbers generalizing limit value with
  | nil => cases found
  | cons byte rest induction =>
      cases rest with
      | nil =>
          rw [ipv4Value?] at found
          split at found
          · next fits =>
              cases found
              rw [Nat.add_mul]
              omega
          · cases found
      | cons next others =>
          rw [ipv4Value?] at found
          split at found
          · next fits =>
              have bound := induction found
              calc result < (value * 256 + byte + 1) * (limit / 256) := bound
                _ ≤ ((value + 1) * 256) * (limit / 256) := Nat.mul_le_mul_right _ (by omega)
                _ = (value + 1) * (256 * (limit / 256)) := Nat.mul_assoc _ _ _
                _ ≤ (value + 1) * limit := Nat.mul_le_mul_left _ (Nat.mul_div_le _ _)
          · cases found
          · simp

theorem lt_of_readIpv4? {name : List Char} {value : Nat}
    (found : readIpv4? name = some value) : value < UInt32.size := by
  simp only [readIpv4?, Option.bind_eq_bind, Option.bind_eq_some_iff] at found
  obtain ⟨numbers, -, found⟩ := found
  split at found
  · simpa using lt_of_ipv4Value? found
  · cases found

end TypedEnv.Url
