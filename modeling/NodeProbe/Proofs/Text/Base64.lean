import Mathlib.Tactic.Common
import NodeProbe.Text.Base64

/-!
# Base64 reads back

Each digit reads back as its six bits (`value?_digit`), so each group of four digits gives back its
octets, whether it is full, or filled up behind one octet or two (`decode_encode`).
-/

namespace NodeProbe.Text.Base64

theorem value?_digit : ∀ n < 64, value? (digit n) = some n := by
  decide

theorem digit_ne_equals : ∀ n < 64, digit n ≠ '=' := by
  decide

theorem ofNat_eq_octet {n : Nat} {b : UInt8} (h : n = b.toNat) : UInt8.ofNat n = b := by
  rw [h, UInt8.ofNat_toNat]

/-- A full group, whatever follows it. -/
theorem decodeChars_group {x y z w : Nat} (hx : x < 64) (hy : y < 64) (hz : z < 64) (hw : w < 64)
    (rest : List Char) :
    decodeChars (digit x :: digit y :: digit z :: digit w :: rest) =
      (decodeChars rest).map fun more =>
        UInt8.ofNat ((((x * 64 + y) * 64 + z) * 64 + w) / 65536) ::
          UInt8.ofNat ((((x * 64 + y) * 64 + z) * 64 + w) / 256 % 256) ::
          UInt8.ofNat ((((x * 64 + y) * 64 + z) * 64 + w) % 256) :: more := by
  rw [decodeChars]
  · simp only [value?_digit x hx, value?_digit y hy, value?_digit z hz, value?_digit w hw]
    cases decodeChars rest <;> rfl
  · intro hz' _ _
    exact digit_ne_equals z hz hz'
  · intro hw' _
    exact digit_ne_equals w hw hw'

theorem decodeChars_encodeChars (bytes : Bytes) : decodeChars (encodeChars bytes) = some bytes := by
  induction bytes using encodeChars.induct with
  | case1 => rfl
  | case2 a =>
    have ha := a.toNat_lt
    rw [encodeChars, decodeChars]
    simp only [value?_digit _ (show a.toNat * 16 / 64 < 64 by omega),
      value?_digit _ (show a.toNat * 16 % 64 < 64 by omega)]
    exact congrArg (fun b => some [b]) (ofNat_eq_octet (by omega))
  | case3 a b =>
    have ha := a.toNat_lt
    have hb := b.toNat_lt
    have hz := digit_ne_equals _ (show (a.toNat * 256 + b.toNat) * 4 % 64 < 64 by omega)
    rw [encodeChars, decodeChars]
    · simp only [value?_digit _ (show (a.toNat * 256 + b.toNat) * 4 / 4096 < 64 by omega),
        value?_digit _ (show (a.toNat * 256 + b.toNat) * 4 / 64 % 64 < 64 by omega),
        value?_digit _ (show (a.toNat * 256 + b.toNat) * 4 % 64 < 64 by omega)]
      exact congrArg some (congrArg₂ (fun a b => [a, b]) (ofNat_eq_octet (by omega))
        (ofNat_eq_octet (by omega)))
    · exact hz
  | case4 a b c rest ih =>
    have ha := a.toNat_lt
    have hb := b.toNat_lt
    have hc := c.toNat_lt
    rw [encodeChars, decodeChars_group (by omega) (by omega) (by omega) (by omega), ih,
      Option.map_some, ofNat_eq_octet (b := a) (by omega), ofNat_eq_octet (b := b) (by omega),
      ofNat_eq_octet (b := c) (by omega)]

/-- What is encoded reads back. -/
theorem decode_encode (bytes : Bytes) : decode (encode bytes) = some bytes := by
  rw [decode, encode, String.toList_ofList, decodeChars_encodeChars]

end NodeProbe.Text.Base64
