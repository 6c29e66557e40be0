/-
  TreeQuery.Proofs.Text.Order

  Texts in the order of their bytes. The first byte of an encoding says how many follow
  it and has the highest digits of the code point to the base 64; each byte that follows
  has the next digit. So of two characters the one with the greater code point has the
  greater encoding, whatever stands behind it (`Text.utf8EncodeChar_append_lt`), and texts
  that are in the order of their characters are in the order of their bytes
  (`Text.bytes_lt_bytes`).
-/

import Mathlib.Algebra.Group.Nat.Defs
import TreeQuery.Proofs.Text.Boundary

namespace TreeQuery.Text

/-! ## Encodings by their digits -/

/-- How many bytes follow the first one in the encoding of a code point. -/
def following (n : Nat) : Nat :=
  if n < 0x80 then 0 else if n < 0x800 then 1 else if n < 0x10000 then 2 else 3

/-- What is added to the digits in a first byte that `k` bytes follow. -/
def leadMark : Nat → Nat
  | 0 => 0
  | 1 => 0xC0
  | 2 => 0xE0
  | _ => 0xF0

/-- The first byte of the encoding of a code point. -/
def leadByte (n : Nat) : Nat := n / 64 ^ following n + leadMark (following n)

/-- The last `k` digits of a code point, in bytes that go on with an encoding. -/
def digitBytes (n : Nat) : Nat → List UInt8
  | 0 => []
  | k + 1 => .ofNat (n / 64 ^ k % 64 + 0x80) :: digitBytes n k

theorem toNat_lt (c : Char) : c.toNat < 0x110000 := by
  rcases c.valid with h | h
  · exact Nat.lt_trans h (by decide)
  · exact h.2

theorem utf8EncodeChar_eq (c : Char) :
    String.utf8EncodeChar c =
      .ofNat (leadByte c.toNat) :: digitBytes c.toNat (following c.toNat) := by
  have hbound := toNat_lt c
  have hval : c.val.toNat = c.toNat := rfl
  rw [leadByte, following]
  -- By the number of bytes; the digits of a first byte are all that is left of the code point.
  fun_cases String.utf8EncodeChar with
  | case1 v h =>
    rw [if_pos (by omega)]
    simp [digitBytes, leadMark, v]
  | case2 v h h' =>
    rw [if_neg (by omega), if_pos (by omega), Nat.mod_eq_of_lt (by omega)]
    simp [digitBytes, leadMark, v]
  | case3 v h h' h'' =>
    rw [if_neg (by omega), if_neg (by omega), if_pos (by omega),
      Nat.mod_eq_of_lt (a := v / 4096) (by omega)]
    simp [digitBytes, leadMark, v]
  | case4 v h h' h'' =>
    rw [if_neg (by omega), if_neg (by omega), if_neg (by omega),
      Nat.mod_eq_of_lt (a := v / 262144) (by omega)]
    simp [digitBytes, leadMark, v]

/-! ## Encodings in order -/

theorem ofNat_lt_ofNat {m n : Nat} (h : m < n) (hn : n < 256) : UInt8.ofNat m < UInt8.ofNat n := by
  rw [UInt8.lt_iff_toNat_lt, UInt8.toNat_ofNat', UInt8.toNat_ofNat', Nat.mod_eq_of_lt hn,
    Nat.mod_eq_of_lt (Nat.lt_trans h hn)]
  exact h

theorem leadByte_lt {n : Nat} (h : n < 0x110000) : leadByte n < 256 := by
  simp only [leadByte, following]
  repeat' split
  all_goals simp only [leadMark]; omega

/-- The greater of two code points has the greater first byte, or they agree in their highest
digits and in how many follow. -/
theorem leadByte_lt_or {m n : Nat} (h : m < n) :
    leadByte m < leadByte n ∨
      following m = following n ∧ m / 64 ^ following m = n / 64 ^ following n := by
  simp only [leadByte, following]
  repeat' split
  all_goals simp only [leadMark, true_and]; omega

/-- Behind equal digits, the digits that follow are in the order of the numbers. -/
theorem digitBytes_append_lt {m n k : Nat} (h : m < n) (hsame : m / 64 ^ k = n / 64 ^ k)
    (s t : List UInt8) : digitBytes m k ++ s < digitBytes n k ++ t := by
  induction k with
  | zero =>
    rw [Nat.pow_zero, Nat.div_one, Nat.div_one] at hsame
    omega
  | succ k ih =>
    have hhigher : m / 64 ^ k / 64 = n / 64 ^ k / 64 := by
      rw [Nat.div_div_eq_div_mul, Nat.div_div_eq_div_mul, ← Nat.pow_succ]
      exact hsame
    have hle : m / 64 ^ k ≤ n / 64 ^ k := Nat.div_le_div_right (Nat.le_of_lt h)
    rw [digitBytes, digitBytes, List.cons_append, List.cons_append, List.cons_lt_cons_iff]
    rcases Nat.lt_or_eq_of_le hle with hlt | heq
    · exact .inl (ofNat_lt_ofNat (by omega) (by omega))
    · exact .inr ⟨by rw [heq], ih heq⟩

/-- The greater character has the greater encoding, whatever follows. -/
theorem utf8EncodeChar_append_lt {c d : Char} (h : c < d) (s t : List UInt8) :
    String.utf8EncodeChar c ++ s < String.utf8EncodeChar d ++ t := by
  have hnat : c.toNat < d.toNat := h
  rw [utf8EncodeChar_eq, utf8EncodeChar_eq, List.cons_append, List.cons_append,
    List.cons_lt_cons_iff]
  rcases leadByte_lt_or hnat with hlead | ⟨hfollowing, hdigits⟩
  · exact .inl (ofNat_lt_ofNat hlead (leadByte_lt (toNat_lt d)))
  · refine .inr ⟨by rw [leadByte, leadByte, hdigits, hfollowing], ?_⟩
    rw [hfollowing] at hdigits ⊢
    exact digitBytes_append_lt hnat hdigits s t

/-- **Texts are in the order of their bytes.** -/
theorem bytes_lt_bytes {s t : Text} (h : s < t) : s.bytes < t.bytes := by
  induction h with
  | @nil c t =>
    obtain ⟨b, rest, hbytes⟩ :=
      List.exists_cons_of_ne_nil (String.utf8EncodeChar_ne_nil (c := c))
    rw [bytes_cons, hbytes, List.cons_append]
    exact .nil
  | rel h => exact utf8EncodeChar_append_lt h _ _
  | cons _ ih =>
    rw [bytes_cons, bytes_cons]
    exact List.append_left_lt ih

end TreeQuery.Text
