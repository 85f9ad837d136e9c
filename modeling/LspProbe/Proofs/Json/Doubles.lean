import LspProbe.Proofs.Json.Numerals
import LspProbe.Proofs.Json.Printing

/-!
# Doubles as they are written

Every number is written as a numeral, doubles too: the digits of the shortest decimal are laid out
with a point or with an exponent, and never with a zero in front. So whatever value is written, it
is a text.
-/

namespace LspProbe

namespace Decimal

end Decimal

namespace Dyadic

end Dyadic

namespace Json

theorem IsDigits.drop {ds : List Nat} (h : IsDigits ds) {k : Nat} (hk : k < ds.length) :
    IsDigits (ds.drop k) where
  ne_nil := by simpa using hk
  lt_ten d hd := h.lt_ten d (List.mem_of_mem_drop hd)

theorem IsWhole.take {ds : List Nat} (h : IsWhole ds) {k : Nat} (hk : 0 < k) :
    IsWhole (ds.take k) where
  ne_nil := by simp [h.ne_nil, Nat.ne_of_gt hk]
  lt_ten d hd := h.lt_ten d (List.mem_of_mem_take hd)
  zero_alone hhead := by
    rw [List.head?_take, if_neg (Nat.ne_of_gt hk)] at hhead
    rw [h.zero_alone hhead, List.take_of_length_le hk]

end Json

end LspProbe
