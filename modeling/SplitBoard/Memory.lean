/-!
# Writing into memory

A memory is an array of bytes. Bytes are written one after the other from a position on; what would
go past the end is dropped, so **the memory keeps its size**.
-/

namespace SplitBoard

/-- Write bytes from a position on. -/
def overwrite (memory : Array UInt8) (start : Nat) : List UInt8 → Array UInt8
  | [] => memory
  | byte :: rest => overwrite (memory.setIfInBounds start byte) (start + 1) rest

@[simp] theorem size_overwrite (memory : Array UInt8) (start : Nat) (bytes : List UInt8) :
    (overwrite memory start bytes).size = memory.size := by
  induction bytes generalizing memory start with
  | nil => rfl
  | cons byte rest ih => simp [overwrite, ih]

/-- Each position holds the byte written to it, and every other what it held before. -/
theorem getElem?_overwrite (memory : Array UInt8) (start : Nat) (bytes : List UInt8) (i : Nat) :
    (overwrite memory start bytes)[i]? =
      if start ≤ i ∧ i < start + bytes.length ∧ i < memory.size then bytes[i - start]?
      else memory[i]? := by
  induction bytes generalizing memory start with
  | nil =>
    rw [overwrite, if_neg fun h => by simp only [List.length_nil] at h; omega]
  | cons byte rest ih =>
    rw [overwrite, ih]
    simp only [Array.size_setIfInBounds, Array.getElem?_setIfInBounds, List.length_cons]
    by_cases here : start = i
    · subst here
      rw [if_neg (by omega), if_pos rfl]
      by_cases h : start < memory.size
      · rw [if_pos h, if_pos (by omega), Nat.sub_self, List.getElem?_cons_zero]
      · rw [if_neg h, if_neg (by omega), Array.getElem?_eq_none (by omega)]
    · by_cases inside : start + 1 ≤ i ∧ i < start + 1 + rest.length ∧ i < memory.size
      · rw [if_pos inside, if_pos (by omega)]
        rw [show i - start = i - (start + 1) + 1 by omega, List.getElem?_cons_succ]
      · rw [if_neg inside, if_neg (by omega), if_neg (by omega)]

end SplitBoard
