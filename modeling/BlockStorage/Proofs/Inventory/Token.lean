import Mathlib
import BlockStorage.Cluster.Inventory

/-!
Tokens that are drawn from a counter.

A token is a mark, a dash and a number, so that tokens of one mark are equal only if their numbers are.
A text is numbered in a stretch of the counter if a token drawn there reads so; texts of stretches that
follow each other differ.
-/

namespace BlockStorage

/-- A text is a token of a mark whose number is above `low` and at most `high`. -/
def Numbered (mark : String) (low high : Nat) (text : String) : Prop :=
  ∃ n, low < n ∧ n ≤ high ∧ text = mark ++ "-" ++ toString n

theorem token_text_injective {mark : String} {m n : Nat}
    (h : mark ++ "-" ++ toString m = mark ++ "-" ++ toString n) : m = n := by
  have htext : toString m = toString n := by simpa using h
  rw [Nat.toString_eq_repr, Nat.toString_eq_repr] at htext
  exact Nat.repr_injective htext

namespace Numbered

variable {mark text : String} {low mid high : Nat}

theorem mono {low' high' : Nat} (h : Numbered mark low high text) (hlow : low' ≤ low)
    (hhigh : high ≤ high') : Numbered mark low' high' text := by
  obtain ⟨n, hn, hn', rfl⟩ := h
  exact ⟨n, by omega, by omega, rfl⟩

/-- A text is not numbered in two stretches that follow each other. -/
theorem not_later (h : Numbered mark low mid text) : ¬ Numbered mark mid high text := by
  rintro ⟨n, hn, _, htext⟩
  obtain ⟨m, _, hm, rfl⟩ := h
  have hmn := token_text_injective htext
  omega

theorem ne_empty (h : Numbered mark low high text) : text ≠ "" := by
  obtain ⟨n, _, _, rfl⟩ := h
  simp

end Numbered

/-- The token that an inventory draws next is numbered in every stretch that starts at its counter. -/
theorem Inventory.numbered_token (inv : Inventory) (mark : String) {high : Nat}
    (h : inv.drawn < high) : Numbered mark inv.drawn high (inv.token mark) :=
  ⟨inv.drawn + 1, by omega, by omega, rfl⟩

end BlockStorage
