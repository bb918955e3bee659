import Mathlib.Data.Prod.Lex
import Mathlib.Data.Set.Function
import Mathlib.Data.Set.Prod

/-!
# Machinery/Sections — a list laid out in `k` sections for each item

    item i ──▸ sections k * i, …, k * i + (k - 1)

A section number is divided by `k`: the quotient is the item, the remainder the part of it.
-/

namespace Sections

/-- The item of a section, and the part of the item. -/
def place (k s : ℕ) : ℕ × ℕ := (s / k, s % k)

variable {k n : ℕ}

theorem place_mul_add {i r : ℕ} (hr : r < k) : place k (k * i + r) = (i, r) := by
  rw [place, Nat.mul_add_div (Nat.zero_lt_of_lt hr), Nat.div_eq_of_lt hr, Nat.add_zero,
    Nat.mul_add_mod, Nat.mod_eq_of_lt hr]

/-- **Nothing is lost and nothing repeated**: `n` items fill `n * k` sections. -/
theorem bijOn_place (hk : 0 < k) :
    Set.BijOn (place k) {s | s < n * k} ({i | i < n} ×ˢ {r | r < k}) := by
  refine ⟨fun s hs => ⟨(Nat.div_lt_iff_lt_mul hk).2 hs, Nat.mod_lt s hk⟩, fun s _ t _ hst => ?_, ?_⟩
  · obtain ⟨hdiv, hmod⟩ := Prod.mk.inj hst
    rw [← Nat.div_add_mod s k, ← Nat.div_add_mod t k, hdiv, hmod]
  · rintro ⟨i, r⟩ ⟨hi, hr⟩
    refine ⟨k * i + r, (Nat.div_lt_iff_lt_mul hk).1 ?_, place_mul_add hr⟩
    exact (congrArg Prod.fst (place_mul_add hr)).trans_lt hi

/-- Sections come item by item, and part by part. -/
theorem strictMono_place : StrictMono fun s => toLex (place k s) := by
  intro s t hst
  rw [Prod.Lex.toLex_lt_toLex]
  rcases (Nat.div_le_div_right (c := k) hst.le).lt_or_eq with hdiv | hdiv
  · exact Or.inl hdiv
  · refine Or.inr ⟨hdiv, ?_⟩
    have hs := Nat.div_add_mod s k
    have ht := Nat.div_add_mod t k
    rw [hdiv] at hs
    change s % k < t % k
    omega

end Sections
