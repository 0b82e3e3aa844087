import PageGrader.Display
import PageGrader.Proofs.Scoring
import PageGrader.Proofs.Sorting

namespace PageGrader.Display

/-- The findings of one severity that passed, or that failed, in the order of the run. -/
def group (passed : Bool) (severity : Severity) (findings : List Finding) : List Finding :=
  findings.filter fun f => f.passed == passed && f.criterion.severity == severity

def place (passed : Bool) (severity : Severity) : Nat :=
  2 * passed.toNat + if severity = .error then 0 else 1

variable {bound : Nat} {text : String}

theorem truncate_of_le (h : text.length ≤ bound) : truncate bound text = text := by
  rw [truncate, String.length_toList, if_pos h]

/-- What is cut off makes room for the mark, as far as there is room at all. -/
theorem truncate_of_lt (h : bound < text.length) :
    truncate bound text = String.ofList (text.toList.take (bound - 3)) ++ "..." := by
  rw [truncate, String.length_toList, if_neg (Nat.not_le_of_lt h), String.ofList_append]

theorem length_truncate_of_lt (h : bound < text.length) :
    (truncate bound text).length = max 3 bound := by
  have hkept : min (bound - 3) text.length = bound - 3 := by omega
  rw [truncate_of_lt h, String.length_append, String.length_ofList, List.length_take,
    String.length_toList, hkept]
  change bound - 3 + 3 = max 3 bound
  omega

/-- Where there is room for no more than the mark, nothing else is left of a longer text. -/
theorem truncate_of_small (hsmall : bound < 3) (h : bound < text.length) :
    truncate bound text = "..." := by
  have hnone : bound - 3 = 0 := by omega
  rw [truncate_of_lt h, hnone]
  rfl

theorem length_truncate_le_iff :
    (truncate bound text).length ≤ bound ↔ text.length ≤ bound ∨ 3 ≤ bound := by
  by_cases hle : text.length ≤ bound
  · rw [truncate_of_le hle]
    exact iff_of_true hle (.inl hle)
  · rw [length_truncate_of_lt (Nat.lt_of_not_le hle)]
    omega

theorem truncate_eq_self_iff : truncate bound text = text ↔ text.length ≤ bound ∨ text = "..." := by
  by_cases hle : text.length ≤ bound
  · exact iff_of_true (truncate_of_le hle) (.inl hle)
  · have hlt : bound < text.length := Nat.lt_of_not_le hle
    have hlength := length_truncate_of_lt hlt
    rw [or_iff_right hle]
    constructor
    · intro hself
      rw [hself] at hlength
      rw [← hself]
      exact truncate_of_small (by omega) hlt
    · rintro rfl
      exact truncate_of_small hlt hlt

theorem truncate_truncate (bound : Nat) (text : String) :
    truncate bound (truncate bound text) = truncate bound text := by
  rw [truncate_eq_self_iff, length_truncate_le_iff]
  by_cases hroom : text.length ≤ bound ∨ 3 ≤ bound
  · exact .inl hroom
  · obtain ⟨hlong, hsmall⟩ := not_or.mp hroom
    exact .inr (truncate_of_small (Nat.lt_of_not_le hsmall) (Nat.lt_of_not_le hlong))

theorem exists_kept (h : bound < text.length) :
    ∃ kept rest, text = kept ++ rest ∧ kept.length = bound - 3 ∧ truncate bound text = kept ++ "..." := by
  refine ⟨String.ofList (text.toList.take (bound - 3)), String.ofList (text.toList.drop (bound - 3)),
    ?_, ?_, truncate_of_lt h⟩
  · rw [← String.ofList_append, List.take_append_drop, String.ofList_toList]
  · rw [String.length_ofList, List.length_take, String.length_toList]
    omega

/-- What a text should come to that may have no more than `bound` characters: it stays as it is just if
it is short enough, and of a longer one as much of its beginning is kept as fits before the mark. -/
structure Shortened (bound : Nat) (text result : String) : Prop where
  length_le : result.length ≤ bound
  eq_iff : result = text ↔ text.length ≤ bound
  marked : bound < text.length →
    ∃ kept rest, text = kept ++ rest ∧ result = kept ++ "..." ∧ result.length = bound
  again : truncate bound result = result

theorem shortened_of_room (h : text.length ≤ bound ∨ 3 ≤ bound) :
    Shortened bound text (truncate bound text) where
  length_le := length_truncate_le_iff.mpr h
  eq_iff := by
    rw [truncate_eq_self_iff, or_iff_left_iff_imp]
    rintro rfl
    exact h.elim id id
  marked hlt := by
    obtain ⟨kept, rest, htext, -, hcut⟩ := exists_kept hlt
    refine ⟨kept, rest, htext, hcut, ?_⟩
    rw [length_truncate_of_lt hlt]
    omega
  again := truncate_truncate bound text

/-- Cutting keeps to the bound, and does all that is asked of it, just if the text is short enough or
there is room for the mark. Otherwise three points are all that is left, which is more than the bound
allows, and a text of three points stays as it is. A second cut never changes anything. -/
theorem shortened_truncate_iff (bound : Nat) (text : String) :
    (Shortened bound text (truncate bound text) ↔ text.length ≤ bound ∨ 3 ≤ bound) ∧
      (truncate bound text).length = (if text.length ≤ bound then text.length else max 3 bound) ∧
      (truncate bound text = text ↔ text.length ≤ bound ∨ text = "...") ∧
      (bound < text.length → ∃ kept rest, text = kept ++ rest ∧ kept.length = bound - 3 ∧
        truncate bound text = kept ++ "...") ∧
      truncate bound (truncate bound text) = truncate bound text := by
  refine ⟨⟨fun h => length_truncate_le_iff.mp h.length_le, shortened_of_room⟩, ?_, truncate_eq_self_iff,
    exists_kept, truncate_truncate bound text⟩
  split
  next hle => rw [truncate_of_le hle]
  next hlong => exact length_truncate_of_lt (Nat.lt_of_not_le hlong)

/-- Nothing can be left of a text that may have no characters, but the mark of the cut is. -/
theorem mark_left_without_room :
    ¬ ∀ (bound : Nat) (text : String), Shortened bound text (truncate bound text) := by
  intro hall
  have hle := (hall 0 "a").length_le
  exact absurd hle (by decide)

end PageGrader.Display
