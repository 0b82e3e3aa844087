namespace PageGrader

/-- Puts an entry in front of the first one whose key is not smaller. -/
def insertOn {α : Type} (key : α → Nat) (a : α) : List α → List α
  | [] => [a]
  | b :: rest => if key a ≤ key b then a :: b :: rest else b :: insertOn key a rest

def sortOn {α : Type} (key : α → Nat) (l : List α) : List α :=
  l.foldr (insertOn key) []

def dropRepeats {α : Type} [BEq α] : List α → List α
  | [] => []
  | a :: rest =>
    match rest with
    | b :: _ => if a == b then dropRepeats rest else a :: dropRepeats rest
    | [] => [a]

theorem mem_insertOn {α : Type} {key : α → Nat} {a x : α} {l : List α} :
    x ∈ insertOn key a l ↔ x = a ∨ x ∈ l := by
  induction l with
  | nil => simp [insertOn]
  | cons b rest ih =>
    unfold insertOn
    split
    · simp
    · simp only [List.mem_cons, ih]
      exact or_left_comm

theorem mem_sortOn {α : Type} {key : α → Nat} {x : α} {l : List α} : x ∈ sortOn key l ↔ x ∈ l := by
  induction l with
  | nil => simp [sortOn]
  | cons a rest ih =>
    have h : sortOn key (a :: rest) = insertOn key a (sortOn key rest) := rfl
    rw [h, mem_insertOn, ih, List.mem_cons]

end PageGrader
