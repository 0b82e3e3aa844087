import Mathlib.Data.List.Perm.Basic
import PageGrader.Sorting

namespace PageGrader

variable {α : Type} (key : α → Nat)

theorem insertOn_perm (a : α) (l : List α) : (insertOn key a l).Perm (a :: l) := by
  induction l with
  | nil => exact List.Perm.refl _
  | cons b rest ih =>
    unfold insertOn
    split
    · exact List.Perm.refl _
    · exact (ih.cons b).trans (List.Perm.swap a b rest)

theorem sortOn_perm (l : List α) : (sortOn key l).Perm l := by
  induction l with
  | nil => exact List.Perm.refl _
  | cons a rest ih => exact (insertOn_perm key a (sortOn key rest)).trans (ih.cons a)

theorem insertOn_sorted (a : α) {l : List α} (h : l.Pairwise (key · ≤ key ·)) :
    (insertOn key a l).Pairwise (key · ≤ key ·) := by
  induction l with
  | nil => exact List.pairwise_singleton _ _
  | cons b rest ih =>
    obtain ⟨hb, hrest⟩ := List.pairwise_cons.mp h
    unfold insertOn
    split
    next hab =>
      refine List.pairwise_cons.mpr ⟨?_, h⟩
      intro c hc
      rcases List.mem_cons.mp hc with rfl | hc
      · exact hab
      · exact Nat.le_trans hab (hb c hc)
    next hab =>
      refine List.pairwise_cons.mpr ⟨?_, ih hrest⟩
      intro c hc
      rcases mem_insertOn.mp hc with rfl | hc
      · omega
      · exact hb c hc

theorem sortOn_sorted (l : List α) : (sortOn key l).Pairwise (key · ≤ key ·) := by
  induction l with
  | nil => exact List.Pairwise.nil
  | cons a rest ih => exact insertOn_sorted key a ih

theorem sortOn_increasing {l : List α} (h : (l.map key).Nodup) :
    (sortOn key l).Pairwise (key · < key ·) := by
  have hne : (sortOn key l).Pairwise (key · ≠ key ·) := by
    rw [← List.pairwise_map (f := key) (R := (· ≠ ·))]
    exact (((sortOn_perm key l).map key).nodup_iff).mpr h
  exact (sortOn_sorted key l).imp₂ (fun a b hle hne => Nat.lt_of_le_of_ne hle hne) hne

/-- A list that counts up is the only one of its entries that does. -/
theorem eq_of_perm_of_increasing {l l' : List α} (hperm : l.Perm l') (h : l.Pairwise (key · < key ·))
    (h' : l'.Pairwise (key · < key ·)) : l = l' :=
  hperm.eq_of_pairwise (fun _ _ _ _ hlt hgt => absurd hlt (Nat.lt_asymm hgt)) h h'

/-- Entries with different numbers have one sorted order, however they came. -/
theorem sortOn_eq_of_perm {l l' : List α} (hperm : l.Perm l') (h : (l.map key).Nodup) :
    sortOn key l = sortOn key l' := by
  have h' : (l'.map key).Nodup := ((hperm.map key).nodup_iff).mp h
  have hsorted : (sortOn key l).Perm (sortOn key l') :=
    ((sortOn_perm key l).trans hperm).trans (sortOn_perm key l').symm
  exact eq_of_perm_of_increasing key hsorted (sortOn_increasing key h) (sortOn_increasing key h')

theorem mem_dropRepeats [BEq α] [LawfulBEq α] {x : α} {l : List α} :
    x ∈ dropRepeats l ↔ x ∈ l := by
  fun_induction dropRepeats l with
  | case1 => exact Iff.rfl
  | case2 a b rest hab ih =>
    rw [ih, List.mem_cons (a := x) (l := b :: rest), eq_of_beq hab]
    simp
  | case3 a b rest hab ih => rw [List.mem_cons, ih, List.mem_cons (l := b :: rest)]
  | case4 => exact Iff.rfl

/-- In a sorted list in which a number stands for one entry, repetitions are next to each other. -/
theorem dropRepeats_increasing [BEq α] [LawfulBEq α] {l : List α}
    (hsorted : l.Pairwise (key · ≤ key ·)) (hkey : ∀ a ∈ l, ∀ b ∈ l, key a = key b → a = b) :
    (dropRepeats l).Pairwise (key · < key ·) := by
  fun_induction dropRepeats l with
  | case1 => exact List.Pairwise.nil
  | case2 a b rest hab ih =>
    obtain ⟨-, hrest⟩ := List.pairwise_cons.mp hsorted
    exact ih hrest fun x hx y hy => hkey x (List.mem_cons_of_mem a hx) y (List.mem_cons_of_mem a hy)
  | case3 a b rest hab ih =>
    obtain ⟨ha, hrest⟩ := List.pairwise_cons.mp hsorted
    refine List.pairwise_cons.mpr ⟨?_, ?_⟩
    · intro c hc
      have hlt : key a < key b := by
        refine Nat.lt_of_le_of_ne (ha b List.mem_cons_self) fun heq => hab ?_
        rw [beq_iff_eq]
        exact hkey a List.mem_cons_self b (List.mem_cons_of_mem a List.mem_cons_self) heq
      rcases List.mem_cons.mp (mem_dropRepeats.mp hc) with rfl | hc
      · exact hlt
      · exact Nat.lt_of_lt_of_le hlt ((List.pairwise_cons.mp hrest).1 c hc)
    · exact ih hrest fun x hx y hy => hkey x (List.mem_cons_of_mem a hx) y (List.mem_cons_of_mem a hy)
  | case4 => exact List.pairwise_singleton _ _

end PageGrader
