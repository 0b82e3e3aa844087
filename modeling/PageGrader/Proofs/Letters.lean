import PageGrader.Text.Fold

namespace PageGrader.Text

def isNameChar (c : Char) : Bool := c.isAlphanum || c == '-'

variable {c d : Char}

theorem isAscii_of_isNameChar (h : isNameChar c = true) : c.toNat < 0x80 := by
  have hranges : (((decide ('A'.val ≤ c.val ∧ c.val ≤ 'Z'.val) ||
      (decide ('a'.val ≤ c.val) && decide (c.val ≤ 'z'.val))) ||
      (decide ('0'.val ≤ c.val) && decide (c.val ≤ '9'.val))) || c == '-') = true := h
  simp only [Bool.or_eq_true, Bool.and_eq_true, decide_eq_true_eq, beq_iff_eq, UInt32.le_iff_toNat_le]
    at hranges
  rcases hranges with ((h | h) | h) | rfl
  · exact Nat.lt_of_le_of_lt h.2 (by decide)
  · exact Nat.lt_of_le_of_lt h.2 (by decide)
  · exact Nat.lt_of_le_of_lt h.2 (by decide)
  · decide

/-- What holds of the first 128 characters can be checked one by one. -/
theorem forall_ascii (p : Char → Prop) (h : ∀ n : Fin 0x80, p (Char.ofNat n)) (hc : c.toNat < 0x80) :
    p c := by
  have := h ⟨c.toNat, hc⟩
  rwa [Char.ofNat_toNat] at this

theorem fold_of_ascii (h : c.toNat < 0x80) : fold c = c.toLower := if_pos h

theorem isNameChar_toLower (h : isNameChar c = true) : isNameChar c.toLower = true :=
  forall_ascii (fun c => isNameChar c = true → isNameChar c.toLower = true) (by decide +kernel)
    (isAscii_of_isNameChar h) h

theorem not_isBlank_of_isNameChar (h : isNameChar c = true) : isBlank c = false :=
  forall_ascii (fun c => isNameChar c = true → isBlank c = false) (by decide +kernel)
    (isAscii_of_isNameChar h) h

theorem sameCase_comm (c d : Char) : sameCase c d = sameCase d c := by
  rw [sameCase, sameCase, Bool.beq_comm, Bool.beq_comm (a := fold c)]

theorem sameCase_of_isNameChar (hc : isNameChar c = true) (hd : isNameChar d = true) :
    sameCase c d = (c.toLower == d.toLower) := by
  rw [sameCase, fold_of_ascii (isAscii_of_isNameChar hc), fold_of_ascii (isAscii_of_isNameChar hd)]
  by_cases h : c = d
  · subst h
    simp
  · rw [beq_false_of_ne h, Bool.false_or]

/-- A character that folds to itself is no case variant of a character of names. -/
theorem sameCase_eq_false (hc : isNameChar c = true) (hd : isNameChar d = false) (hfold : fold d = d) :
    sameCase c d = false := by
  have hne : ∀ c', isNameChar c' = true → (c' == d) = false := by
    rintro c' hc'
    apply beq_false_of_ne
    rintro rfl
    rw [hc'] at hd
    cases hd
  rw [sameCase, hfold, fold_of_ascii (isAscii_of_isNameChar hc), hne c hc,
    hne c.toLower (isNameChar_toLower hc)]
  rfl

def blankCodes : List Nat :=
  [9, 10, 11, 12, 13, 0x20, 0x85, 0xA0, 0x1680, 0x2000, 0x2001, 0x2002, 0x2003, 0x2004, 0x2005, 0x2006,
   0x2007, 0x2008, 0x2009, 0x200A, 0x2028, 0x2029, 0x202F, 0x205F, 0x3000]

theorem toNat_mem_blankCodes (h : isBlank c = true) : c.toNat ∈ blankCodes := by
  simp only [isBlank, Bool.or_eq_true, Bool.and_eq_true, decide_eq_true_eq, beq_iff_eq] at h
  simp only [blankCodes, List.mem_cons, List.not_mem_nil, or_false]
  omega

theorem fold_of_isBlank (h : isBlank c = true) : fold c = c := by
  have hall : ∀ n ∈ blankCodes, fold (Char.ofNat n) = Char.ofNat n := by decide +kernel
  have hc := hall c.toNat (toNat_mem_blankCodes h)
  rwa [Char.ofNat_toNat] at hc

/-- Beyond ASCII a character folds to itself, or by the range it stands in. -/
theorem fold_cases (h : 0x80 ≤ c.toNat) : fold c = c ∨ ∃ range ∈ foldRanges,
    range.1 ≤ c.toNat ∧ c.toNat ≤ range.2.1 ∧ fold c = Char.ofNat (c.toNat - range.1 + range.2.2.2) := by
  unfold fold
  dsimp only
  rw [if_neg (Nat.not_lt.mpr h)]
  split
  next first last step target hfind =>
    have hrange := List.find?_some hfind
    simp only [Bool.and_eq_true, decide_eq_true_eq] at hrange
    exact .inr ⟨_, List.mem_of_find?_eq_some hfind, hrange.1.1, hrange.1.2, rfl⟩
  next => exact .inl rfl

theorem toNat_ofNat (n : Nat) : (Char.ofNat n).toNat = n ∨ Char.ofNat n = '\x00' := by
  by_cases hvalid : n.isValidChar
  · left
    rw [Char.ofNat, dif_pos hvalid]
    rfl
  · right
    rw [Char.ofNat, dif_neg hvalid]
    rfl

/-- Beyond ASCII every character folds to a letter or to itself. -/
theorem le_toNat_fold (h : 0x80 ≤ c.toNat) : 0x6B ≤ (fold c).toNat ∨ fold c = '\x00' := by
  have htargets : ∀ range ∈ foldRanges, 0x6B ≤ range.2.2.2 := by decide +kernel
  rcases fold_cases h with hself | ⟨range, hrange, -, -, hfold⟩
  · rw [hself]
    exact .inl (Nat.le_trans (by decide) h)
  · rw [hfold]
    refine (toNat_ofNat _).imp_left fun hnat => ?_
    rw [hnat]
    exact Nat.le_trans (htargets range hrange) (Nat.le_add_left ..)

/-- Two characters beyond ASCII are case variants of ASCII letters: the long s and the kelvin sign. -/
theorem isAlpha_of_isAlpha_fold (h : (fold c).isAlpha = true) :
    c.isAlpha = true ∨ c = '\u017f' ∨ c = '\u212a' := by
  have htargets : ∀ range ∈ foldRanges, 0x80 ≤ range.2.2.2 ∨
      range.1 = range.2.1 ∧ (range.1 = 0x17F ∨ range.1 = 0x212A) := by decide +kernel
  have hname : isNameChar (fold c) = true := by rw [isNameChar, Char.isAlphanum, h]; rfl
  have hlt := isAscii_of_isNameChar hname
  by_cases hascii : c.toNat < 0x80
  · rw [fold_of_ascii hascii] at h
    exact .inl (forall_ascii (fun c => c.toLower.isAlpha = true → c.isAlpha = true) (by decide +kernel)
      hascii h)
  · rcases fold_cases (Nat.le_of_not_lt hascii) with hself | ⟨range, hrange, hfirst, hlast, hfold⟩
    · exact absurd (hself ▸ hlt) hascii
    · right
      rw [hfold] at h hlt
      rcases htargets range hrange with hlarge | ⟨hone, hcode⟩
      -- A range never folds to anything below its target.
      · rcases toNat_ofNat (c.toNat - range.1 + range.2.2.2) with hnat | hnull
        · omega
        · rw [hnull] at h
          cases h
      · have hnat : c.toNat = range.1 := by omega
        rw [← Char.ofNat_toNat c, hnat]
        rcases hcode with hcode | hcode
        · exact .inl (by rw [hcode])
        · exact .inr (by rw [hcode])

theorem eq_of_sameCase_mark (hd : d = '<' ∨ d = '>') (h : sameCase d c = true) : c = d := by
  have hfold : d = c ∨ fold d = fold c := by simpa only [sameCase, Bool.or_eq_true, beq_iff_eq] using h
  rcases hfold with rfl | hfold
  · rfl
  · have hself : fold d = d ∧ d.toNat < 0x6B ∧ d ≠ '\x00' := by
      rcases hd with rfl | rfl
      · decide
      · decide
    rw [hself.1] at hfold
    by_cases hc : c.toNat < 0x80
    · rw [fold_of_ascii hc] at hfold
      have hlower := forall_ascii
        (fun c => ('<' = c.toLower → c = '<') ∧ ('>' = c.toLower → c = '>')) (by decide +kernel) hc
      rcases hd with rfl | rfl
      · exact hlower.1 hfold
      · exact hlower.2 hfold
    · rcases le_toNat_fold (Nat.le_of_not_lt hc) with hlarge | hnull
      · rw [← hfold] at hlarge
        exact absurd hself.2.1 (Nat.not_lt.mpr hlarge)
      · exact absurd (hfold.trans hnull) hself.2.2

end PageGrader.Text
