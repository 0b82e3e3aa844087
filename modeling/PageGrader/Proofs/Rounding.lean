import Mathlib.Algebra.Order.Field.Power
import Mathlib.Data.Int.Log
import Mathlib.Data.Rat.Floor
import Mathlib.Tactic.FieldSimp
import Mathlib.Tactic.Linarith
import Mathlib.Tactic.NormNum
import Mathlib.Tactic.Positivity
import Mathlib.Tactic.Ring
import PageGrader.Decimal.Binary64

namespace PageGrader.Decimal

/-- A whole number that is nearest to `x`; of two it is the even one. -/
structure Nearest (x : Rat) (m : Nat) : Prop where
  low : (m : Rat) - 1 / 2 ≤ x
  high : x ≤ m + 1 / 2
  even : x = m - 1 / 2 ∨ x = m + 1 / 2 → m % 2 = 0

theorem nearest_of_lt {x : Rat} {m : Nat} (hlow : (m : Rat) - 1 / 2 < x) (hhigh : x < m + 1 / 2) :
    Nearest x m where
  low := hlow.le
  high := hhigh.le
  even := by
    rintro (h | h)
    · linarith
    · linarith

theorem nearest_self (m : Nat) : Nearest m m := nearest_of_lt (by linarith) (by linarith)

/-- Two nearest numbers in the wrong order would both be a half away, and neighbours are not both even. -/
theorem Nearest.mono {x y : Rat} {m n : Nat} (hm : Nearest x m) (hn : Nearest y n) (h : x ≤ y) :
    m ≤ n := by
  by_contra hlt
  have hstep : (n : Rat) + 1 ≤ m := by exact_mod_cast Nat.lt_of_not_le hlt
  have hlow := hm.low
  have hhigh := hn.high
  have hx : x = m - 1 / 2 := by linarith
  have hy : y = n + 1 / 2 := by linarith
  have hnext : m = n + 1 := by
    have heq : (m : Rat) = n + 1 := by linarith
    exact_mod_cast heq
  have hmeven := hm.even (.inl hx)
  have hneven := hn.even (.inr hy)
  omega

theorem nearest_roundDiv (num : Nat) {den : Nat} (hden : 0 < den) :
    Nearest ((num : Rat) / den) (roundDiv num den) := by
  have hpos : (0 : Rat) < den := by exact_mod_cast hden
  obtain ⟨q, hq⟩ : ∃ q, num / den = q := ⟨_, rfl⟩
  obtain ⟨r, hr⟩ : ∃ r, num % den = r := ⟨_, rfl⟩
  have hrest : r < den := hr ▸ Nat.mod_lt num hden
  have hnum : (num : Rat) / den = q + r / den := by
    have hdiv : (den : Rat) * q + r = num := by exact_mod_cast hq ▸ hr ▸ Nat.div_add_mod num den
    rw [← hdiv, add_div, mul_div_cancel_left₀ _ hpos.ne']
  have hzero : (0 : Rat) ≤ r / den := by positivity
  have hone : (r : Rat) / den < 1 := by
    rw [div_lt_one hpos]
    exact_mod_cast hrest
  have hnext : ((q + 1 : Nat) : Rat) = q + 1 := Nat.cast_succ q
  rw [hnum]
  unfold roundDiv
  rw [hq, hr]
  dsimp only
  -- The rest is less than half of the divisor, or more, or just half; then the quotient decides.
  split
  next h =>
    have hhalf : (r : Rat) / den < 1 / 2 := by
      rw [div_lt_div_iff₀ hpos two_pos]
      exact_mod_cast (by omega : r * 2 < 1 * den)
    exact nearest_of_lt (by linarith) (by linarith)
  next h =>
    split
    next h' =>
      have hhalf : 1 / 2 < (r : Rat) / den := by
        rw [div_lt_div_iff₀ two_pos hpos]
        exact_mod_cast (by omega : 1 * den < r * 2)
      exact nearest_of_lt (by rw [hnext]; linarith) (by rw [hnext]; linarith)
    next h' =>
      have hhalf : (r : Rat) / den = 1 / 2 := by
        rw [div_eq_div_iff hpos.ne' two_ne_zero]
        exact_mod_cast (by omega : r * 2 = 1 * den)
      split
      next heven =>
        exact ⟨by linarith, by linarith, fun _ => eq_of_beq heven⟩
      next heven =>
        refine ⟨by rw [hnext]; linarith, by rw [hnext]; linarith, fun _ => ?_⟩
        have hodd : q % 2 ≠ 0 := fun h => heven (beq_iff_eq.mpr h)
        omega

/-- The distance of two neighbours on the grid that `q` is rounded to, as a power of two: fifty-three
binary digits, unless that is finer than any grid. -/
def gridOf (q : Rat) : Int := max Binary64.least (Int.log 2 q - 52)

theorem gridOf_mono {q r : Rat} (hq : 0 < q) (h : q ≤ r) : gridOf q ≤ gridOf r := by
  have hlog := Int.log_mono_right (b := 2) hq h
  unfold gridOf
  omega

theorem lt_of_gridOf {q : Rat} : q < 2 ^ (53 : Int) * 2 ^ gridOf q := by
  have hlog := Int.lt_zpow_succ_log_self (b := 2) one_lt_two q
  rw [← zpow_add₀ two_ne_zero]
  refine lt_of_lt_of_le (by exact_mod_cast hlog) ?_
  apply zpow_le_zpow_right₀ one_le_two
  unfold gridOf
  omega

/-- A value that is not rounded to the finest grid has that many. -/
theorem le_of_gridOf {q : Rat} (hq : 0 < q) (h : Binary64.least < gridOf q) :
    2 ^ (52 : Int) * 2 ^ gridOf q ≤ q := by
  have hlog := Int.zpow_log_le_self (b := 2) one_lt_two hq
  rw [← zpow_add₀ two_ne_zero]
  refine le_trans ?_ (by exact_mod_cast hlog)
  apply zpow_le_zpow_right₀ one_le_two
  unfold gridOf at h ⊢
  omega

def Rounded (q v : Rat) : Prop :=
  ∃ m : Nat, Nearest (q / 2 ^ gridOf q) m ∧ v = m * 2 ^ gridOf q

theorem Rounded.nonneg {q v : Rat} (h : Rounded q v) : 0 ≤ v := by
  obtain ⟨m, -, rfl⟩ := h
  positivity

theorem Rounded.mono {q r v w : Rat} (hv : Rounded q v) (hw : Rounded r w) (hq : 0 < q)
    (h : q ≤ r) : v ≤ w := by
  obtain ⟨m, hm, rfl⟩ := hv
  obtain ⟨n, hn, rfl⟩ := hw
  have hgrid := gridOf_mono hq h
  have hpos (e : Int) : (0 : Rat) < 2 ^ e := zpow_pos two_pos e
  rcases hgrid.eq_or_lt with hsame | hcoarser
  · rw [← hsame] at hn ⊢
    have hmn : m ≤ n := hm.mono hn (by gcongr)
    have hcast : (m : Rat) ≤ n := by exact_mod_cast hmn
    exact mul_le_mul_of_nonneg_right hcast (hpos _).le
  -- The power of two where the coarser grid begins is on both grids, so neither value crosses it.
  · have hm' : m ≤ 2 ^ 53 := by
      apply hm.mono (nearest_self (2 ^ 53))
      rw [div_le_iff₀ (hpos _)]
      exact_mod_cast lt_of_gridOf.le
    have hn' : 2 ^ 52 ≤ n := by
      apply (nearest_self (2 ^ 52)).mono hn
      rw [le_div_iff₀ (hpos _)]
      have hleast : Binary64.least < gridOf r := lt_of_le_of_lt (le_max_left _ _) hcoarser
      exact_mod_cast le_of_gridOf (hq.trans_le h) hleast
    calc (m : Rat) * 2 ^ gridOf q ≤ 2 ^ (53 : Int) * 2 ^ gridOf q := by
          gcongr
          exact_mod_cast hm'
      _ = 2 ^ (52 : Int) * 2 ^ (gridOf q + 1) := by
          rw [← zpow_add₀ two_ne_zero, ← zpow_add₀ two_ne_zero]
          congr 1
          omega
      _ ≤ 2 ^ (52 : Int) * 2 ^ gridOf r := by
          gcongr
          · exact one_le_two
          · exact hcoarser
      _ ≤ n * 2 ^ gridOf r := by
          gcongr
          exact_mod_cast hn'

theorem scaled_pos (num : Nat) {den : Nat} (hden : 0 < den) (e : Int) : 0 < (scaled num den e).2 := by
  unfold scaled
  split
  · exact hden
  · exact Nat.mul_pos hden (Nat.pow_pos two_pos)

theorem scaled_eq (num den : Nat) (e : Int) :
    ((scaled num den e).1 : Rat) / (scaled num den e).2 = (num : Rat) / den / 2 ^ e := by
  unfold scaled
  split
  next h =>
    obtain ⟨n, rfl⟩ : ∃ n : Nat, e = -n := ⟨e.natAbs, by omega⟩
    simp only [neg_neg, Int.toNat_natCast, Nat.pow_eq, Nat.cast_mul, Nat.cast_pow, Nat.cast_ofNat,
      zpow_neg, zpow_natCast, div_inv_eq_mul]
    rw [div_mul_eq_mul_div]
  next h =>
    obtain ⟨n, rfl⟩ : ∃ n : Nat, e = n := ⟨e.toNat, by omega⟩
    simp only [Int.toNat_natCast, Nat.pow_eq, Nat.cast_mul, Nat.cast_pow, Nat.cast_ofNat,
      zpow_natCast, div_div]

theorem toRat?_finite (m : Nat) (e : Int) :
    (Binary64.finite false m e).toRat? = some ((m : Rat) * 2 ^ e) := by
  unfold Binary64.toRat?
  dsimp only
  rw [if_neg Bool.false_ne_true]
  congr 1
  split
  next h =>
    obtain ⟨n, rfl⟩ : ∃ n : Nat, e = -n := ⟨e.natAbs, by omega⟩
    rw [Rat.mkRat_eq_div]
    simp [div_eq_mul_inv]
  next h =>
    obtain ⟨n, rfl⟩ : ∃ n : Nat, e = n := ⟨e.toNat, by omega⟩
    simp

theorem log_fraction_bounds {num den : Nat} (hnum : 0 < num) (hden : 0 < den) :
    (num.log2 : Int) - den.log2 - 1 ≤ Int.log 2 ((num : Rat) / den) ∧
      Int.log 2 ((num : Rat) / den) < (num.log2 : Int) - den.log2 + 1 := by
  have hq : (0 : Rat) < (num : Rat) / den := by positivity
  have hnumlow : (2 : Rat) ^ num.log2 ≤ num := by exact_mod_cast Nat.log2_self_le hnum.ne'
  have hnumhigh : (num : Rat) < 2 ^ (num.log2 + 1) := by exact_mod_cast Nat.lt_log2_self
  have hdenlow : (2 : Rat) ^ den.log2 ≤ den := by exact_mod_cast Nat.log2_self_le hden.ne'
  have hdenhigh : (den : Rat) < 2 ^ (den.log2 + 1) := by exact_mod_cast Nat.lt_log2_self
  constructor
  · rw [← Int.zpow_le_iff_le_log one_lt_two hq]
    have hpower : ((2 : Nat) : Rat) ^ ((num.log2 : Int) - den.log2 - 1) =
        2 ^ num.log2 / 2 ^ (den.log2 + 1) := by
      rw [Nat.cast_ofNat, ← zpow_natCast, ← zpow_natCast, ← zpow_sub₀ two_ne_zero]
      congr 1
      omega
    rw [hpower]
    exact div_le_div₀ (Nat.cast_nonneg num) hnumlow (by positivity) hdenhigh.le
  · rw [← Int.lt_zpow_iff_log_lt one_lt_two hq]
    have hpower : ((2 : Nat) : Rat) ^ ((num.log2 : Int) - den.log2 + 1) =
        2 ^ (num.log2 + 1) / 2 ^ den.log2 := by
      rw [Nat.cast_ofNat, ← zpow_natCast, ← zpow_natCast, ← zpow_sub₀ two_ne_zero]
      congr 1
      omega
    rw [hpower]
    exact div_lt_div₀ hnumhigh hdenlow (by positivity) (by positivity)

/-- Counting digits gives the exponent of a fraction or one more, and comparing tells which. -/
theorem exponent_eq {num den : Nat} (hnum : 0 < num) (hden : 0 < den) :
    Binary64.exponent num den = gridOf ((num : Rat) / den) := by
  have hq : (0 : Rat) < (num : Rat) / den := by positivity
  obtain ⟨hlow, hhigh⟩ := log_fraction_bounds hnum hden
  obtain ⟨guess, hguess⟩ : ∃ guess, (num.log2 : Int) - den.log2 - 52 = guess := ⟨_, rfl⟩
  have hpos : (0 : Rat) < (scaled num den guess).2 := by exact_mod_cast scaled_pos num hden guess
  have hless : (scaled num den guess).1 < (scaled num den guess).2 * Binary64.leastFull ↔
      Int.log 2 ((num : Rat) / den) < (num.log2 : Int) - den.log2 := by
    have hpower : (2 : Rat) ^ (52 : Int) * 2 ^ guess = 2 ^ ((num.log2 : Int) - den.log2) := by
      rw [← zpow_add₀ two_ne_zero]
      congr 1
      omega
    have hfull : ((Binary64.leastFull : Nat) : Rat) = 2 ^ (52 : Int) := by norm_cast
    rw [← Int.lt_zpow_iff_log_lt one_lt_two hq, Nat.cast_ofNat, ← hpower,
      ← div_lt_iff₀ (zpow_pos two_pos guess), ← scaled_eq, div_lt_iff₀ hpos, ← hfull, mul_comm]
    norm_cast
  unfold Binary64.exponent gridOf
  rw [hguess]
  simp only [hless]
  congr 1
  split
  · omega
  · omega

theorem toRat?_carried (m : Nat) {e : Int} (he : e < 971) :
    (Binary64.carried false m e).toRat? = some ((m : Rat) * 2 ^ e) := by
  unfold Binary64.carried
  cases hm : m == 2 * Binary64.leastFull with
  | false =>
    rw [if_neg Bool.false_ne_true]
    dsimp only
    rw [if_neg (by omega), toRat?_finite]
  | true =>
    rw [if_pos rfl]
    dsimp only
    rw [if_neg (by omega), toRat?_finite, eq_of_beq hm, zpow_add_one₀ two_ne_zero]
    congr 1
    push_cast
    ring

theorem ofFraction_eq {num den : Nat} (hnum : 0 < num) (hden : 0 < den) :
    Binary64.ofFraction false num den =
      .carried false (roundDiv (scaled num den (gridOf ((num : Rat) / den))).1
        (scaled num den (gridOf ((num : Rat) / den))).2) (gridOf ((num : Rat) / den)) := by
  rw [Binary64.ofFraction, if_neg (by simpa using hnum.ne'), exponent_eq hnum hden]

theorem rounded_ofFraction {num den : Nat} (hnum : 0 < num) (hden : 0 < den)
    (hsmall : (num : Rat) / den < 2 ^ (100 : Int)) :
    ∃ v, (Binary64.ofFraction false num den).toRat? = some v ∧ Rounded ((num : Rat) / den) v := by
  have hq : (0 : Rat) < (num : Rat) / den := by positivity
  have hlog : Int.log 2 ((num : Rat) / den) < 100 := by
    rw [← Int.lt_zpow_iff_log_lt one_lt_two hq, Nat.cast_ofNat]
    exact hsmall
  have hgrid : gridOf ((num : Rat) / den) < 971 := by
    unfold gridOf Binary64.least
    omega
  have hnearest := nearest_roundDiv (scaled num den (gridOf ((num : Rat) / den))).1
    (scaled_pos num hden (gridOf ((num : Rat) / den)))
  rw [scaled_eq] at hnearest
  exact ⟨_, ofFraction_eq hnum hden ▸ toRat?_carried _ hgrid, _, hnearest, rfl⟩

namespace Binary64

theorem rounded_ofRat {q : Rat} (hq : 0 < q) (hsmall : q < 2 ^ (100 : Int)) :
    ∃ v, (ofRat q).toRat? = some v ∧ Rounded q v := by
  have hnum : 0 < q.num := Rat.num_pos.mpr hq
  have hfraction : (q.num.natAbs : Rat) / q.den = q := by
    rw [← Int.cast_natCast, Int.natAbs_of_nonneg hnum.le, Rat.num_div_den]
  have hrounded := rounded_ofFraction (Int.natAbs_pos.mpr hnum.ne') q.den_pos (by rwa [hfraction])
  rw [hfraction] at hrounded
  rwa [ofRat, decide_eq_false hq.not_gt]

def near (q : Rat) : Rat := (ofRat q).toRat?.getD 0

theorem near_zero : near 0 = 0 := by
  decide +kernel

theorem near_one : near 1 = 1 := by
  decide +kernel

variable {q r : Rat}

theorem rounded_near (hq : 0 < q) (hsmall : q < 2 ^ (100 : Int)) : Rounded q (near q) := by
  obtain ⟨v, hv, hrounded⟩ := rounded_ofRat hq hsmall
  rwa [near, hv]

theorem toRat?_ofRat (hq : 0 ≤ q) (hsmall : q < 2 ^ (100 : Int)) :
    (ofRat q).toRat? = some (near q) := by
  rcases hq.eq_or_lt with rfl | hpos
  · rw [near_zero]
    decide +kernel
  · obtain ⟨v, hv, -⟩ := rounded_ofRat hpos hsmall
    rw [near, hv, Option.getD_some]

theorem near_nonneg (hq : 0 ≤ q) (hsmall : q < 2 ^ (100 : Int)) : 0 ≤ near q := by
  rcases hq.eq_or_lt with rfl | hpos
  · exact near_zero.ge
  · exact (rounded_near hpos hsmall).nonneg

theorem near_mono (hq : 0 ≤ q) (h : q ≤ r) (hsmall : r < 2 ^ (100 : Int)) : near q ≤ near r := by
  rcases hq.eq_or_lt with rfl | hpos
  · rw [near_zero]
    exact near_nonneg h hsmall
  · have hrounded := rounded_near hpos (h.trans_lt hsmall)
    exact hrounded.mono (rounded_near (hpos.trans_le h) hsmall) hpos h

theorem reaches_ofRat (hq : 0 ≤ q) (hsmall : q < 2 ^ (100 : Int)) (mark : Rat) :
    (ofRat q).reaches mark = decide (mark ≤ near q) := by
  have hvalue := toRat?_ofRat hq hsmall
  cases hx : ofRat q with
  | finite negative m e =>
    rw [hx] at hvalue
    simp [reaches, hvalue]
  | nan | infinite negative =>
    rw [hx] at hvalue
    cases hvalue

end Binary64

end PageGrader.Decimal
