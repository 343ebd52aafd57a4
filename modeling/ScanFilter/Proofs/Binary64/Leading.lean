import ScanFilter.Binary64.Leading
/-!
# Rounding by leading bits is rounding

The leading 64 bits of an integer are more than a double keeps by eleven.  What lies below
them decides nothing but a tie, and a tie has the last of the leading bits clear: with this
bit set wherever something lies below, the quotient by the grid is on the same side of
every half as before.  So an integer is rounded by its leading bits as it is rounded whole,
provided that what lies below them is found, and in an integer of two limbs it is.

* `nearestInteger_setLast` — setting the last bit does what the bits below it do;
* `findsResidue_of_two_limbs` — what lies below the leading bits of two limbs is found;
* `ofLeading_of_two_limbs` — an integer of 128 bits is rounded to the nearest double.
-/

namespace ScanFilter.Binary64

/-- A number with its last bit set. -/
def setLast (k : Nat) : Nat := if k % 2 = 0 then k + 1 else k

/-- Setting the last bit of a multiple of a unit does for a tie what a rest below the unit
does, because a half of the grid is an even multiple. -/
theorem nearestInteger_setLast {k rest unit : Nat} (some : 0 < rest) (below : rest < unit) :
    nearestInteger (k * unit + rest) (unit * 2048)
      = nearestInteger (setLast k * unit) (unit * 2048) := by
  have positive : 0 < unit := Nat.lt_of_le_of_lt (Nat.zero_le _) below
  have last : setLast k / 2048 = k / 2048 ∧
      (k % 2048 < 1024 → setLast k % 2048 < 1024) ∧
      (1024 ≤ k % 2048 → 1024 < setLast k % 2048) := by
    unfold setLast
    split <;> omega
  obtain ⟨same, low, high⟩ := last
  have whole : (k * unit + rest) / unit = k := by
    rw [Nat.mul_comm, Nat.mul_add_div positive, Nat.div_eq_of_lt below, Nat.add_zero]
  have remains : (k * unit + rest) % unit = rest := by
    rw [Nat.mul_comm, Nat.mul_add_mod, Nat.mod_eq_of_lt below]
  unfold nearestInteger
  simp only [Nat.mod_mul, ← Nat.div_div_eq_div_mul, whole, remains, Nat.mul_div_cancel _ positive,
    Nat.mul_mod_left, Nat.zero_add, same]
  by_cases side : k % 2048 < 1024
  · have here : unit * (k % 2048) + unit ≤ unit * 1024 := Nat.mul_le_mul_left unit side
    have there : unit * (setLast k % 2048) + unit ≤ unit * 1024 :=
      Nat.mul_le_mul_left unit (low side)
    rw [if_pos (by omega), if_pos (by omega)]
  · have side : 1024 ≤ k % 2048 := Nat.not_lt.mp side
    have here : unit * 1024 ≤ unit * (k % 2048) := Nat.mul_le_mul_left unit side
    have there : unit * 1024 + unit ≤ unit * (setLast k % 2048) :=
      Nat.mul_le_mul_left unit (high side)
    rw [if_neg (by omega), if_pos (by omega), if_neg (by omega), if_pos (by omega)]

/-- The double of an integer that begins at a given bit is found on the grid eleven places
above the leading 64 bits. -/
theorem nearestMagnitude_of_log2 {n s : Nat} (h : n.log2 = s + 63) :
    nearestMagnitude n 1
      = min ((s + 1085) * 0x10000000000000 + nearestInteger n (Nat.pow 2 s * 2048))
          infinityMagnitude := by
  have nonzero : n ≠ 0 := by
    rintro rfl
    rw [Nat.log2_zero] at h
    omega
  have place : binaryPlace n 1 = s + 63 := by
    have reached : 1 <<< (s + 63) ≤ n := by
      rw [Nat.shiftLeft_eq, Nat.one_mul, ← h]
      exact Nat.log2_self_le nonzero
    have one : Nat.log2 1 = 0 := by decide
    unfold binaryPlace
    rw [h, one]
    exact if_pos reached
  have grid : gridExponent n 1 = s + 11 := by
    unfold gridExponent
    omega
  unfold nearestMagnitude
  rw [if_neg nonzero, grid]
  simp only
  have up : (-((s : Int) + 11)).toNat = 0 := by omega
  have down : ((s : Int) + 11).toNat = s + 11 := by omega
  have rank : ((s : Int) + 11 + 1074).toNat = s + 1085 := by omega
  rw [up, down, rank, Nat.shiftLeft_zero, Nat.shiftLeft_eq, Nat.one_mul, Nat.pow_add]
  rfl

/-- Whether it is told right if something lies below the leading bits. -/
def FindsResidue (n : Nat) : Prop :=
  hasResidue n = decide (n % (1 <<< surplusBits n) ≠ 0)

/-- An integer past 64 bits leads by 64 of them. -/
theorem leading_bounds {n : Nat} (h : 0x10000000000000000 ≤ n) :
    n.log2 = surplusBits n + 63 ∧ 0x8000000000000000 ≤ n / Nat.pow 2 (surplusBits n) ∧
      n / Nat.pow 2 (surplusBits n) < 0x10000000000000000 := by
  have nonzero : n ≠ 0 := by omega
  have long : 64 ≤ n.log2 := (Nat.le_log2 nonzero).mpr h
  have place : n.log2 = surplusBits n + 63 := by
    unfold surplusBits
    omega
  have unit : 0 < Nat.pow 2 (surplusBits n) := Nat.two_pow_pos _
  have low : Nat.pow 2 (surplusBits n + 63) ≤ n := place ▸ Nat.log2_self_le nonzero
  have high : n < Nat.pow 2 (surplusBits n + 64) := by
    have above : n < Nat.pow 2 (n.log2 + 1) := Nat.lt_log2_self
    rwa [place] at above
  refine ⟨place, (Nat.le_div_iff_mul_le unit).mpr ?_, (Nat.div_lt_iff_lt_mul unit).mpr ?_⟩
  · rwa [Nat.pow_eq, Nat.pow_add, Nat.mul_comm] at low
  · rwa [Nat.pow_eq, Nat.pow_add, Nat.mul_comm] at high

/-- A number of 64 bits begins 63 places above its last bit. -/
theorem log2_mul_pow {k : Nat} (low : 0x8000000000000000 ≤ k)
    (high : k < 0x10000000000000000) (s : Nat) : (k * Nat.pow 2 s).log2 = s + 63 := by
  have unit : 0 < Nat.pow 2 s := Nat.two_pow_pos s
  have nonzero : k * Nat.pow 2 s ≠ 0 := Nat.mul_ne_zero (by omega) (by omega)
  refine (Nat.log2_eq_iff nonzero).mpr ⟨?_, ?_⟩
  · rw [Nat.pow_add, Nat.mul_comm]
    exact Nat.mul_le_mul_right _ low
  · rw [Nat.add_assoc, Nat.pow_add, Nat.mul_comm]
    exact Nat.mul_lt_mul_of_pos_left high unit

/-- The leading bits, back in their place: the last one is set if anything lies below. -/
theorem leading_shiftLeft {n unit : Nat} (found : FindsResidue n)
    (same : Nat.pow 2 (surplusBits n) = unit) :
    leading n <<< surplusBits n
      = (if n % unit = 0 then n / unit else setLast (n / unit)) * unit := by
  have up (m : Nat) : m <<< surplusBits n = m * unit := same ▸ Nat.shiftLeft_eq ..
  have down : n >>> surplusBits n = n / unit := same ▸ Nat.shiftRight_eq_div_pow ..
  unfold FindsResidue at found
  unfold leading setLast
  rw [found, up, up, down, Nat.one_mul]
  by_cases none : n % unit = 0
  · simp [none]
  · simp [none]

/-- An integer is rounded by its leading bits as it is rounded whole, if what lies below
them is found. -/
theorem ofLeading_of_findsResidue (negative : Bool) {n : Nat} (found : FindsResidue n) :
    ofLeading negative n = ofRatio negative n 1 := by
  by_cases short : n < 0x10000000000000000
  · exact ofLeading_of_lt negative short
  obtain ⟨place, low, high⟩ := leading_bounds (Nat.not_lt.mp short)
  obtain ⟨unit, same⟩ : ∃ unit, Nat.pow 2 (surplusBits n) = unit := ⟨_, rfl⟩
  have positive : 0 < unit := same ▸ Nat.two_pow_pos _
  have parts : n / unit * unit + n % unit = n := Nat.div_add_mod' ..
  rw [ofLeading, leading_shiftLeft found same]
  rw [same] at low high
  by_cases none : n % unit = 0
  · rw [if_pos none]
    rw [none, Nat.add_zero] at parts
    rw [parts]
  · have last : 0x8000000000000000 ≤ setLast (n / unit) ∧
        setLast (n / unit) < 0x10000000000000000 := by
      unfold setLast
      split <;> omega
    have place' := log2_mul_pow last.1 last.2 (surplusBits n)
    rw [same] at place'
    have steps := nearestInteger_setLast (k := n / unit) (Nat.pos_of_ne_zero none)
      (Nat.mod_lt n positive)
    rw [parts] at steps
    rw [if_neg none, ofRatio, ofRatio, nearestMagnitude_of_log2 place,
      nearestMagnitude_of_log2 place', same, steps]

/-- What lies below the leading bits of an integer of two limbs is found. -/
theorem findsResidue_of_two_limbs {n : Nat} (h : n < 0x100000000000000000000000000000000) :
    FindsResidue n := by
  obtain ⟨rest, same⟩ : ∃ rest, n % (1 <<< surplusBits n) = rest := ⟨_, rfl⟩
  unfold FindsResidue hasResidue
  rw [same]
  by_cases none : rest = 0
  · rw [none, limbs_zero]
    rfl
  · have nonzero : n ≠ 0 := by
      rintro rfl
      exact none (same.symm.trans (Nat.zero_mod _))
    have bits : n.log2 < 128 := (Nat.log2_lt nonzero).mpr h
    have below : rest < 1 <<< surplusBits n := by
      rw [← same]
      refine Nat.mod_lt n ?_
      rw [Nat.one_shiftLeft]
      exact Nat.two_pow_pos _
    -- The rest is a single limb, and it is looked at by as many bits as it may have.
    have some : surplusBits n ≠ 0 := by
      intro least
      rw [least] at below
      omega
    have mask : surplusBits n = n.log2 % 64 + 1 := by
      unfold surplusBits at some ⊢
      omega
    have single : rest < 0x10000000000000000 := by
      refine Nat.lt_of_lt_of_le below ?_
      rw [Nat.one_shiftLeft]
      exact Nat.pow_le_pow_right (by decide) (show surplusBits n ≤ 64 by omega)
    rw [limbs_succ none, Nat.div_eq_of_lt single, limbs_zero, Nat.mod_eq_of_lt single, ← mask]
    simp [Nat.mod_eq_of_lt below, none]

/-- An integer of two limbs is rounded to the nearest double. -/
theorem ofLeading_of_two_limbs (negative : Bool) {n : Nat}
    (h : n < 0x100000000000000000000000000000000) :
    ofLeading negative n = ofRatio negative n 1 :=
  ofLeading_of_findsResidue negative (findsResidue_of_two_limbs h)

-- A third limb hides what makes this integer more than a tie.
example : ofLeading false 0x100000000000008000000000000000400
    ≠ ofRatio false 0x100000000000008000000000000000400 1 := by
  decide +kernel

end ScanFilter.Binary64
