import Mathlib.Data.Int.Order.Basic
import Mathlib.Data.List.Lex
import Mathlib.Tactic.Common
import Mathlib.Tactic.Ring

/-!
# Instants of the Gregorian calendar

The days are counted through the months and years of the proleptic Gregorian calendar, and a
broken-down time is turned into the seconds since the beginning of 1970. Each stage, from the
years to the seconds, starts where the stage before it has ended at the latest. So the
seconds are in the order of the members, compared from the year on.
-/

namespace CalendarTime

def IsLeap (year : ℤ) : Prop := 4 ∣ year ∧ (¬ 100 ∣ year ∨ 400 ∣ year)

instance (year : ℤ) : Decidable (IsLeap year) := by
  unfold IsLeap
  infer_instance

/-- The days of a month, counted from 0 for January. -/
def monthDays (year : ℤ) : ℕ → ℤ
  | 1 => if IsLeap year then 29 else 28
  | 3 => 30
  | 5 => 30
  | 8 => 30
  | 10 => 30
  | _ => 31

def daysBeforeMonth (year : ℤ) : ℕ → ℤ
  | 0 => 0
  | month + 1 => daysBeforeMonth year month + monthDays year month

def daysBeforeYear (year : ℤ) : ℤ :=
  365 * (year - 1) + (year - 1) / 4 - (year - 1) / 100 + (year - 1) / 400

structure Tm where
  tm_year : ℤ := 0
  tm_mon : ℤ := 0
  tm_mday : ℤ := 0
  tm_hour : ℤ := 0
  tm_min : ℤ := 0
  tm_sec : ℤ := 0
  deriving DecidableEq, Repr

/-- The days since the beginning of 1970. A month out of range is carried to the year. -/
def Tm.days (t : Tm) : ℤ :=
  let year := 1900 + t.tm_year + t.tm_mon / 12
  daysBeforeYear year + daysBeforeMonth year (t.tm_mon % 12).toNat + (t.tm_mday - 1) -
    daysBeforeYear 1970

/-- `mktime` without a time zone. -/
def mktime (t : Tm) : ℤ := 86400 * t.days + 3600 * t.tm_hour + 60 * t.tm_min + t.tm_sec

structure Tm.Normal (t : Tm) : Prop where
  mon_nonneg : 0 ≤ t.tm_mon
  mon_lt : t.tm_mon < 12
  mday_pos : 1 ≤ t.tm_mday
  mday_le : t.tm_mday ≤ monthDays (1900 + t.tm_year) t.tm_mon.toNat
  hour_nonneg : 0 ≤ t.tm_hour
  hour_lt : t.tm_hour < 24
  min_nonneg : 0 ≤ t.tm_min
  min_lt : t.tm_min < 60
  sec_nonneg : 0 ≤ t.tm_sec
  sec_lt : t.tm_sec < 60

def Tm.members (t : Tm) : List ℤ :=
  [t.tm_year, t.tm_mon, t.tm_mday, t.tm_hour, t.tm_min, t.tm_sec]

/-! ### Stages -/

/-- A position in a stage of a count, where each of its parts `a` starts at `start a` and is
`size a` long. -/
theorem stage_lt_iff {ι : Type*} [LinearOrder ι] {start size : ι → ℤ}
    (hstart : ∀ a b, a < b → start a + size a ≤ start b) {a b : ι} {r s : ℤ} (hr : 0 ≤ r)
    (hra : r < size a) (hs : 0 ≤ s) (hsb : s < size b) :
    start a + r < start b + s ↔ a < b ∨ a = b ∧ r < s := by
  rcases lt_trichotomy a b with hlt | rfl | hgt
  · have hend := hstart a b hlt
    exact iff_of_true (by omega) (.inl hlt)
  · rw [or_iff_right (lt_irrefl a), and_iff_right rfl]
    exact add_lt_add_iff_left (start a)
  · have hend := hstart b a hgt
    refine iff_of_false (by omega) ?_
    rintro (hlt | ⟨heq, _⟩)
    · exact lt_asymm hlt hgt
    · exact hgt.ne' heq

theorem scaled_lt_iff {n a b r s : ℤ} (hr : 0 ≤ r) (hrn : r < n) (hs : 0 ≤ s) (hsn : s < n) :
    n * a + r < n * b + s ↔ a < b ∨ a = b ∧ r < s := by
  have hend : ∀ a b : ℤ, a < b → n * a + n ≤ n * b := by
    intro a b hab
    rw [← mul_add_one]
    exact Int.mul_le_mul_of_nonneg_left hab (hr.trans hrn.le)
  exact stage_lt_iff hend hr hrn hs hsn

theorem stage_eq_iff {ι : Type*} [LinearOrder ι] {start size : ι → ℤ}
    (hstart : ∀ a b, a < b → start a + size a ≤ start b) {a b : ι} {r s : ℤ} (hr : 0 ≤ r)
    (hra : r < size a) (hs : 0 ≤ s) (hsb : s < size b) :
    start a + r = start b + s ↔ a = b ∧ r = s := by
  constructor
  · intro heq
    have hnot : ¬ start a + r < start b + s := heq.not_lt
    have hnot' : ¬ start b + s < start a + r := heq.not_gt
    rw [stage_lt_iff hstart hr hra hs hsb, not_or, not_and] at hnot
    rw [stage_lt_iff hstart hs hsb hr hra, not_or, not_and] at hnot'
    have hab : a = b := le_antisymm (not_lt.mp hnot'.1) (not_lt.mp hnot.1)
    exact ⟨hab, le_antisymm (not_lt.mp (hnot'.2 hab.symm)) (not_lt.mp (hnot.2 hab))⟩
  · rintro ⟨rfl, rfl⟩
    rfl

/-! ### Days -/

theorem monthDays_pos (year : ℤ) (month : ℕ) : 0 < monthDays year month := by
  unfold monthDays
  split <;> first | decide | (split_ifs <;> decide)

theorem daysBeforeMonth_end (year : ℤ) {a b : ℕ} (h : a < b) :
    daysBeforeMonth year a + monthDays year a ≤ daysBeforeMonth year b := by
  induction b with
  | zero => exact absurd h (Nat.not_lt_zero a)
  | succ b ih =>
      rcases Nat.lt_succ_iff_lt_or_eq.mp h with hlt | rfl
      · exact (ih hlt).trans (le_add_of_nonneg_right (monthDays_pos year b).le)
      · exact le_refl _

theorem daysBeforeYear_succ (year : ℤ) :
    daysBeforeYear year + daysBeforeMonth year 12 = daysBeforeYear (year + 1) := by
  have hdays : daysBeforeMonth year 12 = if IsLeap year then 366 else 365 := by
    simp only [daysBeforeMonth, monthDays]
    split_ifs <;> rfl
  rw [hdays]
  unfold daysBeforeYear IsLeap
  split_ifs with hleap
  · omega
  · omega

theorem daysBeforeYear_end {a b : ℤ} (h : a < b) :
    daysBeforeYear a + daysBeforeMonth a 12 ≤ daysBeforeYear b := by
  rw [daysBeforeYear_succ]
  unfold daysBeforeYear
  omega

theorem daysBeforeMonth_nonneg (year : ℤ) (month : ℕ) : 0 ≤ daysBeforeMonth year month := by
  induction month with
  | zero => exact le_refl 0
  | succ month ih => exact add_nonneg ih (monthDays_pos year month).le

namespace Tm

variable {t t' : Tm}

def dayOfYear (t : Tm) : ℤ :=
  daysBeforeMonth (1900 + t.tm_year) t.tm_mon.toNat + (t.tm_mday - 1)

namespace Normal

theorem days_eq (h : t.Normal) :
    t.days = daysBeforeYear (1900 + t.tm_year) + t.dayOfYear - daysBeforeYear 1970 := by
  have hcarry : t.tm_mon / 12 = 0 := Int.ediv_eq_zero_of_lt h.mon_nonneg h.mon_lt
  have hmon : t.tm_mon % 12 = t.tm_mon := Int.emod_eq_of_lt h.mon_nonneg h.mon_lt
  rw [days, dayOfYear, hcarry, hmon, add_zero, add_assoc (daysBeforeYear _)]

theorem mday_lt (h : t.Normal) :
    t.tm_mday - 1 < monthDays (1900 + t.tm_year) t.tm_mon.toNat := by
  have hle := h.mday_le
  omega

theorem dayOfYear_nonneg (h : t.Normal) : 0 ≤ t.dayOfYear := by
  have hpos := h.mday_pos
  have hmonth := daysBeforeMonth_nonneg (1900 + t.tm_year) t.tm_mon.toNat
  unfold dayOfYear
  omega

theorem dayOfYear_lt (h : t.Normal) :
    t.dayOfYear < daysBeforeMonth (1900 + t.tm_year) 12 := by
  have hmon : t.tm_mon.toNat < 12 := by
    have hlt := h.mon_lt
    omega
  have hend := daysBeforeMonth_end (1900 + t.tm_year) hmon
  have hle := h.mday_le
  unfold dayOfYear
  omega

theorem dayOfYear_lt_iff (h : t.Normal) (h' : t'.Normal) (hyear : t.tm_year = t'.tm_year) :
    t.dayOfYear < t'.dayOfYear ↔
      t.tm_mon < t'.tm_mon ∨ t.tm_mon = t'.tm_mon ∧ t.tm_mday < t'.tm_mday := by
  have hlt' := h'.mday_lt
  have hpos := h.mday_pos
  have hpos' := h'.mday_pos
  have hmon := h.mon_nonneg
  have hmon' := h'.mon_nonneg
  rw [← hyear] at hlt'
  rw [dayOfYear, dayOfYear, ← hyear, stage_lt_iff (fun _ _ => daysBeforeMonth_end _) (by omega)
    h.mday_lt (by omega) hlt']
  omega

theorem dayOfYear_eq_iff (h : t.Normal) (h' : t'.Normal) (hyear : t.tm_year = t'.tm_year) :
    t.dayOfYear = t'.dayOfYear ↔ t.tm_mon = t'.tm_mon ∧ t.tm_mday = t'.tm_mday := by
  have hlt' := h'.mday_lt
  have hpos := h.mday_pos
  have hpos' := h'.mday_pos
  have hmon := h.mon_nonneg
  have hmon' := h'.mon_nonneg
  rw [← hyear] at hlt'
  rw [dayOfYear, dayOfYear, ← hyear, stage_eq_iff (fun _ _ => daysBeforeMonth_end _) (by omega)
    h.mday_lt (by omega) hlt']
  omega

theorem days_lt_iff (h : t.Normal) (h' : t'.Normal) :
    t.days < t'.days ↔ t.tm_year < t'.tm_year ∨ t.tm_year = t'.tm_year ∧
      (t.tm_mon < t'.tm_mon ∨ t.tm_mon = t'.tm_mon ∧ t.tm_mday < t'.tm_mday) := by
  rw [h.days_eq, h'.days_eq, sub_lt_sub_iff_right, stage_lt_iff (fun _ _ => daysBeforeYear_end)
    h.dayOfYear_nonneg h.dayOfYear_lt h'.dayOfYear_nonneg h'.dayOfYear_lt,
    add_lt_add_iff_left, add_right_inj]
  exact or_congr_right (and_congr_right fun hyear => h.dayOfYear_lt_iff h' hyear)

theorem days_eq_iff (h : t.Normal) (h' : t'.Normal) :
    t.days = t'.days ↔
      t.tm_year = t'.tm_year ∧ t.tm_mon = t'.tm_mon ∧ t.tm_mday = t'.tm_mday := by
  rw [h.days_eq, h'.days_eq, sub_left_inj, stage_eq_iff (fun _ _ => daysBeforeYear_end)
    h.dayOfYear_nonneg h.dayOfYear_lt h'.dayOfYear_nonneg h'.dayOfYear_lt, add_right_inj]
  exact and_congr_right fun hyear => h.dayOfYear_eq_iff h' hyear

/-! ### Seconds -/

theorem minute_range (h : t.Normal) :
    0 ≤ 60 * t.tm_min + t.tm_sec ∧ 60 * t.tm_min + t.tm_sec < 3600 := by
  obtain ⟨_, _, _, _, _, _, hmin, hminlt, hsec, hseclt⟩ := h
  omega

theorem clock_range (h : t.Normal) :
    0 ≤ 3600 * t.tm_hour + (60 * t.tm_min + t.tm_sec) ∧
      3600 * t.tm_hour + (60 * t.tm_min + t.tm_sec) < 86400 := by
  have hminute := h.minute_range
  have hhour := h.hour_nonneg
  have hhourlt := h.hour_lt
  omega

theorem clock_lt_iff (h : t.Normal) (h' : t'.Normal) :
    3600 * t.tm_hour + (60 * t.tm_min + t.tm_sec) <
        3600 * t'.tm_hour + (60 * t'.tm_min + t'.tm_sec) ↔
      t.tm_hour < t'.tm_hour ∨ t.tm_hour = t'.tm_hour ∧
        (t.tm_min < t'.tm_min ∨ t.tm_min = t'.tm_min ∧ t.tm_sec < t'.tm_sec) := by
  rw [scaled_lt_iff h.minute_range.1 h.minute_range.2 h'.minute_range.1 h'.minute_range.2,
    scaled_lt_iff h.sec_nonneg h.sec_lt h'.sec_nonneg h'.sec_lt]

end Normal

end Tm

theorem mktime_lt_iff {t t' : Tm} (h : t.Normal) (h' : t'.Normal) :
    mktime t < mktime t' ↔ t.members < t'.members := by
  have hclock (t : Tm) : mktime t =
      86400 * t.days + (3600 * t.tm_hour + (60 * t.tm_min + t.tm_sec)) := by
    unfold mktime
    ring
  rw [hclock, hclock, scaled_lt_iff h.clock_range.1 h.clock_range.2 h'.clock_range.1
    h'.clock_range.2, h.days_lt_iff h', h.days_eq_iff h', h.clock_lt_iff h']
  simp only [Tm.members, List.cons_lt_cons_iff, List.not_lt_nil, and_false, or_false]
  tauto

end CalendarTime
