import BluezSil.CalendarTime
import BluezSil.ScanFormat
import BluezSil.SilApi

/-!
# Time stamps of a folder listing

The OBEX daemon writes the times of a file as `yyyymmddThhmmssZ`. They are read into a
broken-down time, whose hour, minute and second are lowered by one as the month is, although
these three are counted from 0 in the text already.
-/

namespace BluezSil.Ftp

open CalendarTime ScanFormat

/-- `"%4d%2d%2dT%2d%2d%2dZ"`. -/
def timeFormat : List (Directive Tm) :=
  [.int 4 fun n t => { t with tm_year := n },
    .int 2 fun n t => { t with tm_mon := n },
    .int 2 fun n t => { t with tm_mday := n },
    .char 'T',
    .int 2 fun n t => { t with tm_hour := n },
    .int 2 fun n t => { t with tm_min := n },
    .int 2 fun n t => { t with tm_sec := n },
    .char 'Z']

/-- `if (n > 0) n -= 1`. -/
def lowered (n : ℤ) : ℤ := if n > 0 then n - 1 else n

def decodeTimeString (str : Text) : ℤ :=
  let t := sscanf timeFormat (str.takeWhile (· ≠ '\x00')) {}
  mktime
    { tm_year := |t.tm_year - 1900|
      tm_mon := lowered t.tm_mon
      tm_mday := t.tm_mday
      tm_hour := lowered t.tm_hour
      tm_min := lowered t.tm_min
      tm_sec := lowered t.tm_sec }

/-! ### Times as they are written -/

/-- A valid calendar time from 1900 on whose year has four digits. -/
structure FtpTime where
  year : ℕ
  month : ℕ
  day : ℕ
  hour : ℕ
  minute : ℕ
  second : ℕ
  year_ge : 1900 ≤ year
  year_lt : year < 10000
  month_pos : 1 ≤ month
  month_le : month ≤ 12
  day_pos : 1 ≤ day
  day_le : (day : ℤ) ≤ monthDays year (month - 1)
  hour_lt : hour < 24
  minute_lt : minute < 60
  second_lt : second < 60

namespace FtpTime

variable (t t' : FtpTime)

/-- `yyyymmddThhmmssZ`. -/
def text : Text :=
  padded 4 t.year ++ (padded 2 t.month ++ (padded 2 t.day ++ 'T' ::
    (padded 2 t.hour ++ (padded 2 t.minute ++ (padded 2 t.second ++ ['Z'])))))

def tm : Tm :=
  ⟨t.year - 1900, t.month - 1, t.day, t.hour, t.minute, t.second⟩

def instant : ℤ := mktime t.tm

/-- The members with 0 and 1 of the hour, the minute and the second not told apart. -/
def coarse : List ℕ :=
  [t.year, t.month, t.day, max 1 t.hour, max 1 t.minute, max 1 t.second]

def decoded : Tm :=
  ⟨t.year - 1900, t.month - 1, t.day, lowered t.hour, lowered t.minute, lowered t.second⟩

variable {t t'}

theorem day_lt (t : FtpTime) : t.day < 100 := by
  have hle := t.day_le
  have hdays : monthDays t.year (t.month - 1) ≤ 31 := by
    unfold monthDays
    split <;> first | decide | (split_ifs <;> decide)
  omega

theorem sscanf_text (t : FtpTime) :
    sscanf timeFormat t.text {} = ⟨t.year, t.month, t.day, t.hour, t.minute, t.second⟩ := by
  have hyear : t.year < 10 ^ 4 := t.year_lt
  have hmonth : t.month < 10 ^ 2 := t.month_le.trans_lt (by decide)
  have hday : t.day < 10 ^ 2 := t.day_lt
  have hhour : t.hour < 10 ^ 2 := t.hour_lt.trans (by decide)
  have hminute : t.minute < 10 ^ 2 := t.minute_lt.trans (by decide)
  have hsecond : t.second < 10 ^ 2 := t.second_lt.trans (by decide)
  unfold timeFormat text
  rw [sscanf_int (by decide) hyear, sscanf_int (by decide) hmonth, sscanf_int (by decide) hday,
    sscanf_char, sscanf_int (by decide) hhour, sscanf_int (by decide) hminute,
    sscanf_int (by decide) hsecond, sscanf_char, sscanf]

theorem takeWhile_text (t : FtpTime) : t.text.takeWhile (· ≠ '\x00') = t.text := by
  have hdigits {width n : ℕ} {c : Char} (h : c ∈ padded width n) : c ≠ '\x00' :=
    (isDigit_text (isDigit_of_mem_padded h)).2.2.2
  apply List.takeWhile_eq_self_iff.mpr
  intro c hc
  rw [decide_eq_true_eq]
  simp only [text, List.mem_append, List.mem_cons, List.not_mem_nil, or_false] at hc
  rcases hc with h | h | h | rfl | h | h | h | rfl
  · exact hdigits h
  · exact hdigits h
  · exact hdigits h
  · decide
  · exact hdigits h
  · exact hdigits h
  · exact hdigits h
  · decide

theorem decodeTimeString_text (t : FtpTime) : decodeTimeString t.text = mktime t.decoded := by
  have hyear : |(t.year : ℤ) - 1900| = t.year - 1900 := by
    apply abs_of_nonneg
    have hge := t.year_ge
    omega
  have hmonth : lowered (t.month : ℤ) = t.month - 1 := by
    apply if_pos
    have hpos := t.month_pos
    omega
  unfold decodeTimeString
  rw [takeWhile_text, sscanf_text]
  dsimp only
  rw [hyear, hmonth]
  rfl

/-! ### What a lowered member does -/

theorem lowered_eq_iff (n : ℕ) : lowered n = n ↔ n = 0 := by
  unfold lowered
  split_ifs <;> omega

theorem lowered_lt_lowered {m n : ℕ} : lowered m < lowered n ↔ max 1 m < max 1 n := by
  unfold lowered
  split_ifs <;> omega

theorem lowered_eq_lowered {m n : ℕ} : lowered m = lowered n ↔ max 1 m = max 1 n := by
  unfold lowered
  split_ifs <;> omega

theorem lowered_le (n : ℕ) : lowered n ≤ n := by
  unfold lowered
  split_ifs <;> omega

theorem lowered_range {n b : ℕ} (h : n < b) : 0 ≤ lowered n ∧ lowered n < b := by
  unfold lowered
  split_ifs <;> omega

theorem tm_mon_toNat (t : FtpTime) : ((t.month : ℤ) - 1).toNat = t.month - 1 := by
  omega

theorem normal_decoded (t : FtpTime) : t.decoded.Normal where
  mon_nonneg := by
    have hpos := t.month_pos
    show (0 : ℤ) ≤ t.month - 1
    omega
  mon_lt := by
    have hle := t.month_le
    show (t.month : ℤ) - 1 < 12
    omega
  mday_pos := by
    have hpos := t.day_pos
    show (1 : ℤ) ≤ t.day
    omega
  mday_le := by
    have hle := t.day_le
    show (t.day : ℤ) ≤ monthDays (1900 + (t.year - 1900)) ((t.month : ℤ) - 1).toNat
    rwa [tm_mon_toNat, add_sub_cancel]
  hour_nonneg := (lowered_range t.hour_lt).1
  hour_lt := (lowered_range t.hour_lt).2
  min_nonneg := (lowered_range t.minute_lt).1
  min_lt := (lowered_range t.minute_lt).2
  sec_nonneg := (lowered_range t.second_lt).1
  sec_lt := (lowered_range t.second_lt).2

theorem mktime_decoded_iff (t : FtpTime) :
    mktime t.decoded = t.instant ↔ t.hour = 0 ∧ t.minute = 0 ∧ t.second = 0 := by
  have hhour := lowered_le t.hour
  have hminute := lowered_le t.minute
  have hsecond := lowered_le t.second
  have hdays : t.decoded.days = t.tm.days := rfl
  rw [← lowered_eq_iff t.hour, ← lowered_eq_iff t.minute, ← lowered_eq_iff t.second]
  unfold instant mktime
  rw [hdays]
  show 86400 * t.tm.days + 3600 * lowered t.hour + 60 * lowered t.minute + lowered t.second =
    86400 * t.tm.days + 3600 * t.hour + 60 * t.minute + t.second ↔ _
  omega

theorem mktime_decoded_lt_iff (t t' : FtpTime) :
    mktime t.decoded < mktime t'.decoded ↔ t.coarse < t'.coarse := by
  rw [mktime_lt_iff t.normal_decoded t'.normal_decoded]
  simp only [Tm.members, decoded, coarse, List.cons_lt_cons_iff, lowered_lt_lowered,
    lowered_eq_lowered, sub_lt_sub_iff_right, sub_left_inj, Nat.cast_lt, Nat.cast_inj,
    List.not_lt_nil]

end FtpTime

/-- A time is decoded to its instant only at midnight. Two times are decoded to instants in
their order, and to different ones, if they are so with 0 and 1 not told apart in the hour, the
minute and the second. -/
theorem decodeTimeString_instant_iff (t t' : FtpTime) :
    (decodeTimeString t.text = t.instant ↔ t.hour = 0 ∧ t.minute = 0 ∧ t.second = 0) ∧
    (decodeTimeString t.text < decodeTimeString t'.text ↔ t.coarse < t'.coarse) ∧
    (decodeTimeString t.text ≠ decodeTimeString t'.text ↔ t.coarse ≠ t'.coarse) := by
  have hlt (u u' : FtpTime) :
      decodeTimeString u.text < decodeTimeString u'.text ↔ u.coarse < u'.coarse := by
    rw [u.decodeTimeString_text, u'.decodeTimeString_text, u.mktime_decoded_lt_iff]
  refine ⟨?_, hlt t t', ?_⟩
  · rw [t.decodeTimeString_text, t.mktime_decoded_iff]
  · rw [ne_iff_lt_or_gt, ne_iff_lt_or_gt, hlt, hlt]

/-- The first second of a day is decoded like its beginning. -/
theorem decodeTimeString_alike : ¬ ∀ t t' : FtpTime, t ≠ t' →
    decodeTimeString t.text = t.instant ∧
      decodeTimeString t.text ≠ decodeTimeString t'.text := by
  intro h
  let t : FtpTime := ⟨2024, 2, 29, 0, 0, 1, by decide, by decide, by decide, by decide, by decide,
    by decide, by decide, by decide, by decide⟩
  let t' : FtpTime := ⟨2024, 2, 29, 0, 0, 0, by decide, by decide, by decide, by decide, by decide,
    by decide, by decide, by decide, by decide⟩
  have heq : t.decoded = t'.decoded := by decide
  apply (h t t' (fun htt => absurd (congrArg FtpTime.second htt) (by decide))).2
  rw [t.decodeTimeString_text, t'.decodeTimeString_text, heq]

end BluezSil.Ftp
