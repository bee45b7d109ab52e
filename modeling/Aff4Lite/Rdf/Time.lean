import Aff4Lite.Lib.Calendar
import Aff4Lite.Lib.Strings
import Aff4Lite.Stream.Interface

/-!
# `my_timegm` and `getTime`

A broken-down time as the seconds since the Unix epoch, by a closed form. It counts the days
since 1970-01-01 of every date from then on. It does not look at the offset from UTC, so that
`getTime` drops the one of a timestamp.
-/

set_option autoImplicit false

namespace Aff4Lite.Rdf

open Lib Aff4Lite.Stream

/-- `struct tm`, without the two fields that follow from the date. -/
structure Tm where
  tm_sec : BitVec 32
  tm_min : BitVec 32
  tm_hour : BitVec 32
  tm_mday : BitVec 32
  tm_mon : BitVec 32
  tm_year : BitVec 32
  tm_isdst : BitVec 32
  tm_gmtoff : U64
  deriving DecidableEq, Repr

/-- The value of an `int` expression; signed overflow is undefined. -/
def int (value : Int) : Option Int :=
  if -2 ^ 31 ≤ value ∧ value < 2 ^ 31 then some value else none

private theorem int_of_fits {value : Int} (fits : -2 ^ 31 ≤ value ∧ value < 2 ^ 31) :
    int value = some value := if_pos fits

private theorem int_eq_some {value result : Int} (defined : int value = some result) :
    value = result ∧ -2 ^ 31 ≤ result ∧ result < 2 ^ 31 := by
  unfold int at defined
  split at defined
  · rename_i fits
    cases defined
    exact ⟨rfl, fits⟩
  · cases defined

def monthsPerYear : Int := 12

def cumdays : List Int := [0, 31, 59, 90, 120, 151, 181, 212, 243, 273, 304, 334]

/-- `cumdays[index]`, which is undefined outside the array. -/
def cumdaysAt (index : Int) : Option Int := if 0 ≤ index then cumdays[index.toNat]? else none

/-- The days from the epoch to the first day of a month, in `long` arithmetic. -/
def timegmDays (year month passed : Int) : Int :=
  let result := (year - 1970) * 365 + passed
  let result := result + (year - 1968).tdiv 4
  let result := result - (year - 1900).tdiv 100
  let result := result + (year - 1600).tdiv 400
  if year.tmod 4 = 0 ∧ (year.tmod 100 ≠ 0 ∨ year.tmod 400 = 0) ∧ month < 2 then result - 1
  else result

/-- `my_timegm`. The year is an `int` until it is assigned to the `long`, whose sums have room
for any `int`. -/
def myTimegm (t : Tm) : Option Int := do
  let century ← int (1900 + t.tm_year.toInt)
  let year ← int (century + t.tm_mon.toInt.tdiv monthsPerYear)
  let month := t.tm_mon.toInt.tmod monthsPerYear
  let passed ← cumdaysAt month
  let mday ← int (t.tm_mday.toInt - 1)
  let result := timegmDays year month passed + mday
  let result := result * 24 + t.tm_hour.toInt
  let result := result * 60 + t.tm_min.toInt
  let result := result * 60 + t.tm_sec.toInt
  return if t.tm_isdst = 1 then result - 3600 else result

private theorem cumdaysAt_range {index passed : Int} (inside : cumdaysAt index = some passed) :
    0 ≤ passed ∧ passed ≤ 334 := by
  have table : ∀ days ∈ cumdays, 0 ≤ days ∧ days ≤ 334 := by decide
  unfold cumdaysAt at inside
  split at inside
  · exact table passed (List.mem_of_getElem? inside)
  · cases inside

private theorem timegmDays_range {year month passed : Int} (fits : -2 ^ 31 ≤ year ∧ year < 2 ^ 31)
    (table : 0 ≤ passed ∧ passed ≤ 334) :
    -2 ^ 40 ≤ timegmDays year month passed ∧ timegmDays year month passed ≤ 2 ^ 40 := by
  have quarters := Int.natAbs_tdiv_le_natAbs (year - 1968) 4
  have centuries := Int.natAbs_tdiv_le_natAbs (year - 1900) 100
  have cycles := Int.natAbs_tdiv_le_natAbs (year - 1600) 400
  unfold timegmDays
  dsimp only
  generalize (year - 1968).tdiv 4 = leaps at *
  generalize (year - 1900).tdiv 100 = dropped at *
  generalize (year - 1600).tdiv 400 = kept at *
  split <;> omega

private theorem intRange (word : BitVec 32) : -2 ^ 31 ≤ word.toInt ∧ word.toInt < 2 ^ 31 :=
  ⟨BitVec.le_toInt word, BitVec.toInt_lt⟩

theorem myTimegm_range {t : Tm} {result : Int} (defined : myTimegm t = some result) :
    -2 ^ 63 ≤ result ∧ result < 2 ^ 63 := by
  simp only [myTimegm, Option.bind_eq_bind, Option.bind_eq_some_iff, Option.pure_def,
    Option.some.injEq] at defined
  obtain ⟨century, _, year, summed, passed, table, mday, before, rfl⟩ := defined
  have days : -2 ^ 40 ≤ timegmDays year (t.tm_mon.toInt.tmod monthsPerYear) passed ∧
      timegmDays year (t.tm_mon.toInt.tmod monthsPerYear) passed ≤ 2 ^ 40 :=
    timegmDays_range (int_eq_some summed).2 (cumdaysAt_range table)
  have day := (int_eq_some before).2
  have hour := intRange t.tm_hour
  have minute := intRange t.tm_min
  have second := intRange t.tm_sec
  split <;> omega

/-! ## Calendar dates -/

/-- The fields say the date and the time of day, with no daylight saving. -/
structure Tm.Denotes (t : Tm) (time : DateTime) : Prop where
  year : t.tm_year.toInt = time.date.year - 1900
  month : t.tm_mon.toInt = time.date.month
  day : t.tm_mday.toInt = time.date.day
  hour : t.tm_hour.toInt = time.hour
  minute : t.tm_min.toInt = time.minute
  second : t.tm_sec.toInt = time.second
  standard : t.tm_isdst ≠ 1

/-- 1970-01-01 -/
def epoch : Date := .newYear 1970

private theorem epoch_dayNumber : epoch.dayNumber = 719162 := by decide

/-- The table knows no leap years. -/
theorem cumdaysAt_month (year : Int) {month : Nat} (inside : month < 12) :
    cumdaysAt month = some ((Date.daysBeforeMonth year month : Int) -
      if isLeap year ∧ 2 ≤ month then 1 else 0) := by
  by_cases leap : isLeap year <;> interval_cases month <;>
    simp [cumdaysAt, cumdays, Date.daysBeforeMonth, daysInMonth, leap]

/-- What `myTimegm` counts for a date, if its year is an `int`. -/
def timegmDate (date : Date) : Int :=
  timegmDays date.year date.month ((Date.daysBeforeMonth date.year date.month : Int) -
    if isLeap date.year ∧ 2 ≤ date.month then 1 else 0) + (date.day - 1)

private theorem timegmDate_since_epoch {date : Date} (start : 1970 ≤ date.year) :
    timegmDate date = date.dayNumber - epoch.dayNumber := by
  rw [epoch_dayNumber]
  unfold timegmDate timegmDays Date.dayNumber Date.daysBeforeYear
  dsimp only
  rw [Int.tdiv_eq_ediv_of_nonneg (by omega), Int.tdiv_eq_ediv_of_nonneg (by omega),
    Int.tdiv_eq_ediv_of_nonneg (by omega), Int.tmod_eq_emod_of_nonneg (by omega),
    Int.tmod_eq_emod_of_nonneg (by omega), Int.tmod_eq_emod_of_nonneg (by omega)]
  unfold isLeap
  split <;> split <;> omega

theorem Tm.Denotes.myTimegm {t : Tm} {time : DateTime} (denotes : t.Denotes time)
    (fits : -2 ^ 31 ≤ time.date.year ∧ time.date.year < 2 ^ 31) :
    Rdf.myTimegm t = some (86400 * timegmDate time.date + time.secondOfDay : Int) := by
  have monthBound := time.date.month_lt
  have dayBound := time.date.day_le
  have dayShort : daysInMonth time.date.year time.date.month ≤ 31 := by
    unfold daysInMonth
    split
    · split <;> decide
    · split <;> decide
  have noYears : (time.date.month : Int).tdiv monthsPerYear = 0 :=
    Int.tdiv_eq_zero_of_lt (by omega) (by unfold monthsPerYear; omega)
  have sameMonth : (time.date.month : Int).tmod monthsPerYear = time.date.month :=
    Int.tmod_eq_of_lt (by omega) (by unfold monthsPerYear; omega)
  unfold Rdf.myTimegm
  rw [denotes.year, denotes.month, denotes.day, denotes.hour, denotes.minute, denotes.second,
    noYears, sameMonth, int_of_fits (by omega)]
  have sameYear : 1900 + (time.date.year - 1900) + 0 = time.date.year := by omega
  simp only [Option.bind_eq_bind, Option.bind_some, Option.pure_def]
  rw [sameYear, int_of_fits fits, cumdaysAt_month time.date.year monthBound,
    int_of_fits (by omega)]
  simp only [Option.bind_some, if_neg denotes.standard, Option.some.injEq]
  unfold timegmDate DateTime.secondOfDay
  omega

/-- The seconds since the epoch, by days counted one by one. The year is one that the struct can
be filled with: `%Y` takes four digits, and 1900 plus a `tm_year` is an `int`. -/
theorem myTimegm_since_epoch {t : Tm} {time : DateTime} (denotes : t.Denotes time)
    (start : 1970 ≤ time.date.year) (fits : time.date.year < 2 ^ 31) :
    ∃ days, Date.next^[days] epoch = time.date ∧
      myTimegm t = some (86400 * days + time.secondOfDay : Int) := by
  have notBefore : epoch.dayNumber ≤ time.date.dayNumber := by
    have year := time.date.dayNumber_lt_year
    rw [epoch_dayNumber]
    unfold Date.daysBeforeYear at year
    omega
  obtain ⟨days, counted⟩ := Int.le.dest notBefore
  refine ⟨days, Date.iterate_next_eq_iff.mpr counted.symm, ?_⟩
  rw [denotes.myTimegm ⟨by omega, fits⟩, timegmDate_since_epoch start]
  congr 2
  omega

def leapDay : DateTime := ⟨⟨2000, 1, 29, by decide, by decide, by decide⟩, 12, 34, 56, by decide,
  by decide, by decide⟩

theorem myTimegm_since_epoch_leapDay :
    ∃ days, Date.next^[days] epoch = leapDay.date ∧
      myTimegm ⟨56, 34, 12, 29, 1, 100, 0, 0⟩ =
        some (86400 * days + leapDay.secondOfDay : Int) :=
  myTimegm_since_epoch ⟨by decide, by decide, by decide, by decide, by decide, by decide,
    by decide⟩ (by decide) (by decide)

/-! ## Timestamps -/

structure UtcOffset where
  negative : Bool
  hour : Nat
  minute : Nat
  hour_lt : hour < 24
  minute_lt : minute < 60

def UtcOffset.minutes (offset : UtcOffset) : Int :=
  if offset.negative then -(60 * offset.hour + offset.minute) else 60 * offset.hour + offset.minute

/-- An RFC 3339 timestamp; the offset `Z` is `none`. -/
structure Timestamp where
  time : DateTime
  fraction : Bytes
  offset : Option UtcOffset
  year : 0 ≤ time.date.year ∧ time.date.year ≤ 9999
  digits : ∀ byte ∈ fraction, 0x30 ≤ byte ∧ byte ≤ 0x39

namespace Timestamp

def offsetText : Option UtcOffset → Bytes
  | none => text "Z"
  | some offset =>
      (if offset.negative then text "-" else text "+") ++ padded 2 offset.hour ++ text ":" ++
        padded 2 offset.minute

def toBytes (stamp : Timestamp) : Bytes :=
  padded 4 stamp.time.date.year.toNat ++ text "-" ++ padded 2 (stamp.time.date.month + 1) ++
    text "-" ++ padded 2 stamp.time.date.day ++ text "T" ++ padded 2 stamp.time.hour ++
    text ":" ++ padded 2 stamp.time.minute ++ text ":" ++ padded 2 stamp.time.second ++
    (if stamp.fraction = [] then [] else text "." ++ stamp.fraction) ++ offsetText stamp.offset

def minutes (stamp : Timestamp) : Int := (stamp.offset.map UtcOffset.minutes).getD 0

private theorem minutes_range (stamp : Timestamp) :
    -1440 < stamp.minutes ∧ stamp.minutes < 1440 := by
  unfold minutes
  cases stamp.offset with
  | none => decide
  | some offset =>
      have hour := offset.hour_lt
      have minute := offset.minute_lt
      rw [Option.map_some, Option.getD_some, UtcOffset.minutes]
      split <;> omega

/-- The moment of `stamp`, written with the offset `Z`. -/
structure InUtc (stamp utc : Timestamp) : Prop where
  offset : utc.offset = none
  minutes : utc.time.minutes = stamp.time.minutes - stamp.minutes
  second : utc.time.second = stamp.time.second
  fraction : utc.fraction = stamp.fraction

end Timestamp

/-! ## Time points -/

/-- `std::chrono::system_clock::from_time_t`: the nanoseconds are counted in 64 bits, and their
overflow is undefined. -/
def from_time_t (seconds : Int) : Option Int :=
  let nanoseconds := seconds * 1000000000
  if -2 ^ 63 ≤ nanoseconds ∧ nanoseconds < 2 ^ 63 then some nanoseconds else none

/-- The first whole second of the clock, 1677-09-21T00:12:44. -/
def earliest : DateTime := ⟨⟨1677, 8, 21, by decide, by decide, by decide⟩, 0, 12, 44, by decide,
  by decide, by decide⟩

/-- The last whole second of the clock, 2262-04-11T23:47:16. -/
def latest : DateTime := ⟨⟨2262, 3, 11, by decide, by decide, by decide⟩, 23, 47, 16, by decide,
  by decide, by decide⟩

/-- The clock counts the nanoseconds of the time. -/
def OnClock (time : DateTime) : Prop :=
  earliest.seconds ≤ time.seconds ∧ time.seconds ≤ latest.seconds

instance (time : DateTime) : Decidable (OnClock time) := by
  unfold OnClock
  infer_instance

private theorem earliest_seconds :
    earliest.seconds = 86400 * epoch.dayNumber - 9223372036 := by decide

private theorem latest_seconds : latest.seconds = 86400 * epoch.dayNumber + 9223372036 := by decide

private theorem from_time_t_injective {seconds other point : Int}
    (counted : from_time_t seconds = some point) (same : from_time_t other = some point) :
    seconds = other := by
  unfold from_time_t at counted same
  dsimp only at counted same
  split at counted
  · split at same
    · rw [Option.some.injEq] at counted same
      omega
    · cases same
  · cases counted

private theorem tdiv_near (value : Int) {step : Int} (positive : 0 < step) :
    value / step ≤ value.tdiv step ∧ value.tdiv step ≤ value / step + 1 := by
  rw [Int.tdiv_eq_ediv, Int.sign_eq_one_of_pos positive]
  split <;> omega

/-- Before 1970 the truncating divisions count a few days too many or too few. -/
theorem timegmDate_near (date : Date) :
    date.dayNumber - epoch.dayNumber - 4 ≤ timegmDate date ∧
      timegmDate date ≤ date.dayNumber - epoch.dayNumber + 4 := by
  have quarters : (date.year - 1968) / 4 ≤ (date.year - 1968).tdiv 4 ∧
      (date.year - 1968).tdiv 4 ≤ (date.year - 1968) / 4 + 1 := tdiv_near _ (by decide)
  have centuries : (date.year - 1900) / 100 ≤ (date.year - 1900).tdiv 100 ∧
      (date.year - 1900).tdiv 100 ≤ (date.year - 1900) / 100 + 1 := tdiv_near _ (by decide)
  have cycles : (date.year - 1600) / 400 ≤ (date.year - 1600).tdiv 400 ∧
      (date.year - 1600).tdiv 400 ≤ (date.year - 1600) / 400 + 1 := tdiv_near _ (by decide)
  rw [epoch_dayNumber]
  unfold timegmDate timegmDays Date.dayNumber Date.daysBeforeYear
  dsimp only
  generalize (date.year - 1968).tdiv 4 = leaps at *
  generalize (date.year - 1900).tdiv 100 = dropped at *
  generalize (date.year - 1600).tdiv 400 = kept at *
  split <;> split <;> omega

/-- In the year of the first second the errors cancel. -/
theorem timegmDate_1677 {date : Date} (same : date.year = 1677) :
    timegmDate date = date.dayNumber - epoch.dayNumber := by
  rw [epoch_dayNumber]
  unfold timegmDate timegmDays Date.dayNumber Date.daysBeforeYear
  rw [same]
  have divided : ((1677 : Int) - 1968).tdiv 4 = -72 ∧ ((1677 : Int) - 1900).tdiv 100 = -2 ∧
      ((1677 : Int) - 1600).tdiv 400 = 0 := by decide
  have noLeapDay : ¬isLeap 1677 := by decide
  have notFourth : (1677 : Int).tmod 4 ≠ 0 := by decide
  rw [divided.1, divided.2.1, divided.2.2, if_neg fun leap => notFourth leap.1,
    if_neg fun leap => noLeapDay leap.1]
  omega

private theorem from_time_t_isSome_iff (time : DateTime) :
    (from_time_t (86400 * timegmDate time.date + time.secondOfDay)).isSome ↔ OnClock time := by
  have second : time.secondOfDay ≤ 86400 := by
    have hour := time.hour_lt
    have minute := time.minute_lt
    have second := time.second_le
    unfold DateTime.secondOfDay
    omega
  have counted : time.seconds = 86400 * time.date.dayNumber + time.secondOfDay := by
    unfold DateTime.seconds DateTime.minutes DateTime.secondOfDay
    omega
  have near := timegmDate_near time.date
  have year := time.date.dayNumber_lt_year
  have short : daysInYear time.date.year ≤ 366 := by
    unfold daysInYear
    split <;> decide
  unfold Date.daysBeforeYear at year
  rw [OnClock, earliest_seconds, latest_seconds, counted, from_time_t, Option.isSome_ite,
    epoch_dayNumber]
  rw [epoch_dayNumber] at near
  rcases lt_trichotomy time.date.year 1677 with before | same | after
  · omega
  · have exact1677 := timegmDate_1677 same
    rw [epoch_dayNumber] at exact1677
    omega
  · rcases lt_or_ge time.date.year 1970 with early | late
    · omega
    · have exact1970 := timegmDate_since_epoch late
      rw [epoch_dayNumber] at exact1970
      omega

/-- `ss >> std::get_time(&timeinfo, format)`: whether the stream fails, and what the struct
holds then. -/
structure Scan where
  failed : Bool
  timeinfo : Tm

def zeroTm : Tm := ⟨0, 0, 0, 0, 0, 0, 0, 0⟩

def timeFormat : Bytes := text "%Y-%m-%dT%T%z"

def timeFormatModified : Bytes := text "%Y-%m-%dT%T%Ez%z"

section GetTime

variable (get_time : Bytes → Bytes → Tm → Scan)

def scanTime (value : Bytes) : Scan :=
  let scan := get_time timeFormat value zeroTm
  if scan.failed then get_time timeFormatModified value scan.timeinfo else scan

def getTime (value : Bytes) : Option Int :=
  (myTimegm (scanTime get_time value).timeinfo).bind from_time_t

/-- A scan of the timestamp has filled the fields in front of the offset when it comes to the
offset, and the offset too when it accepts the value. Where it knows no `%z` it fails there. -/
structure Fills (stamp : Timestamp) (scan : Scan) : Prop where
  local_time : scan.timeinfo.Denotes stamp.time
  offset : scan.failed = false → scan.timeinfo.tm_gmtoff.toInt = 60 * stamp.minutes

/-- `std::get_time` fills the struct in both scans that `getTime` makes. -/
structure Scans (stamp : Timestamp) : Prop where
  first : Fills stamp (get_time timeFormat stamp.toBytes zeroTm)
  second : Fills stamp (get_time timeFormatModified stamp.toBytes
    (get_time timeFormat stamp.toBytes zeroTm).timeinfo)

variable {get_time}

theorem Scans.scanTime {stamp : Timestamp} (scans : Scans get_time stamp) :
    Fills stamp (Rdf.scanTime get_time stamp.toBytes) := by
  unfold Rdf.scanTime
  dsimp only
  split
  · exact scans.second
  · exact scans.first

theorem Scans.getTime {stamp : Timestamp} (scans : Scans get_time stamp) :
    Rdf.getTime get_time stamp.toBytes =
      from_time_t (86400 * timegmDate stamp.time.date + stamp.time.secondOfDay) := by
  have year := stamp.year
  rw [Rdf.getTime, scans.scanTime.local_time.myTimegm (by omega), Option.bind_some]

end GetTime

/-! ## A scanner of formats -/

def scanNumber (width low high : Nat) (value : Bytes) : Option (Nat × Bytes) :=
  let digits := leadingDigits 10 (value.take width)
  let number := Nat.ofDigits 10 digits.reverse
  if digits ≠ [] ∧ low ≤ number ∧ number ≤ high then some (number, value.drop digits.length)
  else none

/-- `Z`, or a sign and hours and minutes with a colon between them or not. -/
def scanOffset : Bytes → Option (U64 × Bytes)
  | [] => none
  | sign :: value =>
      if sign = 0x5a then some (0, value)
      else if sign = 0x2b ∨ sign = 0x2d then do
        let (hours, value) ← scanNumber 2 0 23 value
        let (minutes, value) ← scanNumber 2 0 59 (value.dropWhile (· = 0x3a))
        let seconds := BitVec.ofNat 64 (3600 * hours + 60 * minutes)
        some (if sign = 0x2d then -seconds else seconds, value)
      else none

/-- A conversion of a number: its digits at most, its range, and the field it is stored in. -/
structure Conversion where
  specifier : UInt8
  width : Nat
  low : Nat
  high : Nat
  store : Tm → Nat → Tm

def conversions : List Conversion := [
  ⟨0x59, 4, 0, 9999, fun tm year => { tm with tm_year := BitVec.ofInt 32 (year - 1900) }⟩,
  ⟨0x6d, 2, 1, 12, fun tm month => { tm with tm_mon := BitVec.ofNat 32 (month - 1) }⟩,
  ⟨0x64, 2, 1, 31, fun tm day => { tm with tm_mday := BitVec.ofNat 32 day }⟩,
  ⟨0x48, 2, 0, 23, fun tm hour => { tm with tm_hour := BitVec.ofNat 32 hour }⟩,
  ⟨0x4d, 2, 0, 59, fun tm minute => { tm with tm_min := BitVec.ofNat 32 minute }⟩,
  ⟨0x53, 2, 0, 60, fun tm second => { tm with tm_sec := BitVec.ofNat 32 second }⟩]

/-- One conversion of a format; `zone` says whether the library knows `%z`. -/
def convert (zone : Bool) (specifier : UInt8) (value : Bytes) (tm : Tm) : Option (Tm × Bytes) :=
  if specifier = 0x7a ∧ zone then
    (scanOffset value).map fun (offset, rest) => ({ tm with tm_gmtoff := offset }, rest)
  else do
    let conversion ← conversions.find? (·.specifier = specifier)
    let (number, rest) ← scanNumber conversion.width conversion.low conversion.high value
    some (conversion.store tm number, rest)

def scanFormat (zone : Bool) : Bytes → Bytes → Tm → Scan
  | [], _, tm => ⟨false, tm⟩
  | [byte], value, tm => ⟨value.head? ≠ some byte, tm⟩
  | byte :: specifier :: format, value, tm =>
      if byte = 0x25 then
        match convert zone specifier value tm with
        | some (tm, rest) => scanFormat zone format rest tm
        | none => ⟨true, tm⟩
      else if value.head? = some byte then
        scanFormat zone (specifier :: format) value.tail tm
      else ⟨true, tm⟩

/-- `%T` is `%H:%M:%S`, and the modifier `E` changes nothing here. -/
def expandFormat : Bytes → Bytes
  | 0x25 :: 0x54 :: format => text "%H:%M:%S" ++ expandFormat format
  | 0x25 :: 0x45 :: format => 0x25 :: expandFormat format
  | byte :: format => byte :: expandFormat format
  | [] => []

/-- `std::get_time` of a library that knows `%z`, or fails there as libstdc++ does. -/
def getTimeOf (zone : Bool) (format value : Bytes) (tm : Tm) : Scan :=
  scanFormat zone (expandFormat format) value tm

/-- 2016-12-31T20:30:00-05:00 -/
def newYorkEvening : Timestamp where
  time := ⟨⟨2016, 11, 31, by decide, by decide, by decide⟩, 20, 30, 0, by decide, by decide,
    by decide⟩
  fraction := []
  offset := some ⟨true, 5, 0, by decide, by decide⟩
  year := by decide
  digits := by simp

/-- 2017-01-01T01:30:00Z -/
def utcMorning : Timestamp where
  time := ⟨.newYear 2017, 1, 30, 0, by decide, by decide, by decide⟩
  fraction := []
  offset := none
  year := by decide
  digits := by simp

private theorem newYorkEvening_inUtc : newYorkEvening.InUtc utcMorning :=
  ⟨rfl, by decide, rfl, rfl⟩

instance (t : Tm) (time : DateTime) : Decidable (t.Denotes time) :=
  decidable_of_iff
    (t.tm_year.toInt = time.date.year - 1900 ∧ t.tm_mon.toInt = time.date.month ∧
      t.tm_mday.toInt = time.date.day ∧ t.tm_hour.toInt = time.hour ∧
      t.tm_min.toInt = time.minute ∧ t.tm_sec.toInt = time.second ∧ t.tm_isdst ≠ 1)
    ⟨fun ⟨year, month, day, hour, minute, second, standard⟩ =>
      ⟨year, month, day, hour, minute, second, standard⟩,
    fun denotes => ⟨denotes.year, denotes.month, denotes.day, denotes.hour, denotes.minute,
      denotes.second, denotes.standard⟩⟩

private theorem newYorkEvening_scans (zone : Bool) : Scans (getTimeOf zone) newYorkEvening := by
  cases zone
  · exact ⟨⟨by decide, by decide⟩, ⟨by decide, by decide⟩⟩
  · exact ⟨⟨by decide, by decide⟩, ⟨by decide, by decide⟩⟩

private theorem utcMorning_scans (zone : Bool) : Scans (getTimeOf zone) utcMorning := by
  cases zone
  · exact ⟨⟨by decide, by decide⟩, ⟨by decide, by decide⟩⟩
  · exact ⟨⟨by decide, by decide⟩, ⟨by decide, by decide⟩⟩

end Aff4Lite.Rdf
