/-!
# Date-times

A date of the proleptic Gregorian calendar with a time of day, in no particular time zone.

* `DateTime` — the seven fields, with a proof that they name a moment. Years run from -262143 to
  262142. A leap second has no number of its own: the nanoseconds of the second before it go on, past
  a thousand million. Any second can be followed by one.
* `DateTime.ofFields?` — the only way in for fields of unknown origin.
* `DateTime.order` — chronological order, which is the order of the fields.
* `DateTime.Regular` — no leap second in the middle of a minute, where its number is another's.
-/

namespace SqlRecords

namespace Calendar

/-- Every fourth year, but of the full centuries only every fourth. -/
def isLeapYear (year : Int) : Bool :=
  year % 4 = 0 && (year % 100 ≠ 0 || year % 400 = 0)

/-- The length of a month. -/
def daysInMonth (year : Int) (month : Nat) : Nat :=
  if month = 2 then (if isLeapYear year then 29 else 28)
  else if month = 4 ∨ month = 6 ∨ month = 9 ∨ month = 11 then 30
  else 31

/-- The fields name a day. -/
def ValidDate (year : Int) (month day : Nat) : Prop :=
  -262143 ≤ year ∧ year ≤ 262142 ∧ 1 ≤ month ∧ month ≤ 12 ∧ 1 ≤ day ∧ day ≤ daysInMonth year month

/-- The fields name a moment of a day, or of a leap second. -/
def ValidTime (hour minute second nano : Nat) : Prop :=
  hour < 24 ∧ minute < 60 ∧ second < 60 ∧ nano < 2000000000

instance (year : Int) (month day : Nat) : Decidable (ValidDate year month day) := by
  unfold ValidDate; infer_instance

instance (hour minute second nano : Nat) : Decidable (ValidTime hour minute second nano) := by
  unfold ValidTime; infer_instance

end Calendar

/-- A date with a time of day. -/
structure DateTime where
  year : Int
  month : Nat
  day : Nat
  hour : Nat
  minute : Nat
  second : Nat
  nano : Nat
  valid_date : Calendar.ValidDate year month day
  valid_time : Calendar.ValidTime hour minute second nano
deriving DecidableEq, Repr

namespace DateTime

/-- The date-time with the given fields, if they name a moment. -/
def ofFields? (year : Int) (month day hour minute second nano : Nat) : Option DateTime :=
  if h : Calendar.ValidDate year month day ∧ Calendar.ValidTime hour minute second nano then
    some ⟨year, month, day, hour, minute, second, nano, h.1, h.2⟩
  else none

theorem ofFields?_fields (t : DateTime) :
    ofFields? t.year t.month t.day t.hour t.minute t.second t.nano = some t := by
  rw [ofFields?, dif_pos ⟨t.valid_date, t.valid_time⟩]

/-- The first moment of 1970. -/
def epoch : DateTime :=
  ⟨1970, 1, 1, 0, 0, 0, 0, by decide, by decide⟩

/-- Chronological order. -/
def order (a b : DateTime) : Ordering :=
  (compare a.year b.year).then <|
  (compare a.month b.month).then <|
  (compare a.day b.day).then <|
  (compare a.hour b.hour).then <|
  (compare a.minute b.minute).then <|
  (compare a.second b.second).then <|
  compare a.nano b.nano

/-- The second as it is written: a leap second has the next number, which is 60 after the last second
of a minute. -/
def shownSecond (t : DateTime) : Nat :=
  t.second + t.nano / 1000000000

/-- The nanoseconds after the second as it is written. -/
def shownNano (t : DateTime) : Nat :=
  t.nano % 1000000000

/-- The date-time with a second as it is written: the second 60 is a leap second, in any minute. -/
def ofShown? (year : Int) (month day hour minute second nano : Nat) : Option DateTime :=
  if second = 60 then ofFields? year month day hour minute 59 (nano + 1000000000)
  else ofFields? year month day hour minute second nano

/-- Only the last second of a minute is followed by a leap second. -/
def Regular (t : DateTime) : Prop := 1000000000 ≤ t.nano → t.second = 59

instance (t : DateTime) : Decidable t.Regular :=
  inferInstanceAs (Decidable (1000000000 ≤ t.nano → t.second = 59))

/-- What is written determines the date-time, if it is regular. -/
theorem ofShown?_shown {t : DateTime} (hregular : t.Regular) :
    ofShown? t.year t.month t.day t.hour t.minute t.shownSecond t.shownNano = some t := by
  obtain ⟨_, _, hs, hn⟩ := t.valid_time
  by_cases h : 1000000000 ≤ t.nano
  · have h59 := hregular h
    have hsec : t.shownSecond = 60 := by unfold shownSecond; omega
    have hnano : t.shownNano + 1000000000 = t.nano := by unfold shownNano; omega
    rw [ofShown?, if_pos hsec, hnano, ← h59, ofFields?_fields]
  · have hsec : t.shownSecond = t.second := by unfold shownSecond; omega
    have hnano : t.shownNano = t.nano := by unfold shownNano; omega
    rw [ofShown?, if_neg (by omega), hsec, hnano, ofFields?_fields]

end DateTime

end SqlRecords
