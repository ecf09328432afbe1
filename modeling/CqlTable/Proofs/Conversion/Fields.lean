import CqlTable.Conversion.Encode
import CqlTable.Proofs.Calendar.Instants
import CqlTable.Proofs.Number.Integers

/-!
# Fields: calendar fields that are integers

Fields are looked at by name, so they hold a date and time in any order and
among others.
-/

namespace CqlTable

open Calendar

/-! ## Fields that hold a date and time -/

/-- The field of a name is the integer. -/
def Fields.HasInteger (members : Fields) (name : String) (i : Int) : Prop :=
  ∃ n, members.field name = .number n ∧ n.toInt? = some i

/-- The field of a name is the integer, which is zero where the field is absent
    or null. -/
def Fields.StandsFor (members : Fields) (name : String) (i : Int) : Prop :=
  ∃ n, members.fieldOrZero name = .number n ∧ n.toInt? = some i

/-- The fields are the integers of a date and time. -/
def Fields.Hold (members : Fields) (d : DateTime) : Prop :=
  members.HasInteger "year" d.date.year ∧ members.HasInteger "month" d.date.month ∧
    members.HasInteger "day" d.date.day ∧ members.HasInteger "hour" d.time.hour ∧
    members.HasInteger "minute" d.time.minute ∧ members.HasInteger "second" d.time.second ∧
    members.HasInteger "microsecond" d.microsecond

/-- The fields stand for a date and time: parts of the time of day that are zero
    may be left out. -/
def Fields.Give (members : Fields) (d : DateTime) : Prop :=
  members.HasInteger "year" d.date.year ∧ members.HasInteger "month" d.date.month ∧
    members.HasInteger "day" d.date.day ∧ members.StandsFor "hour" d.time.hour ∧
    members.StandsFor "minute" d.time.minute ∧ members.StandsFor "second" d.time.second ∧
    members.StandsFor "microsecond" d.microsecond

/-- The ranges of fields that are looked at: days go to 31 in each month. -/
def Calendar.DateTime.Checked (d : DateTime) : Prop :=
  ((1 ≤ d.date.month ∧ d.date.month ≤ 12) ∧ 1 ≤ d.date.day ∧ d.date.day ≤ 31) ∧ d.time.InRange ∧
    (0 ≤ d.microsecond ∧ d.microsecond ≤ 999999)

instance (d : DateTime) : Decidable d.Checked := inferInstanceAs (Decidable (_ ∧ _))

theorem hasInteger_inj {members : Fields} {name : String} {i j : Int} (first : members.HasInteger name i)
    (second : members.HasInteger name j) : i = j := by
  obtain ⟨n, isN, integer⟩ := first
  obtain ⟨m, isM, other⟩ := second
  rw [isN] at isM
  cases isM
  exact Option.some.inj (integer.symm.trans other)

/-- Fields hold at most one date and time. -/
theorem hold_inj {members : Fields} {a b : DateTime} (holdA : members.Hold a) (holdB : members.Hold b) : a = b := by
  obtain ⟨⟨year, month, day⟩, ⟨hour, minute, second⟩, microsecond⟩ := a
  obtain ⟨⟨year', month', day'⟩, ⟨hour', minute', second'⟩, microsecond'⟩ := b
  obtain ⟨yearA, monthA, dayA, hourA, minuteA, secondA, microsecondA⟩ := holdA
  obtain ⟨yearB, monthB, dayB, hourB, minuteB, secondB, microsecondB⟩ := holdB
  cases hasInteger_inj yearA yearB
  cases hasInteger_inj monthA monthB
  cases hasInteger_inj dayA dayB
  cases hasInteger_inj hourA hourB
  cases hasInteger_inj minuteA minuteB
  cases hasInteger_inj secondA secondB
  cases hasInteger_inj microsecondA microsecondB
  rfl

theorem within_number {n : Double} {i : Int} (integer : n.toInt? = some i) (least greatest : Int) :
    (Member.number n).within? least greatest = if least ≤ i ∧ i ≤ greatest then some i else none := by
  simp [Member.within?, Double.isWithin, integer]

theorem within_eq_some {member : Member} {least greatest i : Int} (inside : member.within? least greatest = some i) :
    ∃ d, member = .number d ∧ d.toInt? = some i ∧ least ≤ i ∧ i ≤ greatest := by
  cases member with
  | number d =>
    unfold Member.within? Double.isWithin at inside
    cases integer : d.toInt? with
    | none => simp [integer] at inside
    | some j =>
      simp only [integer] at inside
      split at inside
      · rename_i within
        cases inside
        exact ⟨d, rfl, integer, by simpa using within⟩
      · cases inside
  | _ => cases inside

theorem has_of_number {members : Fields} {name : String} {n : Double} (found : members.field name = .number n) :
    members.has name = true := by
  unfold Fields.field at found
  unfold Fields.has
  cases look : Named.get? name members with
  | none => simp [look] at found
  | some member => rfl

theorem fieldOrZero_number {members : Fields} {name : String} {n : Double}
    (found : members.field name = .number n) : members.fieldOrZero name = .number n := by
  rw [Fields.fieldOrZero, found]

theorem standsFor_of_hasInteger {members : Fields} {name : String} {i : Int} (given : members.HasInteger name i) :
    members.StandsFor name i := by
  obtain ⟨n, isNumber, integer⟩ := given
  exact ⟨n, fieldOrZero_number isNumber, integer⟩

/-- A field that is left out stands for zero. -/
theorem standsFor_of_missing {members : Fields} {name : String} (absent : members.field name = .missing) :
    members.StandsFor name 0 := by
  refine ⟨.signedZero false, ?_, ?_⟩
  · rw [Fields.fieldOrZero, absent]
  · exact Double.toInt_eq_some_iff.mpr ⟨rfl, by simp [Double.value, Double.signedZero, Number.scaled]⟩

theorem give_of_hold {members : Fields} {d : DateTime} (hold : members.Hold d) : members.Give d := by
  obtain ⟨year, month, day, hour, minute, second, microsecond⟩ := hold
  exact ⟨year, month, day, standsFor_of_hasInteger hour, standsFor_of_hasInteger minute,
    standsFor_of_hasInteger second, standsFor_of_hasInteger microsecond⟩

theorem dateOfFields_number {members : Fields} {year : Double} {y month day : Int}
    (yearIs : members.field "year" = .number year) (yearInt : year.toInt? = some y)
    (monthIs : members.HasInteger "month" month) (dayIs : members.HasInteger "day" day) :
    dateOfFields? members =
      if (1 ≤ month ∧ month ≤ 12) ∧ 1 ≤ day ∧ day ≤ 31 then some (year, month, day) else none := by
  obtain ⟨m, monthIs, monthInt⟩ := monthIs
  obtain ⟨d, dayIs, dayInt⟩ := dayIs
  simp only [dateOfFields?, yearIs, monthIs, dayIs, within_number monthInt, within_number dayInt]
  by_cases months : 1 ≤ month ∧ month ≤ 12
  · by_cases days : 1 ≤ day ∧ day ≤ 31
    · simp [months, days, Double.isInteger, yearInt]
    · simp [months, days]
  · simp [months]

theorem timeOfMembers_number {hour minute second : Double} {time : TimeOfDay}
    (hourInt : hour.toInt? = some time.hour) (minuteInt : minute.toInt? = some time.minute)
    (secondInt : second.toInt? = some time.second) :
    timeOfMembers? (.number hour) (.number minute) (.number second) =
      if time.InRange then some time else none := by
  simp only [timeOfMembers?, within_number hourInt, within_number minuteInt, within_number secondInt,
    TimeOfDay.InRange]
  by_cases hours : 0 ≤ time.hour ∧ time.hour ≤ 23
  · by_cases minutes : 0 ≤ time.minute ∧ time.minute ≤ 59
    · by_cases seconds : 0 ≤ time.second ∧ time.second ≤ 59
      · simp [hours, minutes, seconds]
      · simp [hours, minutes, seconds]
    · simp [hours, minutes]
  · simp [hours]

theorem dateLiteral_number {members : Fields} {year : Double} {y month day : Int}
    (yearIs : members.field "year" = .number year) (yearInt : year.toInt? = some y)
    (monthIs : members.HasInteger "month" month) (dayIs : members.HasInteger "day" day)
    (inRange : (1 ≤ month ∧ month ≤ 12) ∧ 1 ≤ day ∧ day ≤ 31) (shown : String) :
    dateLiteral members shown = .ok (.quoted (dateText (paddedNumber 4 year) month day)) := by
  rw [dateLiteral, dateOfFields_number yearIs yearInt monthIs dayIs, if_pos inRange]

theorem timeLiteral_number {members : Fields} {time : TimeOfDay} (hourIs : members.HasInteger "hour" time.hour)
    (minuteIs : members.HasInteger "minute" time.minute) (secondIs : members.HasInteger "second" time.second)
    (inRange : time.InRange) (shown : String) : timeLiteral members shown = .ok (.quoted (timeText time)) := by
  obtain ⟨h, hourIs, hourInt⟩ := hourIs
  obtain ⟨m, minuteIs, minuteInt⟩ := minuteIs
  obtain ⟨s, secondIs, secondInt⟩ := secondIs
  rw [timeLiteral, hourIs, minuteIs, secondIs, timeOfMembers_number hourInt minuteInt secondInt, if_pos inRange]

/-- The fields of a date and time hold it. -/
theorem hold_fields {d : DateTime} (year : d.date.year.natAbs ≤ Double.greatestExact) (checked : d.Checked) :
    d.fields.Hold d := by
  have small {i : Int} (inRange : 0 ≤ i ∧ i ≤ 999999) : (Double.ofInt i).toInt? = some i :=
    Double.toInt_ofInt (by unfold Double.greatestExact; omega)
  obtain ⟨⟨months, days⟩, ⟨hours, minutes, seconds⟩, microseconds⟩ := checked
  refine ⟨⟨_, rfl, Double.toInt_ofInt year⟩, ⟨_, rfl, small ?_⟩, ⟨_, rfl, small ?_⟩, ⟨_, rfl, small ?_⟩,
    ⟨_, rfl, small ?_⟩, ⟨_, rfl, small ?_⟩, ⟨_, rfl, small microseconds⟩⟩
  all_goals omega

end CqlTable
