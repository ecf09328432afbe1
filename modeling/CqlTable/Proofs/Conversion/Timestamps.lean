import CqlTable.Conversion.Decode
import CqlTable.Proofs.Conversion.Fields
import CqlTable.Proofs.Text.Numerals

/-!
# Timestamps: cells of milliseconds and calendar fields

Cells are read in universal time and fields are written in a zone.
-/

namespace CqlTable

open Calendar

/-! ## Fields as milliseconds -/

/-- Fields count from the milliseconds of their instant, where they have one. -/
theorem epochMillis_given {members : Fields} {d : DateTime} (zone : Zone) (given : members.Give d)
    (inYear : 1 ≤ d.date.month ∧ d.date.month ≤ 12) :
    ∃ micro : Double, micro.toInt? = some d.microsecond ∧ members.epochMillis zone =
      ((instantOf? zone d.date.year d.date.month d.date.day d.time.hour d.time.minute d.time.second).elim .nan
        fun t => (Double.ofInt t.millis).add (micro.divTruncate 1000)) := by
  obtain ⟨⟨year, yearIs, yearInt⟩, ⟨month, monthIs, monthInt⟩, ⟨day, dayIs, dayInt⟩, ⟨hour, hourIs, hourInt⟩,
    ⟨minute, minuteIs, minuteInt⟩, ⟨second, secondIs, secondInt⟩, ⟨micro, microIs, microInt⟩⟩ := given
  have finite {n : Double} {i : Int} (integer : n.toInt? = some i) : n.isFinite = true :=
    (Double.toInt_eq_some_iff.mp integer).1
  have one : (Double.ofNat 1).toInt? = some 1 := Double.toInt_ofInt (by decide)
  have fromZero : (month.sub (Double.ofNat 1)).toInt? = some (d.date.month - 1) :=
    Double.toInt_sub monthInt one (by unfold Double.greatestExact; omega)
  refine ⟨micro, microInt, ?_⟩
  simp only [Fields.epochMillis, yearIs, monthIs, dayIs, hourIs, minuteIs, secondIs, microIs, Member.amount,
    List.all_cons, List.all_nil, finite yearInt, finite monthInt, finite dayInt, finite hourInt, finite minuteInt,
    finite secondInt, Bool.and_self, ↓reduceIte, Double.truncate_value yearInt, Double.truncate_value dayInt,
    Double.truncate_value hourInt, Double.truncate_value minuteInt, Double.truncate_value secondInt,
    Double.truncate_value fromZero, Int.sub_add_cancel]
  cases instantOf? zone d.date.year d.date.month d.date.day d.time.hour d.time.minute d.time.second with
  | none => rfl
  | some t => rfl

/-- The milliseconds of microseconds are added to those of an instant exactly,
    be the sum past the range of instants. -/
theorem add_microseconds {micro : Double} {i : Int} (t : Instant) (integer : micro.toInt? = some i)
    (inRange : 0 ≤ i ∧ i ≤ 999999) :
    (Double.ofInt t.millis).add (micro.divTruncate 1000) = Double.ofInt (t.millis + i / 1000) := by
  obtain ⟨n, rfl⟩ := Int.eq_ofNat_of_zero_le inRange.1
  have cut : (micro.divTruncate 1000).toInt? = some ((n / 1000 : Nat) : Int) :=
    Double.toInt_divTruncate integer (by omega)
  have bound := t.bounded
  unfold maxMillis at bound
  exact Double.ofInt_add cut (by unfold Double.greatestExact; omega)

theorem toInt_add_microseconds {micro : Double} {i : Int} (t : Instant) (integer : micro.toInt? = some i)
    (inRange : 0 ≤ i ∧ i ≤ 999999) :
    ((Double.ofInt t.millis).add (micro.divTruncate 1000)).toInt? = some (t.millis + i / 1000) := by
  have bound := t.bounded
  unfold maxMillis at bound
  rw [add_microseconds t integer inRange]
  exact Double.toInt_ofInt (by unfold Double.greatestExact; omega)

/-- Fields that have an instant count whole milliseconds, whichever of them are
    left out. -/
theorem epochMillis_cases {members : Fields} {micro : Int} (zone : Zone)
    (given : (members.fieldOrZero "microsecond").within? 0 999999 = some micro) :
    members.epochMillis zone = .nan ∨
      ∃ i : Int, (members.epochMillis zone).toInt? = some i ∧ i.natAbs ≤ Double.greatestExact := by
  obtain ⟨d, isNumber, integer, inRange⟩ := within_eq_some given
  unfold Fields.epochMillis
  rw [isNumber]
  simp only []
  split
  · split
    · rename_i t _
      have bound := t.bounded
      unfold maxMillis at bound
      refine .inr ⟨_, toInt_add_microseconds t integer inRange, ?_⟩
      unfold Double.greatestExact
      omega
    · exact .inl rfl
  · exact .inl rfl

/-! ## Writing -/

/-- Fields within the ranges that are looked at are written as milliseconds
    where they have an instant; others are refused. -/
theorem encodeTimestamp_hold {members : Fields} {d : DateTime} (zone : Zone) (hold : members.Hold d) :
    encodeTimestamp zone (.fields members) =
      if d.Checked then
        (instantOf? zone d.date.year d.date.month d.date.day d.time.hour d.time.minute d.time.second).elim
          (outOfRange .timestamp members.text)
          fun t => .ok (.bare (Text.integer (t.millis + d.microsecond / 1000)))
      else outOfRange .timestamp members.text := by
  obtain ⟨⟨year, yearIs, yearInt⟩, month, day, ⟨hour, hourIs, hourInt⟩, ⟨minute, minuteIs, minuteInt⟩,
    ⟨second, secondIs, secondInt⟩, ⟨micro, microIs, microInt⟩⟩ := id hold
  simp only [encodeTimestamp, has_of_number yearIs, ↓reduceIte, dateOfFields_number yearIs yearInt month day,
    fieldOrZero_number hourIs, fieldOrZero_number minuteIs, fieldOrZero_number secondIs,
    fieldOrZero_number microIs, timeOfMembers_number hourInt minuteInt secondInt, within_number microInt,
    Scalar.shown, DateTime.Checked]
  by_cases date : (1 ≤ d.date.month ∧ d.date.month ≤ 12) ∧ 1 ≤ d.date.day ∧ d.date.day ≤ 31
  · by_cases time : d.time.InRange
    · by_cases microseconds : 0 ≤ d.microsecond ∧ d.microsecond ≤ 999999
      · simp only [date, time, microseconds, and_self, ↓reduceIte]
        obtain ⟨added, addedInt, counted⟩ := epochMillis_given zone (give_of_hold hold) date.1
        rw [counted]
        -- A day that begins past the range has no instant, whatever the time of day.
        cases found : instantOf? zone d.date.year d.date.month d.date.day d.time.hour d.time.minute
            d.time.second with
        | none => rfl
        | some t =>
          have sum := toInt_add_microseconds t addedInt microseconds
          have bound := t.bounded
          unfold maxMillis at bound
          simp only [Option.elim_some]
          split
          · rename_i isNan
            rw [isNan] at sum
            exact absurd sum (by simp [Double.toInt?, Double.isFinite])
          · rw [Double.text_of_toInt sum (by unfold Double.greatestExact; omega)]
      · simp [date, time, microseconds]
    · simp [date, time]
  · simp [date]

/-! ## Reading -/

theorem decode_timestamp_spelled {text : String} {millis : Int} (spelled : Text.SpellsInteger text millis) :
    decode .timestamp text =
      if maxMillis < millis.natAbs then outOfRange .timestamp text
      else .ok (some (.fields (dateTimeOf millis).fields)) := by
  have read := Text.integerValue_spelled spelled
  rw [decode, if_neg (Text.not_null_of_integer read)]
  simp only [decodeScalar, decodeTimestamp, read]
  split
  · rfl
  · rfl

theorem checkedDate_of_isReal {date : Date} (isReal : date.IsReal) :
    (1 ≤ date.month ∧ date.month ≤ 12) ∧ 1 ≤ date.day ∧ date.day ≤ 31 := by
  obtain ⟨first, last, start, inMonth⟩ := isReal
  have longest : monthLength date.year date.month ≤ 31 := by
    unfold monthLength
    omega
  exact ⟨⟨first, last⟩, start, by omega⟩

theorem checked_of_inRange {d : DateTime} (inRange : d.InRange) : d.Checked := by
  obtain ⟨isReal, time, microseconds, -⟩ := inRange
  exact ⟨checkedDate_of_isReal isReal, time, by omega⟩

/-- What is read from a cell of milliseconds is written again, less what the
    zone is ahead, where that has an instant. -/
theorem encode_dateTimeOf {millis : Int} (zone : Zone) (near : millis.natAbs ≤ maxMillis) :
    (dateTimeOf millis).fields.Hold (dateTimeOf millis) ∧
      encode zone .timestamp (.scalar (.fields (dateTimeOf millis).fields)) =
        if (millis - millis % 1000 - zone.ahead).natAbs ≤ maxMillis then
          .ok (.bare (Text.integer (millis - zone.ahead)))
        else outOfRange .timestamp (dateTimeOf millis).fields.text := by
  have inRange := inRange_dateTimeOf millis
  have whole := wholeMillis_dateTimeOf millis
  have counted := millis_dateTimeOf millis
  have day : (dayNumber (dateTimeOf millis).date.year (dateTimeOf millis).date.month
      (dateTimeOf millis).date.day).natAbs ≤ 100000000 := by
    rw [dateTimeOf, (isReal_dateOfDay _).2]
    unfold maxMillis at near
    unfold dayMillis
    omega
  generalize dateTimeOf millis = d at inRange whole counted day
  have checked := checked_of_inRange inRange
  have year := year_of_dayNumber inRange.1 day
  have hold := hold_fields (d := d) (by unfold maxYear at year; unfold Double.greatestExact; omega) checked
  refine ⟨hold, ?_⟩
  rw [encode, encodeScalar, encodeTimestamp_hold zone hold, if_pos checked]
  unfold DateTime.millis at counted
  by_cases late : (millis - millis % 1000 - zone.ahead).natAbs ≤ maxMillis
  · have found : instantOf? zone d.date.year d.date.month d.date.day d.time.hour d.time.minute d.time.second =
        some ⟨_, late⟩ := (instantOf_eq_some_iff checked.1.1).mpr ⟨year, day, by rw [whole]⟩
    have sum : millis - millis % 1000 - zone.ahead + d.microsecond / 1000 = millis - zone.ahead := by omega
    rw [found, if_pos late, Option.elim_some, sum]
  · rw [if_neg late]
    cases found : instantOf? zone d.date.year d.date.month d.date.day d.time.hour d.time.minute d.time.second with
    | none => rfl
    | some t =>
      obtain ⟨_, _, same⟩ := (instantOf_eq_some_iff checked.1.1).mp found
      rw [whole] at same
      exact absurd t.bounded (by rw [same]; exact late)

/-- A cell of milliseconds within the range of instants is read as fields in
    universal time, which are written again as the same milliseconds in
    universal time and earlier by what the local zone is ahead; a cell past the
    range is refused. -/
theorem timestamp_round_trip {text : String} {m : Int} (spelled : Text.SpellsInteger text m) :
    (m.natAbs ≤ 8640000000000000 →
      ∃ d : DateTime, decode .timestamp text = .ok (some (.fields d.fields)) ∧ d.fields.Hold d ∧ d.InRange ∧
        encode .utc .timestamp (.scalar (.fields d.fields)) = .ok (.bare (Text.integer m)) ∧
        (-8640000000000000 ≤ m - 18000000 →
          encode .local .timestamp (.scalar (.fields d.fields)) = .ok (.bare (Text.integer (m - 18000000)))) ∧
        (m - 18000000 < -8640000000000000 →
          encode .local .timestamp (.scalar (.fields d.fields)) = outOfRange .timestamp d.fields.text)) ∧
    (8640000000000000 < m.natAbs → decode .timestamp text = outOfRange .timestamp text) := by
  have read := decode_timestamp_spelled spelled
  constructor
  · intro near
    have inside : ¬ maxMillis < m.natAbs := by
      unfold maxMillis
      omega
    rw [if_neg inside] at read
    obtain ⟨hold, utc⟩ := encode_dateTimeOf .utc (Nat.le_of_not_lt inside)
    obtain ⟨_, ahead⟩ := encode_dateTimeOf .local (Nat.le_of_not_lt inside)
    refine ⟨dateTimeOf m, read, hold, inRange_dateTimeOf m, ?_, ?_, ?_⟩
    · rw [utc, ahead_utc, if_pos (by unfold maxMillis; omega), Int.sub_zero]
    · intro late
      rw [ahead, ahead_local, if_pos (by unfold maxMillis; omega)]
    · intro early
      rw [ahead, ahead_local, if_neg (by unfold maxMillis; omega)]
  · intro far
    rw [read, if_pos (by unfold maxMillis; omega)]

theorem timestamp_round_trip_before_epoch :
    Text.SpellsInteger " -01 " (-1) ∧ (-1 : Int).natAbs ≤ 8640000000000000 ∧
      ∃ d : DateTime, decode .timestamp " -01 " = .ok (some (.fields d.fields)) ∧ d.fields.Hold d ∧ d.InRange ∧
        encode .utc .timestamp (.scalar (.fields d.fields)) = .ok (.bare "-1") ∧
        encode .local .timestamp (.scalar (.fields d.fields)) = .ok (.bare "-18000001") := by
  have blank : Text.isBlank ' ' = true := by decide
  have spelled : Text.SpellsInteger " -01 " (-1) :=
    ⟨[' '], ['-'], [' '], 1, by simp [blank], by simp [blank], Or.inl ⟨rfl, by decide⟩, by decide +kernel⟩
  have near : (-1 : Int).natAbs ≤ 8640000000000000 := by decide
  obtain ⟨d, read, hold, inRange, utc, late, _⟩ := (timestamp_round_trip spelled).1 near
  have text : Text.integer (-1) = "-1" := by decide +kernel
  have earlier : Text.integer (-1 - 18000000) = "-18000001" := by decide +kernel
  rw [text] at utc
  rw [earlier] at late
  exact ⟨spelled, near, d, read, hold, inRange, utc, late (by decide)⟩

/-! ## What is written and read again -/

/-- The microseconds of the last instant: their milliseconds are added after it
    is found to be within the range. -/
def Calendar.DateTime.IsPastLast (d : DateTime) : Prop :=
  d.date = ⟨275760, 9, 13⟩ ∧ d.time = ⟨0, 0, 0⟩ ∧ 1000 ≤ d.microsecond

instance (d : DateTime) : Decidable d.IsPastLast := inferInstanceAs (Decidable (_ ∧ _))

theorem isPastLast_iff {d : DateTime} (isReal : d.date.IsReal) (time : d.time.InRange)
    (microseconds : 0 ≤ d.microsecond ∧ d.microsecond ≤ 999999) (near : d.wholeMillis.natAbs ≤ maxMillis)
    (day : (dayNumber d.date.year d.date.month d.date.day).natAbs ≤ 100000000) :
    maxMillis < d.millis.natAbs ↔ d.IsPastLast := by
  have last : dayNumber d.date.year d.date.month d.date.day = 100000000 ↔ d.date = ⟨275760, 9, 13⟩ := by
    constructor
    · intro number
      rw [← dateOfDay_dayNumber isReal, number]
      decide
    · intro date
      rw [date]
      decide
  obtain ⟨date, ⟨hour, minute, second⟩, microsecond⟩ := d
  simp only [DateTime.IsPastLast, ← last, DateTime.millis, DateTime.wholeMillis, TimeOfDay.InRange, maxMillis,
    dayMillis, millisOfDay, TimeOfDay.mk.injEq] at *
  omega

/-- Fields that universal time accepts lie within the ranges that are looked
    at and are written as their milliseconds. -/
theorem encode_accepted {members : Fields} {d : DateTime} {literal : Literal} (hold : members.Hold d)
    (accepted : encode .utc .timestamp (.scalar (.fields members)) = .ok literal) :
    d.Checked ∧ d.date.year.natAbs ≤ maxYear ∧
      (dayNumber d.date.year d.date.month d.date.day).natAbs ≤ 100000000 ∧
      d.wholeMillis.natAbs ≤ maxMillis ∧ literal = .bare (Text.integer d.millis) := by
  rw [encode, encodeScalar, encodeTimestamp_hold .utc hold] at accepted
  by_cases checked : d.Checked
  · rw [if_pos checked] at accepted
    cases found : instantOf? .utc d.date.year d.date.month d.date.day d.time.hour d.time.minute d.time.second with
    | none =>
      rw [found] at accepted
      cases accepted
    | some t =>
      rw [found] at accepted
      cases accepted
      obtain ⟨year, day, same⟩ := (instantOf_eq_some_iff checked.1.1).mp found
      rw [ahead_utc, Int.sub_zero] at same
      exact ⟨checked, year, day, same ▸ t.bounded, by rw [same, DateTime.millis]⟩
  · rw [if_neg checked] at accepted
    cases accepted

/-- Fields that universal time accepts are read again, with the microseconds
    cut, exactly when their date is real and they are not past the last
    instant. -/
theorem accepted_timestamp_read_iff {members : Fields} {d : DateTime} {literal : Literal} (hold : members.Hold d)
    (accepted : encode .utc .timestamp (.scalar (.fields members)) = .ok literal) :
    decode .timestamp literal.text = .ok (some (.fields d.cutToMillis.fields)) ↔
      d.date.IsReal ∧ ¬ d.IsPastLast := by
  obtain ⟨checked, year, day, near, rfl⟩ := encode_accepted hold accepted
  obtain ⟨date, time, microseconds⟩ := checked
  have read : decode .timestamp (Literal.bare (Text.integer d.millis)).text =
      if maxMillis < d.millis.natAbs then outOfRange .timestamp (Text.integer d.millis)
      else .ok (some (.fields (dateTimeOf d.millis).fields)) :=
    decode_timestamp_spelled (Text.spells_integer d.millis)
  rw [read]
  constructor
  · intro again
    by_cases past : maxMillis < d.millis.natAbs
    · rw [if_pos past] at again
      cases again
    · rw [if_neg past] at again
      have fields : (dateTimeOf d.millis).fields = d.cutToMillis.fields :=
        Scalar.fields.inj (Option.some.inj (Except.ok.inj again))
      have held := (encode_dateTimeOf .utc (Nat.le_of_not_lt past)).1
      have heldCut : d.cutToMillis.fields.Hold d.cutToMillis :=
        hold_fields (by unfold maxYear at year; unfold Double.greatestExact; exact le_trans year (by decide))
          ⟨date, time, by unfold DateTime.cutToMillis; simp only []; omega⟩
      have same : dateTimeOf d.millis = d.cutToMillis := hold_inj held (fields ▸ heldCut)
      rw [dateTimeOf_millis time microseconds] at same
      have isReal := (dateOfDay_dayNumber_iff d.date).mp (congrArg DateTime.date same)
      exact ⟨isReal, fun last => past ((isPastLast_iff isReal time microseconds near day).mpr last)⟩
  · rintro ⟨isReal, inside⟩
    rw [if_neg fun past => inside ((isPastLast_iff isReal time microseconds near day).mp past),
      dateTimeOf_millis time microseconds, dateOfDay_dayNumber isReal]
    rfl

theorem leap_day_read :
    (DateTime.fields ⟨⟨2024, 2, 29⟩, ⟨12, 30, 15⟩, 123456⟩).Hold ⟨⟨2024, 2, 29⟩, ⟨12, 30, 15⟩, 123456⟩ ∧
      encode .utc .timestamp (.scalar (.fields (DateTime.fields ⟨⟨2024, 2, 29⟩, ⟨12, 30, 15⟩, 123456⟩))) =
        .ok (.bare "1709209815123") ∧
      decode .timestamp "1709209815123" =
        .ok (some (.fields (DateTime.fields ⟨⟨2024, 2, 29⟩, ⟨12, 30, 15⟩, 123000⟩))) := by
  have hold := hold_fields (d := ⟨⟨2024, 2, 29⟩, ⟨12, 30, 15⟩, 123456⟩) (by decide) (by decide)
  have accepted : encode .utc .timestamp
      (.scalar (.fields (DateTime.fields ⟨⟨2024, 2, 29⟩, ⟨12, 30, 15⟩, 123456⟩))) = .ok (.bare "1709209815123") := by
    rw [encode, encodeScalar, encodeTimestamp_hold .utc hold]
    decide +kernel
  exact ⟨hold, accepted, (accepted_timestamp_read_iff hold accepted).mpr (by decide +kernel)⟩

/-- The last day of a month of thirty-one days is accepted in a shorter month,
    and milliseconds are accepted past the last instant; neither is read
    again. -/
theorem accepted_timestamp_not_read :
    (encode .utc .timestamp (.scalar (.fields (DateTime.fields ⟨⟨2023, 2, 31⟩, ⟨12, 0, 0⟩, 0⟩))) =
        .ok (.bare "1677844800000") ∧
      decode .timestamp "1677844800000" = .ok (some (.fields (DateTime.fields ⟨⟨2023, 3, 3⟩, ⟨12, 0, 0⟩, 0⟩)))) ∧
    (encode .utc .timestamp (.scalar (.fields (DateTime.fields ⟨⟨275760, 9, 13⟩, ⟨0, 0, 0⟩, 1000⟩))) =
        .ok (.bare "8640000000000001") ∧
      decode .timestamp "8640000000000001" = outOfRange .timestamp "8640000000000001") ∧
    ¬ ∀ (members : Fields) (d : DateTime) (literal : Literal), members.Hold d →
      encode .utc .timestamp (.scalar (.fields members)) = .ok literal →
      decode .timestamp literal.text = .ok (some (.fields d.cutToMillis.fields)) := by
  have short := hold_fields (d := ⟨⟨2023, 2, 31⟩, ⟨12, 0, 0⟩, 0⟩) (by decide) (by decide)
  have last := hold_fields (d := ⟨⟨275760, 9, 13⟩, ⟨0, 0, 0⟩, 1000⟩) (by decide) (by decide)
  have shortWritten : encode .utc .timestamp
      (.scalar (.fields (DateTime.fields ⟨⟨2023, 2, 31⟩, ⟨12, 0, 0⟩, 0⟩))) = .ok (.bare "1677844800000") := by
    rw [encode, encodeScalar, encodeTimestamp_hold .utc short]
    decide +kernel
  have lastWritten : encode .utc .timestamp
      (.scalar (.fields (DateTime.fields ⟨⟨275760, 9, 13⟩, ⟨0, 0, 0⟩, 1000⟩))) = .ok (.bare "8640000000000001") := by
    rw [encode, encodeScalar, encodeTimestamp_hold .utc last]
    decide +kernel
  have refused : decode .timestamp "8640000000000001" = outOfRange .timestamp "8640000000000001" := by
    decide +kernel
  refine ⟨⟨shortWritten, ?_⟩, ⟨lastWritten, refused⟩, ?_⟩
  · decide +kernel
  · intro always
    have read := always _ _ _ last lastWritten
    rw [show (Literal.bare "8640000000000001").text = "8640000000000001" from rfl, refused] at read
    cases read

end CqlTable
