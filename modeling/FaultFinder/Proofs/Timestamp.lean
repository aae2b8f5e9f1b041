import FaultFinder.Proofs.Text.Digits
import FaultFinder.Timestamp.Text

/-!
# Reading timestamps back

Every timestamp is read back from its text, also one in a leap second, with any
fraction of a second, or in a year that needs a sign.  The reader takes one
field after the other, and each field ends where it was written to its end.
-/

namespace FaultFinder

namespace Digit

theorem isBlank_char (digit : Digit) : Text.isBlank digit.char = false := by
  revert digit
  decide

theorem char_ne_sign (digit : Digit) : digit.char ≠ '-' ∧ digit.char ≠ '+' := by
  revert digit
  decide

end Digit

namespace Timestamp

open Text (trimStart readNumber takeDigits expect EndsDigits)

theorem trimStart_cons
    {first : Char}
    (dark : Text.isBlank first = false)
    (rest : List Char) :
    trimStart (first :: rest) = first :: rest := by
  rw [trimStart, List.dropWhile_cons, dark]
  rfl

theorem trimStart_map_append
    {digits : List Digit}
    (nonempty : digits ≠ [])
    (rest : List Char) :
    trimStart (digits.map Digit.char ++ rest) = digits.map Digit.char ++ rest := by
  cases digits with
  | nil => exact absurd rfl nonempty
  | cons first digits => exact trimStart_cons first.isBlank_char _

/-! ## Padded numbers -/

/-- The digits of a number with at least the given count of them. -/
def paddedDigits (width number : Nat) : List Digit :=
  List.replicate (width - (Digit.plain number).length) Digit.zero ++ Digit.plain number

theorem paddedText_eq_map (width number : Nat) :
    paddedText width number = (paddedDigits width number).map Digit.char := by
  rw [paddedText, paddedDigits, List.map_append, List.map_replicate, Digit.length_plain,
    Digit.toDigits_eq_map_plain]
  rfl

theorem paddedDigits_ne_nil (width number : Nat) : paddedDigits width number ≠ [] :=
  List.append_ne_nil_of_right_ne_nil _ (Digit.plain_ne_nil number)

@[simp] theorem value_paddedDigits (width number : Nat) :
    Digit.value (paddedDigits width number) = number := by
  rw [paddedDigits, Digit.value_replicate_append, Digit.value_plain]

theorem length_paddedDigits
    {width number : Nat}
    (positive : 0 < width)
    (small : number < tenPow width) :
    (paddedDigits width number).length = width := by
  have fits : (Digit.plain number).length ≤ width := by
    rw [Digit.length_plain]
    exact (Nat.length_toDigits_le_iff (by decide) positive).2 small
  rw [paddedDigits, List.length_append, List.length_replicate]
  omega

theorem trimStart_paddedText
    (width number : Nat)
    (rest : List Char) :
    trimStart (paddedText width number ++ rest) = paddedText width number ++ rest := by
  rw [paddedText_eq_map]
  exact trimStart_map_append (paddedDigits_ne_nil width number) rest

/-- A number that fills its field is read from the field. -/
theorem readNumber_paddedText
    {width number : Nat}
    (positive : 0 < width)
    (small : number < tenPow width)
    (rest : List Char) :
    readNumber width (trimStart (paddedText width number ++ rest)) = some (number, rest) := by
  have length := length_paddedDigits positive small
  rw [trimStart_paddedText, paddedText_eq_map,
    Text.readNumber_map_append (paddedDigits_ne_nil width number) (Nat.le_of_eq length)
      (Or.inl length),
    value_paddedDigits]

theorem expect_trimStart
    {mark : Char}
    (dark : Text.isBlank mark = false)
    (rest : List Char) :
    expect mark (trimStart (mark :: rest)) = some rest := by
  rw [trimStart_cons dark, expect, if_pos rfl]

/-! ## Years, fractions and clocks -/

theorem readYear_of_no_sign
    {text rest : List Char}
    {year : Nat}
    (noMinus : text.head? ≠ some '-')
    (noPlus : text.head? ≠ some '+')
    (reads : readNumber 4 text = some (year, rest)) :
    readYear text = some ((year : Int), rest) := by
  unfold readYear
  split
  · exact absurd rfl noMinus
  · exact absurd rfl noPlus
  · rw [reads]
    rfl

theorem head?_paddedText
    (width number : Nat)
    (rest : List Char) :
    ∃ first : Digit, (paddedText width number ++ rest).head? = some first.char := by
  obtain ⟨first, digits, equal⟩ := List.exists_cons_of_ne_nil (paddedDigits_ne_nil width number)
  refine ⟨first, ?_⟩
  rw [paddedText_eq_map, equal]
  rfl

/-- The number after a sign takes as many digits as there are. -/
theorem readNumber_paddedText_of_ends
    (width number : Nat)
    {rest : List Char}
    (ends : EndsDigits rest) :
    readNumber (paddedText width number ++ rest).length (paddedText width number ++ rest) =
      some (number, rest) := by
  rw [paddedText_eq_map,
    Text.readNumber_map_append (paddedDigits_ne_nil width number) (by simp) (Or.inr ends),
    value_paddedDigits]

/-- A year is read from its text, with or without a sign. -/
theorem readYear_yearText
    (year : Int)
    (rest : List Char) :
    readYear (trimStart (yearText year ++ '-' :: rest)) = some (year, '-' :: rest) := by
  have ends : EndsDigits ('-' :: rest) := rfl
  unfold yearText
  split
  · next short =>
      have small : year.toNat < tenPow 4 := show year.toNat < 10000 by omega
      obtain ⟨first, leading⟩ := head?_paddedText 4 year.toNat ('-' :: rest)
      have reads := readNumber_paddedText (by decide) small ('-' :: rest)
      rw [trimStart_paddedText] at reads ⊢
      rw [readYear_of_no_sign _ _ reads, Int.toNat_of_nonneg short.1]
      · rw [leading]
        simpa using first.char_ne_sign.1
      · rw [leading]
        simpa using first.char_ne_sign.2
  · next long =>
      have reads := readNumber_paddedText_of_ends 4 year.natAbs ends
      split
      · next negative =>
          have size : -(year.natAbs : Int) = year := by omega
          rw [List.cons_append, trimStart_cons (by decide), readYear, reads]
          simp only [Option.bind_eq_bind, Option.bind_some, Option.pure_def, size]
      · next notNegative =>
          have size : (year.natAbs : Int) = year := by omega
          rw [List.cons_append, trimStart_cons (by decide), readYear, reads]
          simp only [Option.bind_eq_bind, Option.bind_some, Option.pure_def, size]

theorem readFraction_paddedText
    {width number : Nat}
    (positive : 0 < width)
    (short : width ≤ 9)
    (small : number < tenPow width) :
    readFraction ('.' :: paddedText width number ++ ['Z']) =
      some (number * tenPow (9 - width), ['Z']) := by
  have length := length_paddedDigits positive small
  have ends : EndsDigits ['Z'] := rfl
  rw [List.cons_append, readFraction, paddedText_eq_map,
    Text.takeDigits_map_append (by omega) (Or.inr ends)]
  obtain ⟨first, digits, equal⟩ := List.exists_cons_of_ne_nil (paddedDigits_ne_nil width number)
  have value := value_paddedDigits width number
  rw [equal] at length value ⊢
  simp only [value, length]
  rfl

/-- A fraction of a second is read from its text. -/
theorem readFraction_fractionText
    {nanosecond : Nat}
    (small : nanosecond < nanosecondsPerSecond) :
    readFraction (fractionText nanosecond ++ ['Z']) = some (nanosecond, ['Z']) := by
  have bound : nanosecond < 1000000000 := small
  unfold fractionText
  split
  · next zero =>
      rw [zero]
      rfl
  split
  · next milliseconds =>
      have exact : nanosecond / 1000000 * 1000000 = nanosecond := by omega
      have threeDigits : nanosecond / 1000000 < 1000 := by omega
      rw [readFraction_paddedText (by decide) (by decide) threeDigits]
      rw [show tenPow (9 - 3) = 1000000 by decide, exact]
  split
  · next microseconds =>
      have exact : nanosecond / 1000 * 1000 = nanosecond := by omega
      have sixDigits : nanosecond / 1000 < 1000000 := by omega
      rw [readFraction_paddedText (by decide) (by decide) sixDigits]
      rw [show tenPow (9 - 6) = 1000 by decide, exact]
  · rw [readFraction_paddedText (by decide) (by decide) bound]
    rw [show tenPow (9 - 9) = 1 by decide, Nat.mul_one]

section Clock

variable
    (date : Date)
    {hour minute second nanosecond : Nat}
    (hourBound : hour < 24)
    (minuteBound : minute < 60)
    (fractionBound : nanosecond < nanosecondsPerSecond)

include hourBound minuteBound fractionBound

theorem ofClock?_of_lt
    (secondBound : second < 60) :
    ofClock? date hour minute second nanosecond 0 =
      ofParts? date (hour * 3600 + minute * 60 + second) nanosecond := by
  have fields :
      ¬(24 ≤ hour ∨ 60 ≤ minute ∨ 61 ≤ second ∨ nanosecondsPerSecond ≤ nanosecond) := by
    omega
  have noLeap : ¬second = 60 := by omega
  have noShift : ¬((secondsPerDay : Int) ≤ 0 ∨ (0 : Int) ≤ -secondsPerDay) := by decide
  have day : ¬(secondsPerDay : Int) ≤ (hour * 3600 + minute * 60 + second : Nat) := by
    simp only [secondsPerDay]
    omega
  have start : ¬((hour * 3600 + minute * 60 + second : Nat) : Int) < 0 := by omega
  simp only [ofClock?, Int.sub_zero, Int.toNat_natCast, if_neg fields, if_neg noShift,
    if_neg noLeap, if_neg day, if_neg start]

/-- The sixtieth second prolongs the one before it. -/
theorem ofClock?_leap :
    ofClock? date hour minute 60 nanosecond 0 =
      ofParts? date (hour * 3600 + minute * 60 + 59) (nanosecond + nanosecondsPerSecond) := by
  have fields : ¬(24 ≤ hour ∨ 60 ≤ minute ∨ 61 ≤ 60 ∨ nanosecondsPerSecond ≤ nanosecond) := by
    omega
  have noShift : ¬((secondsPerDay : Int) ≤ 0 ∨ (0 : Int) ≤ -secondsPerDay) := by decide
  have day : ¬(secondsPerDay : Int) ≤ (hour * 3600 + minute * 60 + 59 : Nat) := by
    simp only [secondsPerDay]
    omega
  have start : ¬((hour * 3600 + minute * 60 + 59 : Nat) : Int) < 0 := by omega
  simp only [ofClock?, Int.sub_zero, Int.toNat_natCast, if_neg fields, if_neg noShift, if_pos,
    if_neg day, if_neg start]

end Clock

theorem ofParts?_fields (timestamp : Timestamp) :
    ofParts? timestamp.date timestamp.second timestamp.nanosecond = some timestamp := by
  rw [ofParts?, dif_pos timestamp.valid]

/-- A clock without an offset shows the second of the day and its fraction. -/
theorem ofClock?_fields (timestamp : Timestamp) :
    ofClock? timestamp.date (timestamp.second / 3600) (timestamp.second / 60 % 60)
        (timestamp.second % 60 + timestamp.nanosecond / nanosecondsPerSecond)
        (timestamp.nanosecond % nanosecondsPerSecond) 0 =
      some timestamp := by
  obtain ⟨inDay, fraction, leap⟩ := timestamp.valid
  have hour : timestamp.second / 3600 < 24 := by
    simp only [secondsPerDay] at inDay
    omega
  have minute : timestamp.second / 60 % 60 < 60 := by omega
  have remainder : timestamp.nanosecond % nanosecondsPerSecond < nanosecondsPerSecond :=
    Nat.mod_lt _ (by decide)
  rw [← ofParts?_fields timestamp]
  simp only [nanosecondsPerSecond] at fraction leap remainder ⊢
  by_cases late : 1000000000 ≤ timestamp.nanosecond
  · have last := leap late
    have shown : timestamp.second % 60 + timestamp.nanosecond / 1000000000 = 60 := by omega
    rw [shown, ofClock?_leap _ hour minute remainder]
    congr 1
    · omega
    · simp only [nanosecondsPerSecond]
      omega
  · have shown : timestamp.second % 60 + timestamp.nanosecond / 1000000000 < 60 := by omega
    rw [ofClock?_of_lt _ hour minute remainder shown]
    congr 1
    · omega
    · omega

theorem ofFields?_fields (date : Date) :
    Date.ofFields? date.year date.month date.day = some date := by
  rw [Date.ofFields?, dif_pos date.valid]

theorem day_lt (date : Date) : date.day < 100 := by
  obtain ⟨_, _, _, _, _, day⟩ := date.valid
  apply Nat.lt_of_le_of_lt day
  unfold Date.daysInMonth
  split
  · split <;> decide
  · split <;> decide

/-- Every timestamp is read back from its text. -/
theorem read_text (timestamp : Timestamp) : read timestamp.text = some timestamp := by
  obtain ⟨inDay, fraction, leap⟩ := timestamp.valid
  obtain ⟨_, _, _, month, _, _⟩ := timestamp.date.valid
  simp only [secondsPerDay, nanosecondsPerSecond] at inDay fraction leap
  have twoDigits {number : Nat} (small : number < tenPow 2) (rest : List Char) :
      readNumber 2 (trimStart (paddedText 2 number ++ rest)) = some (number, rest) :=
    readNumber_paddedText (by decide) small rest
  have monthRead := twoDigits (show timestamp.date.month < 100 by omega)
  have dayRead := twoDigits (day_lt timestamp.date)
  have hourRead := twoDigits (show timestamp.second / 3600 < 100 by omega)
  have minuteRead := twoDigits (show timestamp.second / 60 % 60 < 100 by omega)
  have secondRead := twoDigits
    (show timestamp.second % 60 + timestamp.nanosecond / nanosecondsPerSecond < 100 by
      simp only [nanosecondsPerSecond]
      omega)
  have remainder : timestamp.nanosecond % nanosecondsPerSecond < nanosecondsPerSecond :=
    Nat.mod_lt _ (by decide)
  have fractionRead := readFraction_fractionText remainder
  have hyphen := expect_trimStart (show Text.isBlank '-' = false by decide)
  have colon := expect_trimStart (show Text.isBlank ':' = false by decide)
  have separator (rest : List Char) : readSeparator ('T' :: rest) = some rest := rfl
  have offset : readOffset (trimStart ['Z']) = some (0, []) := by decide
  simp only [read, text, dateText, List.append_assoc, List.cons_append]
  -- The fields are read one after the other, each up to where the next one begins.
  refine Option.bind_eq_some_iff.2 ⟨_, readYear_yearText _ _, ?_⟩
  refine Option.bind_eq_some_iff.2 ⟨_, hyphen _, ?_⟩
  refine Option.bind_eq_some_iff.2 ⟨_, monthRead _, ?_⟩
  refine Option.bind_eq_some_iff.2 ⟨_, hyphen _, ?_⟩
  refine Option.bind_eq_some_iff.2 ⟨_, dayRead _, ?_⟩
  refine Option.bind_eq_some_iff.2 ⟨_, separator _, ?_⟩
  refine Option.bind_eq_some_iff.2 ⟨_, hourRead _, ?_⟩
  refine Option.bind_eq_some_iff.2 ⟨_, colon _, ?_⟩
  refine Option.bind_eq_some_iff.2 ⟨_, minuteRead _, ?_⟩
  refine Option.bind_eq_some_iff.2 ⟨_, colon _, ?_⟩
  refine Option.bind_eq_some_iff.2 ⟨_, secondRead _, ?_⟩
  refine Option.bind_eq_some_iff.2 ⟨_, fractionRead, ?_⟩
  refine Option.bind_eq_some_iff.2 ⟨_, offset, ?_⟩
  refine Option.bind_eq_some_iff.2 ⟨_, ofFields?_fields _, ?_⟩
  exact ofClock?_fields timestamp

end Timestamp
end FaultFinder
