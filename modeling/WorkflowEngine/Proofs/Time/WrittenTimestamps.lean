/-
This file proves that a timestamp is read back from its text. Every part of the text is read in turn
and leaves the rest alone, and whatever has been read can be written and read again.
-/

import WorkflowEngine.Proofs.Time.DayNumbers
import WorkflowEngine.Time.TimestampText

namespace WorkflowEngine.Time.Timestamp

open Text

/-- These digits are a number as it is written, perhaps with zeros in front. -/
structure Written (digits : List Char) (value : Nat) : Prop where
  isDigit : ∀ c ∈ digits, Timestamp.isDigit c = true
  value : digitsValue digits = value

theorem isDigit_iff (c : Char) : isDigit c = true ↔ 48 ≤ c.toNat ∧ c.toNat ≤ 57 := by
  simp only [isDigit, Bool.and_eq_true, decide_eq_true_eq]
  exact Iff.rfl

/-- A digit is no blank. -/
theorem isBlank_digit {c : Char} (digit : isDigit c = true) : isBlank c = false := by
  rw [isDigit_iff] at digit
  unfold isBlank
  simp only [Bool.or_eq_false_iff, Bool.and_eq_false_iff, decide_eq_false_iff_not, beq_eq_false_iff_ne]
  omega

theorem digitsValue_append (first : List Char) (last : Char) :
    digitsValue (first ++ [last]) = digitsValue first * 10 + (last.toNat - 48) := by
  unfold digitsValue
  rw [List.foldl_append]
  rfl

/-- A fixed number of digits is the number below its bound. -/
theorem written_digits (count value : Nat) :
    Written (Duration.digits count value) (value % 10 ^ count) := by
  induction count generalizing value with
  | zero =>
    constructor
    · intro c member
      cases member
    · rw [Nat.pow_zero, Nat.mod_one]
      rfl
  | succ count inductionHypothesis =>
    obtain ⟨digits, read⟩ := inductionHypothesis (value / 10)
    have shown : ∀ digit < 10, (Char.ofNat (48 + digit)).toNat = 48 + digit := by decide
    have last := shown (value % 10) (Nat.mod_lt value (by decide))
    constructor
    · intro c member
      rcases List.mem_append.mp member with earlier | final
      · exact digits c earlier
      · rw [List.mem_singleton.mp final, isDigit_iff, last]
        omega
    · rw [Duration.digits, digitsValue_append, read, last, Nat.pow_succ', Nat.mod_mul]
      omega

theorem length_digits (count value : Nat) : (Duration.digits count value).length = count := by
  induction count generalizing value with
  | zero => rfl
  | succ count inductionHypothesis =>
    rw [Duration.digits, List.length_append, inductionHypothesis]
    rfl

/-- The decimal text of a number is that number, also with zeros in front. -/
theorem written_padded (zeros value : Nat) :
    Written (List.replicate zeros '0' ++ (toString value).toList) value := by
  have decimal : (toString value).toList = Nat.toDigits 10 value := by
    rw [Nat.toString_eq_ofList_toDigits, String.toList_ofList]
  have counted (digits : List Char) : digitsValue digits = Nat.ofDigitChars 10 digits 0 := by
    unfold digitsValue
    rw [Nat.ofDigitChars_eq_foldl]
    simp only [Nat.mul_comm]
    rfl
  rw [decimal]
  constructor
  · intro c member
    rcases List.mem_append.mp member with zero | digit
    · rw [List.eq_of_mem_replicate zero]
      rfl
    · have shown := Nat.isDigit_of_mem_toDigits (by decide) (by decide) digit
      simp only [Char.isDigit, Bool.and_eq_true, decide_eq_true_eq] at shown
      exact (isDigit_iff c).mpr shown
  · rw [counted, Nat.ofDigitChars_append, Nat.ofDigitChars_replicate_zero, Nat.mul_zero,
      Nat.ofDigitChars_ten_toDigits]

/-- Digits are read up to what is no digit, if they are not too many. -/
theorem digits?_written {digits rest : List Char} {value most : Nat} (written : Written digits value)
    (some : digits ≠ []) (few : digits.length ≤ most) (ends : rest.takeWhile isDigit = []) :
    digits? most (digits ++ rest) = .some (digits, rest) := by
  have found : ((digits ++ rest).takeWhile isDigit).take most = digits := by
    rw [List.takeWhile_append_of_pos written.isDigit, ends, List.append_nil,
      List.take_of_length_le few]
  unfold digits?
  simp only [found]
  rw [if_neg (by simpa using some), List.drop_left]

/-- In front of digits there are no blanks to be dropped. -/
theorem dropBlanks_written {digits rest : List Char} {value : Nat} (written : Written digits value)
    (some : digits ≠ []) : (digits ++ rest).dropWhile isBlank = digits ++ rest := by
  cases digits with
  | nil => contradiction
  | cons first others =>
    rw [List.cons_append, List.dropWhile_cons_of_neg]
    rw [isBlank_digit (written.isDigit first List.mem_cons_self)]
    decide

/-- A number of two digits is read up to what is no digit. -/
theorem pair?_digits {value : Nat} {rest : List Char} (small : value < 100)
    (ends : rest.takeWhile isDigit = []) :
    pair? (Duration.digits 2 value ++ rest) = some (value, rest) := by
  have written := written_digits 2 value
  rw [Nat.mod_eq_of_lt (by omega)] at written
  have some : Duration.digits 2 value ≠ [] :=
    List.ne_nil_of_length_pos (by rw [length_digits]; decide)
  unfold pair?
  rw [dropBlanks_written written some,
    digits?_written written some (Nat.le_of_eq (length_digits 2 value)) ends, Option.map_some,
    written.value]

/-- A year without a sign begins with a digit. -/
theorem year?_unsigned {digits rest : List Char} {value : Nat} (written : Written digits value)
    (some : digits ≠ []) : year? (digits ++ rest) =
      (digits? 4 (digits ++ rest)).map fun result => ((digitsValue result.1 : Int), result.2) := by
  unfold year?
  rw [dropBlanks_written written some]
  split
  · next rest shape =>
    cases digits with
    | nil => contradiction
    | cons first others =>
      obtain ⟨rfl, -⟩ := List.cons.inj shape
      exact absurd (written.isDigit '-' List.mem_cons_self) (by decide)
  · next rest shape =>
    cases digits with
    | nil => contradiction
    | cons first others =>
      obtain ⟨rfl, -⟩ := List.cons.inj shape
      exact absurd (written.isDigit '+' List.mem_cons_self) (by decide)
  · rfl

theorem year?_negative (text : List Char) :
    year? ('-' :: text) =
      (digits? text.length text).map fun result => (-(digitsValue result.1 : Int), result.2) := by
  unfold year?
  rw [List.dropWhile_cons_of_neg (by decide)]
  rfl

theorem year?_positive (text : List Char) :
    year? ('+' :: text) =
      (digits? text.length text).map fun result => ((digitsValue result.1 : Int), result.2) := by
  unfold year?
  rw [List.dropWhile_cons_of_neg (by decide)]
  rfl

/-- A year is read up to the hyphen behind it. -/
theorem year?_yearText (year : Int) (rest : List Char) :
    year? (yearText year ++ '-' :: rest) = some (year, '-' :: rest) := by
  have ends : ('-' :: rest).takeWhile isDigit = [] := rfl
  have counted (count : Nat) : (toString year.natAbs).toList.length ≤ count + 1 ↔
      year.natAbs < 10 ^ (count + 1) := by
    rw [Nat.toString_eq_ofList_toDigits, String.toList_ofList]
    exact Nat.length_toDigits_le_iff (by decide) count.succ_pos
  have positive : 0 < (toString year.natAbs).toList.length := by
    rw [Nat.toString_eq_ofList_toDigits, String.toList_ofList]
    exact Nat.length_toDigits_pos
  obtain ⟨digits, padding⟩ : ∃ digits,
      List.replicate (4 - (toString year.natAbs).toList.length) '0' ++
        (toString year.natAbs).toList = digits := ⟨_, rfl⟩
  have written : Written digits year.natAbs := padding ▸ written_padded _ _
  have length : digits.length = 4 - (toString year.natAbs).toList.length +
      (toString year.natAbs).toList.length := by
    rw [← padding, List.length_append, List.length_replicate]
  have padded : digits ≠ [] := List.ne_nil_of_length_pos (by omega)
  have text : yearText year =
      if year < 0 then '-' :: digits else if 9999 < year then '+' :: digits else digits := by
    rw [← padding]
    rfl
  rw [text]
  split
  · next negative =>
    rw [List.cons_append, year?_negative, digits?_written written padded (by simp) ends,
      Option.map_some, written.value, Int.ofNat_natAbs_of_nonpos (Int.le_of_lt negative), Int.neg_neg]
  · next positive =>
    have absolute : (year.natAbs : Int) = year := Int.natAbs_of_nonneg (Int.not_lt.mp positive)
    split
    · rw [List.cons_append, year?_positive, digits?_written written padded (by simp) ends,
        Option.map_some, written.value, absolute]
    · next small =>
      have few : digits.length ≤ 4 := by
        have := (counted 3).mpr (by omega)
        omega
      rw [year?_unsigned written padded, digits?_written written padded few ends, Option.map_some,
        written.value, absolute]

/-- A fraction is read up to the name of universal time. -/
theorem fraction?_fractionText {nanoseconds : Nat} (small : nanoseconds < billion) :
    fraction? (fractionText nanoseconds ++ ['Z']) = some (nanoseconds, ['Z']) := by
  have ends : ['Z'].takeWhile isDigit = [] := rfl
  have read {count value : Nat} (positive : 0 < count) (few : count ≤ 9)
      (fits : value < 10 ^ count) :
      fraction? ('.' :: Duration.digits count value ++ ['Z']) =
        some (value * 10 ^ (9 - count), ['Z']) := by
    have written := written_digits count value
    rw [Nat.mod_eq_of_lt fits] at written
    have length := length_digits count value
    have some : Duration.digits count value ≠ [] := List.ne_nil_of_length_pos (by omega)
    change ((digits? 9 (Duration.digits count value ++ ['Z'])).map _) = _
    rw [digits?_written written some (by omega) ends, Option.map_some, written.value, length]
    rfl
  unfold billion at small
  unfold fractionText
  split
  · next zero =>
    rw [zero]
    rfl
  · split
    · next milliseconds =>
      rw [read (by decide) (by decide) (by omega)]
      have whole : nanoseconds / 1000000 * 10 ^ (9 - 3) = nanoseconds := by omega
      rw [whole]
    · split
      · next microseconds =>
        rw [read (by decide) (by decide) (by omega)]
        have whole : nanoseconds / 1000 * 10 ^ (9 - 6) = nanoseconds := by omega
        rw [whole]
      · rw [read (by decide) (by decide) (by omega)]
        rw [Nat.sub_self, Nat.pow_zero, Nat.mul_one]

/-- The year is not too far away, and a leap second ends a minute. -/
structure Representable (time : Timestamp) : Prop where
  year : Date.leastYear ≤ (Date.ofDays (time.seconds / 86400)).year ∧
    (Date.ofDays (time.seconds / 86400)).year ≤ Date.greatestYear
  fraction : time.fraction < billion ∨ time.fraction < 2 * billion ∧ time.seconds % 60 = 59

theorem mark?_cons {mark : Char} (rest : List Char) (visible : isBlank mark = false) :
    mark? mark (mark :: rest) = some rest := by
  unfold mark?
  rw [List.dropWhile_cons_of_neg (by rw [visible]; decide)]
  exact if_pos rfl

/-- A number of two digits is read behind its mark. -/
theorem markedPair {mark : Char} {value : Nat} {rest : List Char} (visible : isBlank mark = false)
    (small : value < 100) (ends : rest.takeWhile isDigit = []) :
    (mark? mark (mark :: (Duration.digits 2 value ++ rest))).bind pair? = some (value, rest) := by
  rw [mark?_cons _ visible, Option.bind_some, pair?_digits small ends]

/-- Behind the seconds there is no further digit. -/
theorem fractionText_ends (nanoseconds : Nat) :
    (fractionText nanoseconds ++ ['Z']).takeWhile isDigit = [] := by
  unfold fractionText
  split
  · rfl
  · split
    · rfl
    · split
      · rfl
      · rfl

/-- A text is read as the time of its parts. -/
theorem parse?_parts {date : Date} {hour minute second nanoseconds : Nat} (valid : date.isValid = true)
    (hours : hour < 24) (minutes : minute < 60) (seconds : second ≤ 60)
    (small : nanoseconds < billion) :
    let total := date.toDays * 86400 + hour * 3600 + minute * 60 +
      ((if second = 60 then 59 else second : Nat) : Int) - 0
    parse? (yearText date.year ++ '-' :: (Duration.digits 2 date.month ++
      '-' :: (Duration.digits 2 date.day ++ 'T' :: (Duration.digits 2 hour ++
      ':' :: (Duration.digits 2 minute ++ ':' :: (Duration.digits 2 second ++
      (fractionText nanoseconds ++ ['Z']))))))) =
    if (Date.ofDays (total / 86400)).year < Date.leastYear ∨
        Date.greatestYear < (Date.ofDays (total / 86400)).year then none
    else some ⟨total, if second = 60 then billion + nanoseconds else nanoseconds⟩ := by
  have ends (mark : Char) (rest : List Char) (other : isDigit mark = false) :
      (mark :: rest).takeWhile isDigit = [] :=
    List.takeWhile_cons_of_neg (by rw [other]; decide)
  have separator (rest : List Char) : separator? ('T' :: rest) = some rest := rfl
  have offset : offset? (['Z'].dropWhile isBlank) = some (0, []) := rfl
  have months : date.month < 100 ∧ date.day < 100 := by
    have length := Date.monthLength_le date.year date.month
    simp only [Date.isValid, Bool.and_eq_true, decide_eq_true_eq] at valid
    omega
  unfold parse?
  rw [year?_yearText]
  dsimp only [Option.bind_eq_bind, Option.bind_some]
  rw [markedPair rfl months.1 (ends _ _ rfl)]
  dsimp only [Option.bind_some]
  rw [markedPair rfl months.2 (ends _ _ rfl)]
  dsimp only [Option.bind_some]
  rw [separator, Option.bind_some, pair?_digits (by omega) (ends _ _ rfl)]
  dsimp only [Option.bind_some]
  rw [markedPair rfl (by omega) (ends _ _ rfl)]
  dsimp only [Option.bind_some]
  rw [markedPair rfl (by omega) (fractionText_ends nanoseconds)]
  dsimp only [Option.bind_some]
  rw [fraction?_fractionText small]
  dsimp only [Option.bind_some]
  rw [offset]
  dsimp only [Option.bind_some]
  rw [if_neg (by decide), if_neg (by rw [valid]; decide), if_neg (by omega)]

/-- The text of a timestamp is read as that timestamp. -/
theorem ofText?_text {time : Timestamp} (representable : time.Representable) :
    ofText? time.text = some time := by
  obtain ⟨⟨least, greatest⟩, fraction⟩ := representable
  obtain ⟨months, firstDay, lastDay⟩ := Date.ofDays_exists (time.seconds / 86400)
  have valid : (Date.ofDays (time.seconds / 86400)).isValid = true := by
    simp only [Date.isValid, Bool.and_eq_true, decide_eq_true_eq]
    exact ⟨⟨⟨⟨⟨least, greatest⟩, months.1⟩, months.2⟩, firstDay⟩, lastDay⟩
  have days := Date.toDays_ofDays (time.seconds / 86400)
  obtain ⟨second, ofDay, inDay⟩ : ∃ second : Nat, time.secondOfDay = second ∧ second < 86400 := by
    unfold secondOfDay
    exact ⟨(time.seconds % 86400).toNat, by omega, by omega⟩
  unfold secondOfDay at ofDay
  obtain ⟨leap, leaps⟩ : ∃ leap, (if billion ≤ time.fraction then 1 else 0) = leap := ⟨_, rfl⟩
  have ofMinute : second % 60 + leap ≤ 60 ∧
      (if second % 60 + leap = 60 then 59 else second % 60 + leap) = second % 60 ∧
      (if second % 60 + leap = 60 then billion + time.fraction % billion
        else time.fraction % billion) = time.fraction := by
    rw [← leaps]
    unfold billion at fraction ⊢
    split
    · next late =>
      have last : second % 60 = 59 := by omega
      rw [last]
      refine ⟨by decide, rfl, ?_⟩
      rw [if_pos rfl]
      omega
    · have early : ¬second % 60 + 0 = 60 := by omega
      rw [if_neg early, if_neg early]
      omega
  obtain ⟨seconds, sameSecond, sameFraction⟩ := ofMinute
  have text : time.text.toList = time.characters := String.toList_ofList
  unfold ofText?
  rw [text]
  unfold characters secondOfDay
  simp only [List.append_assoc, List.cons_append]
  rw [ofDay, leaps, Int.toNat_natCast, parse?_parts valid (by omega) (by omega) seconds
    (Nat.mod_lt _ (by decide)), sameSecond, sameFraction, days]
  have total : time.seconds / 86400 * 86400 + ((second / 3600 : Nat) : Int) * 3600 +
      ((second / 60 % 60 : Nat) : Int) * 60 + ((second % 60 : Nat) : Int) - 0 = time.seconds := by
    omega
  rw [total, if_neg (by omega)]

/-- Digits are worth less than one more digit. -/
theorem foldl_digits_lt {digits : List Char} (all : ∀ c ∈ digits, isDigit c = true) (start : Nat) :
    digits.foldl (fun total c => total * 10 + (c.toNat - 48)) start <
      (start + 1) * 10 ^ digits.length := by
  induction digits generalizing start with
  | nil => simp
  | cons first rest inductionHypothesis =>
    have digit := (isDigit_iff first).mp (all first List.mem_cons_self)
    have later := inductionHypothesis (fun c member => all c (List.mem_cons_of_mem first member))
      (start * 10 + (first.toNat - 48))
    have most : (start * 10 + (first.toNat - 48) + 1) * 10 ^ rest.length ≤
        (start + 1) * 10 * 10 ^ rest.length := Nat.mul_le_mul_right _ (by omega)
    rw [List.foldl_cons, List.length_cons, Nat.pow_succ', ← Nat.mul_assoc]
    exact Nat.lt_of_lt_of_le later most

theorem digits?_some {most : Nat} {text digits rest : List Char}
    (read : digits? most text = some (digits, rest)) :
    (∀ c ∈ digits, isDigit c = true) ∧ digits.length ≤ most := by
  unfold digits? at read
  dsimp only at read
  split at read
  · cases read
  · obtain ⟨rfl, -⟩ := Prod.mk.inj (Option.some.inj read)
    constructor
    · intro c member
      exact List.all_eq_true.mp List.all_takeWhile c (List.mem_of_mem_take member)
    · rw [List.length_take]
      exact Nat.min_le_left _ _

/-- A fraction that is read is less than a second. -/
theorem fraction?_small {text rest : List Char} {nanoseconds : Nat}
    (read : fraction? text = some (nanoseconds, rest)) : nanoseconds < billion := by
  unfold fraction? at read
  split at read
  · next text =>
    obtain ⟨⟨digits, others⟩, found, shape⟩ := Option.map_eq_some_iff.mp read
    obtain ⟨rfl, -⟩ := Prod.mk.inj shape
    obtain ⟨all, few⟩ := digits?_some found
    have least := foldl_digits_lt all 0
    rw [Nat.zero_add, Nat.one_mul] at least
    calc digitsValue digits * 10 ^ (9 - digits.length)
        < 10 ^ digits.length * 10 ^ (9 - digits.length) :=
          Nat.mul_lt_mul_of_pos_right least (Nat.pow_pos (by decide))
      _ = billion := by
          rw [← Nat.pow_add, Nat.add_sub_cancel' few]
          rfl
  · obtain ⟨rfl, -⟩ := Prod.mk.inj (Option.some.inj read)
    decide

theorem offsetSize?_minutes {text rest : List Char} {offset : Int}
    (read : offsetSize? text = some (offset, rest)) : offset % 60 = 0 := by
  unfold offsetSize? at read
  split at read
  · split at read
    · dsimp only at read
      split at read
      · split at read
        · obtain ⟨rfl, -⟩ := Prod.mk.inj (Option.some.inj read)
          omega
        · cases read
      · cases read
    · cases read
  · cases read

/-- An offset that is read is a number of minutes. -/
theorem offset?_minutes {text rest : List Char} {offset : Int}
    (read : offset? text = some (offset, rest)) : offset % 60 = 0 := by
  have turned {text : List Char} (read : (offsetSize? text).map (fun result =>
      (-result.1, result.2)) = some (offset, rest)) : offset % 60 = 0 := by
    obtain ⟨⟨size, others⟩, found, shape⟩ := Option.map_eq_some_iff.mp read
    obtain ⟨rfl, -⟩ := Prod.mk.inj shape
    have minutes := offsetSize?_minutes found
    omega
  unfold offset? at read
  split at read
  · obtain ⟨rfl, -⟩ := Prod.mk.inj (Option.some.inj read)
    rfl
  · split at read
    · obtain ⟨rfl, -⟩ := Prod.mk.inj (Option.some.inj read)
      rfl
    · obtain ⟨rfl, -⟩ := Prod.mk.inj (Option.some.inj read)
      rfl
    · exact offsetSize?_minutes read
    · exact turned read
    · exact turned read
    · cases read

/-- A timestamp that is read can be stored. -/
theorem Representable.of_read {text : String} {time : Timestamp} (read : ofText? text = some time) :
    time.Representable := by
  unfold ofText? parse? at read
  simp only [Option.bind_eq_bind, Option.bind_eq_some_iff] at read
  obtain ⟨⟨year, _⟩, -, ⟨month, _⟩, -, ⟨day, _⟩, -, _, -, ⟨hour, _⟩, -, ⟨minute, _⟩, -, ⟨second, _⟩, -,
    ⟨nanoseconds, _⟩, fraction, ⟨offset, _⟩, zone, read⟩ := read
  have small := fraction?_small fraction
  have minutes := offset?_minutes zone
  split at read
  · cases read
  split at read
  · cases read
  split at read
  · cases read
  dsimp only at read
  generalize total : (⟨year, month, day⟩ : Date).toDays * 86400 + hour * 3600 + minute * 60 +
    ((if second = 60 then 59 else second : Nat) : Int) - offset = seconds at read
  by_cases far : (Date.ofDays (seconds / 86400)).year < Date.leastYear ∨
      Date.greatestYear < (Date.ofDays (seconds / 86400)).year
  · rw [if_pos far] at read
    cases read
  rw [if_neg far] at read
  obtain rfl := Option.some.inj read
  constructor
  · dsimp only
    omega
  · dsimp only
    unfold billion at small ⊢
    split
    · next leap =>
      rw [if_pos leap] at total
      omega
    · omega

end WorkflowEngine.Time.Timestamp
