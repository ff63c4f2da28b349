import Mathlib.Data.List.Induction
import Mathlib.Data.List.TakeWhile
import Workflow.Instant
import Workflow.Proofs.Calendar

/-!
# Points in time and their text

A point that was read is read back from its written form (`Instant.Sound.ofText?_text`).

Not every point is: the written form has room for a leap second in the last second of a minute
only, and for the days that can be represented.  That is all there is to it (`Instant.Sound`), and
every point that is read is of this kind (`Instant.sound_of_ofText?`), since offsets are whole
minutes.

A number is read back from its digits when what follows is no digit (`readDigits_padded`), and no
part of the written form begins with a blank; so each part is read back in front of the next.
-/

namespace Workflow.Instant

/-! ## Blanks -/

theorem blanks_eq : Unicode.blanks = ⟨[(9, 13), (32, 32), (133, 133), (160, 160), (5760, 5760),
    (8192, 8202), (8232, 8233), (8239, 8239), (8287, 8287), (12288, 12288)]⟩ := by
  decide +kernel

theorem isBlank_eq_false {c : Char} (hlow : 32 < c.toNat) (hhigh : c.toNat < 128) :
    Unicode.isBlank c = false := by
  simp only [Unicode.isBlank, blanks_eq, CharSet.has, CharSet.contains]
  simp
  omega

/-- What begins with a letter, a digit or a mark has no blanks to drop. -/
theorem skipBlanks_cons {c : Char} (hlow : 32 < c.toNat) (hhigh : c.toNat < 128)
    (rest : List Char) : skipBlanks (c :: rest) = c :: rest :=
  List.dropWhile_cons_of_neg (by simp [isBlank_eq_false hlow hhigh])

theorem isDigit_bounds {c : Char} (h : c.isDigit = true) : 48 ≤ c.toNat ∧ c.toNat ≤ 57 := by
  simp only [Char.isDigit, Bool.and_eq_true, decide_eq_true_eq] at h
  exact h

theorem skipBlanks_digits {digits : List Char} (hne : digits ≠ [])
    (hdigits : ∀ c ∈ digits, c.isDigit = true) (rest : List Char) :
    skipBlanks (digits ++ rest) = digits ++ rest := by
  cases digits with
  | nil => exact absurd rfl hne
  | cons c digits =>
    have hbounds := isDigit_bounds (hdigits c (by simp))
    exact skipBlanks_cons (by omega) (by omega) _

/-! ## Numbers -/

/-- The value of decimal digits. -/
def valueOf (digits : List Char) : Nat :=
  digits.foldl (fun n c => n * 10 + (c.toNat - '0'.toNat)) 0

theorem valueOf_eq (digits : List Char) : valueOf digits = Nat.ofDigitChars 10 digits 0 := by
  simp only [valueOf, Nat.ofDigitChars_eq_foldl, Nat.mul_comm]

theorem valueOf_lt {digits : List Char} (h : ∀ c ∈ digits, c.isDigit = true) :
    valueOf digits < 10 ^ digits.length := by
  induction digits using List.reverseRecOn with
  | nil => simp [valueOf]
  | append_singleton digits c ih =>
    have hc := isDigit_bounds (h c (by simp))
    have hrest := ih fun d hd => h d (by simp [hd])
    have hvalue : valueOf (digits ++ [c]) = valueOf digits * 10 + (c.toNat - 48) := by
      simp [valueOf]
    rw [hvalue, List.length_append, List.length_singleton, Nat.pow_succ]
    omega

/-- What a number is read from. -/
theorem readDigits_eq_some {width n : Nat} {chars rest : List Char}
    (h : readDigits width chars = some (n, rest)) :
    ∃ digits, chars = digits ++ rest ∧ digits.length ≤ width ∧ n < 10 ^ digits.length := by
  have hfront : (chars.takeWhile Char.isDigit).take width <+: chars :=
    (List.take_prefix _ _).trans (List.takeWhile_prefix _)
  have hdigits : ∀ c ∈ (chars.takeWhile Char.isDigit).take width, c.isDigit = true :=
    fun c hc => List.mem_takeWhile_imp (List.mem_of_mem_take hc)
  simp only [readDigits] at h
  split at h
  · cases h
  · cases h
    exact ⟨_, (List.prefix_iff_eq_append.mp hfront).symm, List.length_take_le _ _,
      valueOf_lt hdigits⟩

theorem readDigits_append {width : Nat} {digits : List Char} (hne : digits ≠ [])
    (hdigits : ∀ c ∈ digits, c.isDigit = true) (hwidth : digits.length ≤ width) {c : Char}
    (hc : c.isDigit = false) (rest : List Char) :
    readDigits width (digits ++ c :: rest) = some (valueOf digits, c :: rest) := by
  have hspan : (digits ++ c :: rest).takeWhile Char.isDigit = digits := by
    rw [List.takeWhile_append_of_pos hdigits]
    simp [hc]
  simp only [readDigits, hspan, List.take_of_length_le hwidth]
  simp [hne, valueOf]

theorem toList_padded (width n : Nat) : (padded width n).toList =
    List.replicate (width - (Nat.toDigits 10 n).length) '0' ++ Nat.toDigits 10 n := by
  simp only [padded, Nat.toString_eq_ofList_toDigits, String.length_ofList, String.toList_append,
    String.toList_ofList]

theorem isDigit_of_mem_padded {width n : Nat} {c : Char} (h : c ∈ (padded width n).toList) :
    c.isDigit = true := by
  rw [toList_padded, List.mem_append] at h
  obtain hzero | hdigit := h
  · obtain ⟨-, rfl⟩ := List.mem_replicate.mp hzero
    decide
  · exact Nat.isDigit_of_mem_toDigits (by decide) (by decide) hdigit

theorem padded_ne_nil (width n : Nat) : (padded width n).toList ≠ [] := by
  simp [toList_padded, Nat.toDigits_ne_nil]

theorem valueOf_padded (width n : Nat) : valueOf (padded width n).toList = n := by
  rw [toList_padded, valueOf_eq, Nat.ofDigitChars_append, Nat.ofDigitChars_replicate_zero,
    Nat.mul_zero, Nat.ofDigitChars_ten_toDigits]

theorem length_padded {width n : Nat} (hwidth : 0 < width) (h : n < 10 ^ width) :
    (padded width n).toList.length = width := by
  have hle := (Nat.length_toDigits_le_iff (by decide) hwidth).mpr h
  rw [toList_padded, List.length_append, List.length_replicate]
  omega

/-- A number is read back from its digits. -/
theorem readDigits_padded {most width n : Nat} (hlength : (padded width n).toList.length ≤ most)
    {c : Char} (hc : c.isDigit = false) (rest : List Char) :
    readDigits most ((padded width n).toList ++ c :: rest) = some (n, c :: rest) := by
  rw [readDigits_append (padded_ne_nil width n) (fun _ => isDigit_of_mem_padded) hlength hc,
    valueOf_padded]

/-! ## Parts of the written form -/

theorem readPair_padded {n : Nat} (h : n < 100) {c : Char} (hc : c.isDigit = false)
    (rest : List Char) :
    readPair ((padded 2 n).toList ++ c :: rest) = some (n, c :: rest) := by
  rw [readPair, skipBlanks_digits (padded_ne_nil 2 n) fun _ => isDigit_of_mem_padded]
  exact readDigits_padded (length_padded (by decide) h).le hc rest

theorem readMark_cons {mark : Char} (hlow : 32 < mark.toNat) (hhigh : mark.toNat < 128)
    (rest : List Char) : readMark mark (mark :: rest) = some rest := by
  rw [readMark, skipBlanks_cons hlow hhigh]
  exact if_pos rfl

/-- A year without a sign begins with a digit. -/
theorem readYear_digit {c : Char} (hc : c.isDigit = true) (rest : List Char) :
    readYear (c :: rest) = (readDigits 4 (c :: rest)).map fun (n, rest) => ((n : Int), rest) := by
  have hbounds := isDigit_bounds hc
  rw [readYear, skipBlanks_cons (by omega) (by omega)]
  split
  · next heq =>
    injection heq with hsign
    subst hsign
    cases hc
  · next heq =>
    injection heq with hsign
    subst hsign
    cases hc
  · rfl

theorem readYear_minus (rest : List Char) : readYear ('-' :: rest) =
    (readDigits rest.length rest).map fun (n, rest) => (-(n : Int), rest) := by
  rw [readYear, skipBlanks_cons (by decide) (by decide)]
  rfl

theorem readYear_plus (rest : List Char) : readYear ('+' :: rest) =
    (readDigits rest.length rest).map fun (n, rest) => ((n : Int), rest) := by
  rw [readYear, skipBlanks_cons (by decide) (by decide)]
  rfl

/-- Behind a sign all digits are taken. -/
theorem readYear_sign {sign : Char} {signed : Nat → Int}
    (hsign : ∀ chars, readYear (sign :: chars) =
      (readDigits chars.length chars).map fun (n, rest) => (signed n, rest))
    (n : Nat) (rest : List Char) :
    readYear (sign :: ((padded 4 n).toList ++ '-' :: rest)) = some (signed n, '-' :: rest) := by
  have hlength : (padded 4 n).toList.length ≤ ((padded 4 n).toList ++ '-' :: rest).length := by
    rw [List.length_append]
    exact Nat.le_add_right _ _
  rw [hsign, readDigits_padded hlength (by decide) rest]
  rfl

/-- A year is read back in front of a hyphen, with a sign or without. -/
theorem readYear_yearText (year : Int) (rest : List Char) :
    readYear ((yearText year).toList ++ '-' :: rest) = some (year, '-' :: rest) := by
  by_cases hplain : 0 ≤ year ∧ year ≤ 9999
  · have hlength : (padded 4 year.toNat).toList.length = 4 :=
      length_padded (by decide) (by omega)
    have hread := @readDigits_padded _ _ _ hlength.le '-' (by decide) rest
    rw [yearText, if_pos hplain]
    cases hdigits : (padded 4 year.toNat).toList with
    | nil => exact absurd hdigits (padded_ne_nil 4 year.toNat)
    | cons c digits =>
      have hc : c.isDigit = true := isDigit_of_mem_padded (hdigits ▸ List.mem_cons_self)
      rw [hdigits, List.cons_append] at hread
      rw [List.cons_append, readYear_digit hc, hread]
      simp [Int.toNat_of_nonneg hplain.1]
  · rw [yearText, if_neg hplain, String.toList_append, List.append_assoc]
    by_cases hnegative : year < 0
    · have hsign : "-".toList = ['-'] := rfl
      have hvalue : -(year.natAbs : Int) = year := by omega
      have hread := @readYear_sign '-' (fun n => -(n : Int)) readYear_minus year.natAbs rest
      rw [if_pos hnegative, hsign, List.singleton_append, hread, hvalue]
    · have hsign : "+".toList = ['+'] := rfl
      have hvalue : (year.natAbs : Int) = year := by omega
      have hread := @readYear_sign '+' (fun n => (n : Int)) readYear_plus year.natAbs rest
      rw [if_neg hnegative, hsign, List.singleton_append, hread, hvalue]

theorem readFraction_padded {width n : Nat} (hwidth : 0 < width) (hmost : width ≤ 9)
    (h : n < 10 ^ width) (rest : List Char) :
    readFraction (("." ++ padded width n).toList ++ 'Z' :: rest) =
      some (n * 10 ^ (9 - width), 'Z' :: rest) := by
  have hletter : 'Z'.isDigit = false := by decide
  have hlength := length_padded hwidth h
  have hread := readDigits_padded (hlength.le.trans hmost) hletter rest
  have hpoint : ("." ++ padded width n).toList ++ 'Z' :: rest =
      '.' :: ((padded width n).toList ++ 'Z' :: rest) := by
    have hmark : ".".toList = ['.'] := rfl
    rw [String.toList_append, hmark, List.singleton_append, List.cons_append]
  rw [hpoint]
  simp [readFraction, hread, hlength, hletter]

/-- No digit of a fraction is lost. -/
theorem readFraction_fractionText {nano : Nat} (h : nano < 1000000000) (rest : List Char) :
    readFraction ((fractionText nano).toList ++ 'Z' :: rest) = some (nano, 'Z' :: rest) := by
  simp only [fractionText]
  split_ifs with hzero hmilli hmicro
  · rw [hzero]
    rfl
  · have hvalue : nano / 1000000 * 10 ^ (9 - 3) = nano := by omega
    rw [readFraction_padded (by decide) (by decide) (by omega), hvalue]
  · have hvalue : nano / 1000 * 10 ^ (9 - 6) = nano := by omega
    rw [readFraction_padded (by decide) (by decide) (by omega), hvalue]
  · have hvalue : nano * 10 ^ (9 - 9) = nano := by omega
    rw [readFraction_padded (by decide) (by decide) (by omega), hvalue]

/-- Whatever follows the seconds is no digit. -/
theorem fractionText_append (nano : Nat) (rest : List Char) :
    ∃ c tail, (fractionText nano).toList ++ 'Z' :: rest = c :: tail ∧ c.isDigit = false := by
  simp only [fractionText]
  split_ifs
  · exact ⟨'Z', rest, rfl, by decide⟩
  all_goals
    rw [String.toList_append, List.append_assoc]
    exact ⟨'.', _, rfl, by decide⟩

/-! ## Dates and times -/

theorem readDate_written {date : Date} (hmonth : date.month < 100) (hday : date.day < 100)
    (rest : List Char) :
    readDate ((yearText date.year).toList ++ '-' :: ((padded 2 date.month).toList ++
      '-' :: ((padded 2 date.day).toList ++ 'T' :: rest))) = some (date, 'T' :: rest) := by
  have hhyphen : '-'.isDigit = false := by decide
  have hletter : 'T'.isDigit = false := by decide
  have hmark := @readMark_cons '-' (by decide) (by decide)
  rw [readDate]
  simp only [readYear_yearText, hmark, readPair_padded hmonth hhyphen, readPair_padded hday hletter,
    Option.bind_eq_bind, Option.bind_some]

theorem readTime_written {hour minute second nano : Nat} (hhour : hour < 100)
    (hminute : minute < 100) (hsecond : second < 100) (hnano : nano < 1000000000)
    (rest : List Char) :
    readTime ((padded 2 hour).toList ++ ':' :: ((padded 2 minute).toList ++
      ':' :: ((padded 2 second).toList ++ ((fractionText nano).toList ++ 'Z' :: rest)))) =
      (timeOfDay hour minute second nano).map fun time => (time, 'Z' :: rest) := by
  have hcolon : ':'.isDigit = false := by decide
  have hmark := @readMark_cons ':' (by decide) (by decide)
  have hfraction := readFraction_fractionText hnano rest
  obtain ⟨c, tail, htail, hc⟩ := fractionText_append nano rest
  rw [htail] at hfraction ⊢
  rw [readTime]
  simp only [readPair_padded hhour hcolon, readPair_padded hminute hcolon,
    readPair_padded hsecond hc, hmark, hfraction, Option.bind_eq_bind, Option.bind_some]
  cases timeOfDay hour minute second nano <;> rfl

/-! ## Points that are read -/

/-- A point on a day that can be represented; only the last second of a minute has a leap second
in it. -/
structure Sound (t : Instant) : Prop where
  represented : dayRange.1 ≤ t.day ∧ t.day ≤ dayRange.2
  second_lt : t.second < 86400
  nano_lt : t.nano < 2000000000
  last_of_leap : 1000000000 ≤ t.nano → t.second % 60 = 59

theorem timeOfDay_eq_some {hour minute second' nano' second nano : Nat} (hnano : nano' < 1000000000)
    (h : timeOfDay hour minute second' nano' = some (second, nano)) :
    second < 86400 ∧ nano < 2000000000 ∧ (1000000000 ≤ nano → second % 60 = 59) := by
  simp only [timeOfDay] at h
  split_ifs at h with hwrong hleap
  · cases h
    omega
  · cases h
    omega

theorem readFraction_lt {chars rest : List Char} {nano : Nat}
    (h : readFraction chars = some (nano, rest)) : nano < 1000000000 := by
  simp only [readFraction] at h
  split at h
  · next rest' =>
    obtain ⟨⟨n, after⟩, hread, h⟩ := Option.map_eq_some_iff.mp h
    obtain ⟨digits, rfl, hmost, hn⟩ := readDigits_eq_some hread
    have hlength : (digits ++ after).length - after.length = digits.length := by
      rw [List.length_append]
      omega
    rw [hlength] at h
    cases h
    calc n * 10 ^ (9 - digits.length)
        < 10 ^ digits.length * 10 ^ (9 - digits.length) :=
          Nat.mul_lt_mul_of_pos_right hn (Nat.pow_pos (by decide))
      _ = 10 ^ 9 := by rw [← Nat.pow_add, Nat.add_sub_cancel' hmost]
  · cases h
    decide

theorem readTime_eq_some {chars rest : List Char} {second nano : Nat}
    (h : readTime chars = some ((second, nano), rest)) :
    second < 86400 ∧ nano < 2000000000 ∧ (1000000000 ≤ nano → second % 60 = 59) := by
  simp only [readTime, Option.bind_eq_bind, Option.bind_eq_some_iff, Prod.exists] at h
  obtain ⟨hour, _, -, _, -, minute, _, -, _, -, second', _, -, nano', _, hfraction, _, _, htime,
    h⟩ := h
  cases h
  exact timeOfDay_eq_some (readFraction_lt hfraction) htime

theorem readOffsetDigits_eq_some {chars rest : List Char} {seconds : Nat}
    (h : readOffsetDigits chars = some (seconds, rest)) : seconds % 60 = 0 := by
  simp only [readOffsetDigits, Option.bind_eq_bind, Option.bind_eq_some_iff, Prod.exists] at h
  obtain ⟨hours, _, -, h⟩ := h
  split_ifs at h
  simp only [Option.bind_eq_some_iff, Prod.exists] at h
  obtain ⟨minutes, _, -, h⟩ := h
  split_ifs at h
  cases h
  omega

/-- Offsets are whole minutes. -/
theorem readOffset_eq_some {chars rest : List Char} {offset : Int}
    (h : readOffset chars = some (offset, rest)) : offset % 60 = 0 := by
  have hsigned : ∀ {sign : Int} {chars : List Char},
      ((readOffsetDigits chars).bind fun (seconds, rest) =>
        if seconds < 86400 then some (sign * (seconds : Int), rest) else none) =
          some (offset, rest) → offset % 60 = 0 := by
    intro sign chars h
    obtain ⟨⟨seconds, after⟩, hread, h⟩ := Option.bind_eq_some_iff.mp h
    have hminutes := readOffsetDigits_eq_some hread
    simp only at h
    split_ifs at h
    cases h
    exact Int.emod_eq_zero_of_dvd (Dvd.dvd.mul_left (by omega) sign)
  simp only [readOffset] at h
  split at h
  · cases h
    rfl
  · cases h
    rfl
  · exact hsigned h
  · exact hsigned h
  · exact hsigned h
  · split_ifs at h
    cases h
    rfl
  · cases h

theorem sound_ofLocal {date : Date} {second nano : Nat} {offset : Int} {t : Instant}
    (hnano : nano < 2000000000) (hleap : 1000000000 ≤ nano → second % 60 = 59)
    (hoffset : offset % 60 = 0) (h : ofLocal date second nano offset = some t) : t.Sound := by
  simp only [ofLocal] at h
  split_ifs at h with hday
  cases h
  have hsecond : (((second : Int) - offset).fmod 86400).toNat < 86400 ∧
      (second % 60 = 59 → (((second : Int) - offset).fmod 86400).toNat % 60 = 59) := by
    rw [Int.fmod_eq_emod_of_nonneg _ (by decide)]
    omega
  exact ⟨hday, hsecond.1, hnano, fun h => hsecond.2 (hleap h)⟩

/-- Every point that is read is sound. -/
theorem sound_of_ofText? {text : String} {t : Instant} (h : ofText? text = some t) : t.Sound := by
  simp only [ofText?, Option.bind_eq_bind, Option.bind_eq_some_iff, Prod.exists] at h
  obtain ⟨date, _, -, _, -, second, nano, _, htime, offset, _, hoffset, h⟩ := h
  split_ifs at h
  obtain ⟨-, hnano, hleap⟩ := readTime_eq_some htime
  exact sound_ofLocal hnano hleap (readOffset_eq_some hoffset) h

/-! ## Points that are written -/

theorem timeOfDay_written {t : Instant} (h : t.Sound) :
    timeOfDay (t.second / 3600) (t.second / 60 % 60)
      (t.second % 60 + if 1000000000 ≤ t.nano then 1 else 0) (t.nano % 1000000000) =
        some (t.second, t.nano) := by
  have hsecond := h.second_lt
  have hnano := h.nano_lt
  have hright : ¬ (23 < t.second / 3600 ∨ 59 < t.second / 60 % 60 ∨
      60 < t.second % 60 + if 1000000000 ≤ t.nano then 1 else 0) := by
    split <;> omega
  rw [timeOfDay, if_neg hright]
  by_cases hleap : 1000000000 ≤ t.nano
  · have hlast := h.last_of_leap hleap
    rw [if_pos hleap, if_pos (by omega)]
    simp only [Option.some.injEq, Prod.mk.injEq]
    omega
  · rw [if_neg hleap, if_neg (by omega)]
    simp only [Option.some.injEq, Prod.mk.injEq]
    omega

theorem inRange_ofNumber {day : Int} (h : dayRange.1 ≤ day ∧ day ≤ dayRange.2) :
    inRange (Date.ofNumber day) = true := by
  have hvalid := Date.valid_ofNumber day
  rw [← Date.number_ofNumber day] at h
  have hfirst : -262143 ≤ (Date.ofNumber day).year :=
    Date.year_le_of_number_le (d := ⟨-262143, 1, 1⟩) (by decide) hvalid h.1
  have hlast : (Date.ofNumber day).year ≤ 262142 :=
    Date.year_le_of_number_le (e := ⟨262142, 12, 31⟩) hvalid (by decide) h.2
  simp [inRange, hvalid, hfirst, hlast]

theorem Sound.ofLocal_eq {t : Instant} (h : t.Sound) :
    ofLocal (Date.ofNumber t.day) t.second t.nano 0 = some t := by
  have hsecond := h.second_lt
  have hday : t.day + ((t.second : Int) - 0).fdiv 86400 = t.day := by
    rw [Int.fdiv_eq_ediv_of_nonneg _ (by decide)]
    omega
  have hrest : (((t.second : Int) - 0).fmod 86400).toNat = t.second := by
    rw [Int.fmod_eq_emod_of_nonneg _ (by decide)]
    omega
  simp only [ofLocal, Date.number_ofNumber, hday, hrest, if_pos h.represented]

/-- The written form, part by part. -/
theorem toList_text (t : Instant) : t.text.toList =
    (yearText (Date.ofNumber t.day).year).toList ++ '-' ::
      ((padded 2 (Date.ofNumber t.day).month).toList ++ '-' ::
        ((padded 2 (Date.ofNumber t.day).day).toList ++ 'T' ::
          ((padded 2 (t.second / 3600)).toList ++ ':' ::
            ((padded 2 (t.second / 60 % 60)).toList ++ ':' ::
              ((padded 2 (t.second % 60 + if 1000000000 ≤ t.nano then 1 else 0)).toList ++
                ((fractionText (t.nano % 1000000000)).toList ++ ['Z'])))))) := by
  have hhyphen : "-".toList = ['-'] := rfl
  have hletter : "T".toList = ['T'] := rfl
  have hcolon : ":".toList = [':'] := rfl
  have hzone : "Z".toList = ['Z'] := rfl
  simp only [text, String.toList_append, hhyphen, hletter, hcolon, hzone, List.append_assoc,
    List.cons_append, List.nil_append]

/-- A sound point is read back from its text. -/
theorem Sound.ofText?_text {t : Instant} (h : t.Sound) : ofText? t.text = some t := by
  have hsecond := h.second_lt
  have hvalid := Date.valid_ofNumber t.day
  obtain ⟨⟨-, hmonth⟩, -, hday⟩ := Date.valid_iff.mp hvalid
  have hshort := Date.daysInMonth_le (Date.ofNumber t.day).year (Date.ofNumber t.day).month
  have hdate := @readDate_written (Date.ofNumber t.day) (by omega) (by omega)
  have htime := @readTime_written (t.second / 3600) (t.second / 60 % 60)
    (t.second % 60 + if 1000000000 ≤ t.nano then 1 else 0) (t.nano % 1000000000)
    (by omega) (by omega) (by split <;> omega) (by omega) []
  rw [timeOfDay_written h] at htime
  rw [ofText?, toList_text, hdate]
  have hseparator : ∀ rest, readSeparator ('T' :: rest) = some rest := fun _ => rfl
  have hoffset : readOffset (skipBlanks ['Z']) = some (0, []) := by
    rw [skipBlanks_cons (by decide) (by decide)]
    rfl
  simp only [Option.bind_eq_bind, Option.bind_some, hseparator, htime, Option.map_some, hoffset]
  rw [if_pos ⟨rfl, inRange_ofNumber h.represented⟩]
  exact h.ofLocal_eq

end Workflow.Instant
