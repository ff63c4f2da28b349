import Mathlib.Data.List.Basic
import Workflow.Uuid

/-!
# Identifiers and their text

An identifier is read back from its written form (`Uuid.ofText?_text`).  The written form has a
hyphen where `unhyphen?` looks for one and begins with a digit, so nothing of it is taken for a
wrapping.
-/

namespace Workflow.Uuid

@[simp] theorem digit?_digitChar (d : Fin 16) : digit? (digitChar d) = some d := by
  revert d
  decide

theorem mapM_digit? (digits : List (Fin 16)) :
    (digits.map digitChar).mapM digit? = some digits := by
  induction digits with
  | nil => rfl
  | cons d digits ih => simp only [List.map_cons, List.mapM_cons, digit?_digitChar, ih]; rfl

theorem ofDigits?_map_digitChar (id : Uuid) : ofDigits? (id.digits.map digitChar) = some id := by
  rw [ofDigits?, mapM_digit?]
  exact dif_pos id.size_eq

/-! ## Hyphens -/

/-- The written form in the pieces that the hyphens leave. -/
theorem chars_pieces (id : Uuid) : ∃ a b c d e : List Char,
    (a.length = 8 ∧ b.length = 4 ∧ c.length = 4 ∧ d.length = 4 ∧ e.length = 12) ∧
      id.digits.map digitChar = a ++ b ++ c ++ d ++ e ∧
      id.chars = a ++ '-' :: (b ++ '-' :: (c ++ '-' :: (d ++ '-' :: e))) := by
  have hsize := id.size_eq
  refine ⟨_, _, _, _, _, ?_, ?_, rfl⟩
  · simp only [List.length_take, List.length_drop, List.length_map, hsize]
    decide
  · generalize id.digits.map digitChar = all
    have hcut : ∀ n, all.drop n = (all.drop n).take 4 ++ all.drop (n + 4) := by
      intro n
      rw [← List.drop_drop, List.take_append_drop]
    calc all = all.take 8 ++ all.drop 8 := (List.take_append_drop 8 all).symm
      _ = all.take 8 ++ ((all.drop 8).take 4 ++ ((all.drop 12).take 4 ++
            ((all.drop 16).take 4 ++ all.drop 20))) := by
          rw [← hcut 16, ← hcut 12, ← hcut 8]
      _ = _ := by simp only [List.append_assoc]

theorem length_chars (id : Uuid) : id.chars.length = 36 := by
  obtain ⟨a, b, c, d, e, ⟨ha, hb, hc, hd, he⟩, -, hchars⟩ := id.chars_pieces
  simp [hchars, ha, hb, hc, hd, he]

theorem unhyphen?_chars (id : Uuid) : unhyphen? id.chars = some (id.digits.map digitChar) := by
  have hlength := id.length_chars
  obtain ⟨a, b, c, d, e, ⟨ha, hb, hc, hd, he⟩, hdigits, hchars⟩ := id.chars_pieces
  have hhyphens : id.chars[8]? = some '-' ∧ id.chars[13]? = some '-' ∧
      id.chars[18]? = some '-' ∧ id.chars[23]? = some '-' := by
    rw [hchars]
    simp (disch := omega) only [List.getElem?_append_right, ha, hb, hc, hd, Nat.reduceSub,
      List.getElem?_cons_zero, List.getElem?_cons_succ, and_self]
  rw [unhyphen?, if_pos ⟨hlength, hhyphens⟩, hdigits, hchars]
  simp (disch := omega) [ha, hb, hc, hd, List.drop_append, List.drop_eq_nil_of_le]

/-! ## Wrappings -/

/-- No digit opens a wrapping. -/
theorem digitChar_ne (d : Fin 16) : (digitChar d).toLower ≠ 'u' ∧ digitChar d ≠ '\x7b' := by
  revert d
  decide

theorem unwrap_chars (id : Uuid) : unwrap id.chars = id.chars := by
  obtain ⟨d, rest, hchars⟩ : ∃ d rest, id.chars = digitChar d :: rest := by
    have hsize := id.size_eq
    cases hdigits : id.digits with
    | nil => simp [hdigits] at hsize
    | cons d digits => exact ⟨d, _, by simp only [chars, hdigits]; rfl⟩
  have hne := digitChar_ne d
  simp [unwrap, hchars, urn, hne]

theorem ofChars?_chars (id : Uuid) : ofChars? id.chars = some id := by
  have hlength : id.chars.length ≠ 32 := by simp [length_chars]
  rw [ofChars?, if_neg hlength, unwrap_chars, unhyphen?_chars]
  exact id.ofDigits?_map_digitChar

/-- An identifier is read back from its text. -/
theorem ofText?_text (id : Uuid) : ofText? id.text = some id := by
  rw [ofText?, text, String.toList_ofList, ofChars?_chars]

end Workflow.Uuid
