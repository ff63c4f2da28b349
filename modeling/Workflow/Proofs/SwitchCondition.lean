import Mathlib.Data.List.Basic
import Mathlib.Data.List.DropRight
import Workflow.Task

/-!
# Switch conditions and their text

A text is read as a condition line by line, and a carriage return at the end of a line is lost in
one of two ways: the line ends with it and the newline together, or it is taken off afterwards.
It comes to the same as cutting the text at every newline and taking all carriage returns off the
pieces (`SwitchCondition.ofText_eq_pieces`); only the piece behind the last newline may be too
many, and it is empty then.

A condition is read back from its text when its lines can be stored
(`SwitchCondition.ofText_text`): a line must not hold a newline, at which it would be cut, nor end
in a carriage return, which would be dropped.  The lines of every condition that was read are such
(`SwitchCondition.storable_of_mem_ofText`).  So a condition survives being stored exactly when its
lines can be stored, and `SwitchCondition.ofText_reads` says all of this about the characters.
-/

namespace Workflow

namespace Text

/-! ## Cutting what was joined -/

theorem pieces_cut (cut : Char) (rest : List Char) :
    pieces cut (cut :: rest) = [] :: pieces cut rest := by
  cases hrest : pieces cut rest with
  | nil => exact absurd hrest (pieces_ne_nil cut rest)
  | cons piece more => simp [pieces, hrest]

theorem pieces_cons {cut c : Char} (hc : c ≠ cut) {rest piece : List Char}
    {more : List (List Char)} (h : pieces cut rest = piece :: more) :
    pieces cut (c :: rest) = (c :: piece) :: more := by
  simp [pieces, h, hc]

theorem pieces_eq_splitOn (cut : Char) (chars : List Char) :
    pieces cut chars = chars.splitOn cut := by
  induction chars with
  | nil => rfl
  | cons c rest ih =>
    rw [List.splitOn_cons_eq_if_modifyHead, ← ih]
    by_cases hc : c = cut
    · subst hc
      simpa using pieces_cut c rest
    · cases hrest : pieces cut rest with
      | nil => exact absurd hrest (pieces_ne_nil cut rest)
      | cons piece more => simpa [hc] using pieces_cons hc hrest

theorem join_eq_intercalate (cut : Char) (all : List (List Char)) :
    join cut all = [cut].intercalate all := by
  induction all with
  | nil => rfl
  | cons piece more ih =>
    cases more with
    | nil => simp [join]
    | cons next more =>
      rw [List.intercalate_cons_cons, ← ih, List.append_assoc]
      rfl

/-- Pieces without a cut are found again in what they are joined to. -/
theorem pieces_join {cut : Char} {all : List (List Char)} (hne : all ≠ [])
    (h : ∀ piece ∈ all, cut ∉ piece) : pieces cut (join cut all) = all := by
  rw [join_eq_intercalate, pieces_eq_splitOn, List.splitOn_intercalate cut h hne]

theorem not_mem_of_mem_pieces {cut : Char} {chars piece : List Char}
    (h : piece ∈ pieces cut chars) : cut ∉ piece := by
  induction chars generalizing piece with
  | nil =>
    rw [List.mem_singleton.mp h]
    exact List.not_mem_nil
  | cons c rest ih =>
    by_cases hc : c = cut
    · subst hc
      rw [pieces_cut] at h
      obtain rfl | h := List.mem_cons.mp h
      · exact List.not_mem_nil
      · exact ih h
    · cases hrest : pieces cut rest with
      | nil => exact absurd hrest (pieces_ne_nil cut rest)
      | cons first more =>
        rw [hrest] at ih
        rw [pieces_cons hc hrest] at h
        obtain rfl | h := List.mem_cons.mp h
        · intro hmem
          obtain heq | hmem := List.mem_cons.mp hmem
          · exact hc heq.symm
          · exact ih List.mem_cons_self hmem
        · exact ih (List.mem_cons_of_mem first h)

/-! ## Taking off the end -/

/-- A character in front stays, unless all behind it goes and it does too. -/
theorem dropTrailing_cons (c d : Char) (chars : List Char) :
    dropTrailing c (d :: chars) =
      if dropTrailing c chars = [] ∧ d = c then [] else d :: dropTrailing c chars := by
  rw [dropTrailing, dropTrailing, List.reverse_cons, List.dropWhile_append]
  by_cases hall : chars.reverse.dropWhile (fun e => decide (e = c)) = []
  · by_cases hd : d = c
    · simp [hall, hd]
    · simp [hall, hd]
  · simp [hall]

theorem dropTrailing_prefix (c : Char) (chars : List Char) : dropTrailing c chars <+: chars :=
  List.rdropWhile_prefix _ chars

theorem getLast?_dropTrailing (c : Char) (chars : List Char) :
    (dropTrailing c chars).getLast? ≠ some c := by
  intro h
  rw [dropTrailing, List.getLast?_reverse] at h
  have hhead := List.head?_dropWhile_not (fun d => decide (d = c)) chars.reverse
  rw [h] at hhead
  simp at hhead

theorem dropTrailing_of_getLast? {c : Char} {chars : List Char} (h : chars.getLast? ≠ some c) :
    dropTrailing c chars = chars := by
  rw [← List.head?_reverse] at h
  rw [dropTrailing]
  cases hchars : chars.reverse with
  | nil => simpa using hchars.symm
  | cons d rest =>
    rw [hchars] at h
    have hd : d ≠ c := by simpa using h
    rw [List.dropWhile_cons_of_neg (by simpa using hd), ← hchars, List.reverse_reverse]

/-! ## Lines -/

theorem lines_ne_nil (c : Char) (rest : List Char) : lines (c :: rest) ≠ [] := by
  rw [lines.eq_def]
  split
  · next hnil => cases hnil
  · exact List.cons_ne_nil _ _
  · exact List.cons_ne_nil _ _
  · split
    · exact List.cons_ne_nil _ _
    · exact List.cons_ne_nil _ _

/-- Without the carriage returns at their ends, lines and pieces are the same, but that there may
be a piece behind the last newline that is no line. -/
theorem pieces_eq_lines (chars : List Char) :
    ∃ behind, (pieces '\n' chars).map (dropTrailing '\r') =
      (lines chars).map (dropTrailing '\r') ++ behind ∧ ∀ piece ∈ behind, piece = [] := by
  fun_induction lines chars with
  | case1 => exact ⟨[[]], rfl, by simp⟩
  | case2 rest ih =>
    obtain ⟨behind, hsame, hempty⟩ := ih
    refine ⟨behind, ?_, hempty⟩
    rw [pieces_cut, List.map_cons, hsame, List.map_cons, List.cons_append]
  | case3 rest ih =>
    obtain ⟨behind, hsame, hempty⟩ := ih
    refine ⟨behind, ?_, hempty⟩
    -- the carriage return stays with the piece and is taken off it
    rw [pieces_cons (by decide) (pieces_cut '\n' rest), List.map_cons, hsame]
    rfl
  | case4 c rest hc hpair hnone ih =>
    obtain rfl : rest = [] := by
      cases rest with
      | nil => rfl
      | cons d rest => exact absurd hnone (lines_ne_nil d rest)
    have hblank : pieces '\n' [] = [[]] := rfl
    refine ⟨[], ?_, by simp⟩
    rw [pieces_cons hc hblank]
    rfl
  | case5 c rest hc hpair line more hlines ih =>
    obtain ⟨behind, hsame, hempty⟩ := ih
    refine ⟨behind, ?_, hempty⟩
    cases hrest : pieces '\n' rest with
    | nil => exact absurd hrest (pieces_ne_nil '\n' rest)
    | cons piece others =>
      rw [hrest, hlines, List.map_cons, List.map_cons, List.cons_append] at hsame
      obtain ⟨hfirst, hothers⟩ := List.cons.inj hsame
      rw [pieces_cons hc hrest, List.map_cons, List.map_cons, List.cons_append, hothers,
        dropTrailing_cons, dropTrailing_cons, hfirst]

end Text

namespace SwitchCondition

/-- Reading line by line finds what stands between the newlines. -/
theorem ofText_eq_pieces (text : String) :
    ofText text = ofLines ((Text.pieces '\n' text.toList).map fun piece =>
      String.ofList (Text.dropTrailing '\r' piece)) := by
  obtain ⟨behind, hsame, hempty⟩ := Text.pieces_eq_lines text.toList
  have hlines : (Text.pieces '\n' text.toList).map (fun piece =>
        String.ofList (Text.dropTrailing '\r' piece)) =
      (Text.lines text.toList).map (fun line => String.ofList (Text.dropTrailing '\r' line)) ++
        behind.map String.ofList := by
    simpa [Function.comp_def] using congrArg (List.map String.ofList) hsame
  rw [hlines, ofText]
  simpa [ofLines, List.filter_append] using hempty

example : (ofText "red\r\n\r\nblue\r\r").lines = ["red", "blue"] := by decide

/-- A line that can be told apart from others when it is stored with them. -/
def Storable (line : String) : Prop :=
  '\n' ∉ line.toList ∧ line.toList.getLast? ≠ some '\r'

/-- The lines of a condition that was read can be stored. -/
theorem storable_of_mem_ofText {text line : String} (h : line ∈ (ofText text).lines) :
    Storable line := by
  rw [ofText_eq_pieces] at h
  obtain ⟨hmem, -⟩ := List.mem_filter.mp h
  obtain ⟨piece, hpiece, rfl⟩ := List.mem_map.mp hmem
  rw [Storable, String.toList_ofList]
  constructor
  · intro hcut
    exact Text.not_mem_of_mem_pieces hpiece ((Text.dropTrailing_prefix '\r' piece).subset hcut)
  · exact Text.getLast?_dropTrailing '\r' piece

theorem ofLines_lines (condition : SwitchCondition) : ofLines condition.lines = condition := by
  have hkept : condition.lines.filter (· ≠ "") = condition.lines :=
    List.filter_eq_self.mpr fun line hline => by simpa using condition.nonempty line hline
  cases condition
  simpa [ofLines] using hkept

/-- A condition whose lines can be stored is read back from its text. -/
theorem ofText_text {condition : SwitchCondition}
    (h : ∀ line ∈ condition.lines, Storable line) : ofText condition.text = condition := by
  have hback : ∀ line ∈ condition.lines,
      String.ofList (Text.dropTrailing '\r' line.toList) = line := by
    intro line hline
    rw [Text.dropTrailing_of_getLast? (h line hline).2, String.ofList_toList]
  have hcut : ∀ piece ∈ condition.lines.map String.toList, '\n' ∉ piece := by
    intro piece hpiece
    obtain ⟨line, hline, rfl⟩ := List.mem_map.mp hpiece
    exact (h line hline).1
  rw [ofText_eq_pieces, text, String.toList_ofList]
  cases hlines : condition.lines with
  | nil =>
    -- the text of no lines is read as one empty line, which does not count
    rw [← ofLines_lines condition, hlines]
    rfl
  | cons line more =>
    rw [← hlines, Text.pieces_join (by simp [hlines]) hcut, List.map_map]
    calc ofLines (condition.lines.map _)
        = ofLines (condition.lines.map id) := congrArg ofLines (List.map_congr_left hback)
      _ = ofLines condition.lines := by rw [List.map_id]
      _ = condition := ofLines_lines condition

/-- What was read is read back from its text. -/
theorem ofText_text_ofText (stored : String) : ofText (ofText stored).text = ofText stored :=
  ofText_text fun _ => storable_of_mem_ofText

/-- A condition is read back from its text exactly when its lines can be stored. -/
theorem ofText_text_iff {condition : SwitchCondition} :
    ofText condition.text = condition ↔ ∀ line ∈ condition.lines, Storable line := by
  constructor
  · intro h line hline
    rw [← h] at hline
    exact storable_of_mem_ofText hline
  · exact ofText_text

/-- **How conditions are stored.**  A text is read as the pieces between its newlines, without the
carriage returns at their ends and without those that are empty then; what was read is stored and
read again unchanged.  Lines that someone gives survive exactly when none of them, the empty ones
apart, holds a newline or ends in a carriage return. -/
theorem ofText_reads :
    (∀ stored : String,
      (ofText stored).lines = ((stored.toList.splitOn '\n').map fun piece =>
        String.ofList (piece.rdropWhile (· = '\r'))).filter (· ≠ "") ∧
      ofText (ofText stored).text = ofText stored) ∧
    ∀ lines : List String, ofText (ofLines lines).text = ofLines lines ↔
      ∀ line ∈ lines, line ≠ "" → '\n' ∉ line.toList ∧ line.toList.getLast? ≠ some '\r' := by
  refine ⟨fun stored => ⟨?_, ofText_text_ofText stored⟩, fun lines => ?_⟩
  · rw [ofText_eq_pieces, Text.pieces_eq_splitOn]
    rfl
  · rw [ofText_text_iff]
    constructor
    · intro h line hline hsome
      exact h line (List.mem_filter.mpr ⟨hline, by simpa using hsome⟩)
    · intro h line hline
      obtain ⟨hmem, hsome⟩ := List.mem_filter.mp hline
      exact h line hmem (by simpa using hsome)

end SwitchCondition

end Workflow
