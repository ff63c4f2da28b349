import Workflow.Proofs.Pattern.Reading
import Workflow.Proofs.Reachability

/-!
# Lines between anchors

A line is put between anchors as text, so what is read need not be what was meant.  For a line that
can be read by itself it is: whenever the line is accepted between anchors, the group in the middle
is the line (`ofChars_anchored`), the anchors hold at the beginning and at the end of a value
(`expr_between`), and an occurrence is then a match of the whole value (`occursIn_anchored`).

A line that cannot be read by itself may yet be accepted, when it closes the group it is put in and
opens another: the anchors then belong to different branches, and each holds one end only
(`stray_line_selects`).  Which values a condition selects is told from both kinds of lines
(`selects_iff_covers`).
-/

namespace Workflow.Pattern

/-! ## What is read -/

theorem ofChars_ok {chars : List Char} {term : Term} (h : Term.ofChars chars = .ok term) :
    ∃ names, readGroup (chars.length + 1) false [] ⟨[], []⟩ chars = .ok (term, names, []) := by
  obtain ⟨⟨read, names, rest⟩, hread, h⟩ := bind_ok.mp h
  dsimp only at h
  split at h
  · next hends =>
      cases h
      obtain rfl : rest = [] := List.isEmpty_iff.mp (Bool.and_eq_true_iff.mp hends).1
      exact ⟨names, hread⟩
  · cases h

/-- Up to the line, an anchor and the beginning of a group are read; then the line, which has to
leave a closing parenthesis. -/
theorem readGroup_opening (fuel : Nat) (chars : List Char) :
    readGroup (fuel + 2) false [] ⟨[], []⟩ ('^' :: '(' :: '?' :: ':' :: chars) =
      readGroup fuel false [] ⟨[], []⟩ chars >>= fun (body, names, rest) =>
        match rest with
        | ')' :: rest =>
          readGroup fuel false names ⟨[.group false [] body, .place .lineStart], []⟩ rest
        | _ => unreadable := rfl

/-- A line between its anchors, as it is meant. -/
def between (line : Term) : Term :=
  .concat [.place .lineStart, .group false [] line, .place .lineEnd]

/-- Behind the line, the other anchor is read. -/
theorem readGroup_closing (fuel : Nat) (names : List String) (line : Term) :
    readGroup (fuel + 2) false names ⟨[.group false [] line, .place .lineStart], []⟩ ['$'] =
      .ok (between line, names, []) := rfl

/-- A line that can be read by itself is the line in the middle. -/
theorem ofChars_anchored {line : String} {alone whole : Term}
    (halone : Term.ofChars line.toList = .ok alone)
    (hwhole : Term.ofChars (anchored line) = .ok whole) : whole = between alone := by
  obtain ⟨names, hread⟩ := ofChars_ok halone
  obtain ⟨names', hread'⟩ := ofChars_ok hwhole
  have hlength : (anchored line).length + 1 = line.toList.length + 5 + 2 := by
    simp [anchored]
  have hchars : anchored line = '^' :: '(' :: '?' :: ':' :: (line.toList ++ closing) := by
    simp [anchored, closing]
  rw [hlength, hchars, readGroup_opening] at hread'
  have hfuel : line.toList.length + 1 ≤ line.toList.length + 5 := by omega
  obtain ⟨⟨body, names'', rest⟩, hmiddle, rfl, rfl, hrest⟩ :=
    readGroup_carries hfuel (.closed line.toList) _ hread
  rw [hmiddle] at hread'
  rcases hrest.nil with rfl | rfl
  · -- a comment took the closing, and the group stays open
    cases hread'
  · change readGroup (line.toList.length + 3 + 2) false _ _ ['$'] = _ at hread'
    rw [readGroup_closing] at hread'
    cases hread'
    rfl

/-! ## What is matched -/

/-- The anchors ask for the beginning and the end of the text, whatever flags the line sets. -/
theorem expr_between {line : Term} {inner : Expr} {mode : Mode}
    (h : line.expr { } = .ok (inner, mode)) :
    (between line).expr { } =
      .ok (.seq (.look .textStart) (.seq inner (.look .textEnd)), { }) := by
  have hplain : Mode.apply { } [] = { } := rfl
  simp only [between, Term.expr, Term.sequence]
  show ((Term.expr (Mode.apply { } []) line >>= _) >>= _) >>= _ = _
  rw [hplain, h]
  rfl

theorem filter_onward (c : Char) (text : List Char) : ∀ position : Nat,
    (Cursor.onward position (some c) text).filter (Look.holds .textStart) = [] := by
  induction text generalizing c with
  | nil => intro position; rfl
  | cons d rest ih =>
      intro position
      rw [Cursor.onward, List.filter_cons_of_neg (by simp [Look.holds]), ih]

/-- A text begins at one place. -/
theorem filter_textStart (text : List Char) :
    (Cursor.all text).filter (Look.holds .textStart) = [Cursor.start text] := by
  cases text with
  | nil => rfl
  | cons c rest =>
      rw [Cursor.all, Cursor.onward, List.filter_cons_of_pos rfl, filter_onward]
      rfl

/-- What occurs between the beginning and the end is the whole text. -/
theorem occursIn_between (inner : Expr) (text : List Char) :
    Expr.occursIn (.seq (.look .textStart) (.seq inner (.look .textEnd))) text =
      inner.covers text := by
  simp only [Expr.occursIn, Expr.ends, filter_textStart, Expr.covers]
  rw [Bool.eq_iff_iff]
  simp [List.isEmpty_iff, List.filter_eq_nil_iff, Look.holds]

/-- Where a line can be read by itself and is accepted between anchors, it is the whole value that
has to match. -/
theorem occursIn_anchored {limit : Nat} {line : String} {alone made : Expr}
    (halone : Expr.ofChars line.toList = .ok alone)
    (hmade : compile limit (anchored line) = .ok made) (text : List Char) :
    made.occursIn text = alone.covers text := by
  obtain ⟨term, hterm, hmeans⟩ := bind_ok.mp halone
  obtain ⟨⟨inner, mode⟩, hinner, hsame⟩ := bind_ok.mp hmeans
  cases hsame
  have hwhole : Expr.ofChars (anchored line) = .ok made := by
    unfold compile at hmade
    split at hmade
    · cases hmade
    · next expr hexpr =>
        split at hmade
        · cases hmade
          exact hexpr
        · cases hmade
  obtain ⟨whole, hread, hmeans⟩ := bind_ok.mp hwhole
  obtain rfl : whole = between term := ofChars_anchored hterm hread
  rw [expr_between hinner] at hmeans
  cases hmeans
  exact occursIn_between _ text

end Workflow.Pattern

namespace Workflow.Selector

open Pattern

/-! ## Conditions -/

/-- A line that cannot be read by itself. -/
def Stray (line : String) : Prop := ∃ fault, Expr.ofChars line.toList = .error fault

/-- Every line of an accepted condition has been made into a pattern. -/
theorem exists_made {limit : Nat} {condition : SwitchCondition} {selector : Selector}
    (h : compile limit condition = .ok selector) {line : String} (hmem : line ∈ condition.lines) :
    ∃ made, Pattern.compile limit (anchored line) = .ok made := by
  obtain ⟨ready, hready, rfl⟩ := map_ok.mp h
  obtain ⟨made, -, hmade⟩ :=
    Graph.exists_of_mem_right (Graph.compileLines_forall₂ hready).flip hmem
  exact ⟨made.2, hmade⟩

/-- **A value is matched as a whole.**  A condition that is accepted selects a value exactly when
some line, as a pattern by itself, matches the value from its first to its last character, or when
the pattern occurs in it that is made, between the anchors, of a line that is none by itself.  So
where every line is a pattern by itself, whole values are all that is matched. -/
theorem selects_iff_covers {limit : Nat} {condition : SwitchCondition} {selector : Selector}
    (h : compile limit condition = .ok selector) (value : String) :
    (selector.selects value = true ↔ ∃ line ∈ condition.lines,
      coversAlone line.toList value.toList = true ∨
        Stray line ∧ ∃ made, Pattern.compile limit (anchored line) = .ok made ∧
          made.occursIn value.toList = true) ∧
    ((∀ line ∈ condition.lines, ¬ Stray line) →
      (selector.selects value = true ↔
        ∃ line ∈ condition.lines, coversAlone line.toList value.toList = true)) := by
  have hline : ∀ line ∈ condition.lines,
      (∃ made, Pattern.compile limit (anchored line) = .ok made ∧
        made.occursIn value.toList = true) ↔
      (coversAlone line.toList value.toList = true ∨
        Stray line ∧ ∃ made, Pattern.compile limit (anchored line) = .ok made ∧
          made.occursIn value.toList = true) := by
    intro line hmem
    obtain ⟨made, hmade⟩ := exists_made h hmem
    cases halone : Expr.ofChars line.toList with
    | error fault =>
        have hstray : Stray line := ⟨fault, halone⟩
        simp [coversAlone, halone, hstray]
    | ok alone => simp [coversAlone, Stray, halone, hmade, occursIn_anchored halone hmade]
  rw [selects_iff h]
  refine ⟨exists_congr fun line => and_congr_right (hline line), fun hplain => ?_⟩
  refine exists_congr fun line => and_congr_right fun hmem => ?_
  rw [hline line hmem]
  exact or_iff_left fun hstray => hplain line hmem hstray.1

/-- Two lines that are patterns by themselves. -/
def colours : SwitchCondition := .ofLines ["red|blue", "gr[ea]y"]

theorem colours_cover : ∃ selector, compile 1048576 colours = .ok selector ∧
    selector.selects "grey" = true ∧ selector.selects "blueish" = false ∧
    (∃ line ∈ colours.lines, coversAlone line.toList "grey".toList = true) ∧
    ¬ ∃ line ∈ colours.lines, coversAlone line.toList "blueish".toList = true := by
  obtain ⟨selector, hselector⟩ : ∃ selector, compile 1048576 colours = .ok selector := ⟨_, rfl⟩
  have hplain : ∀ line ∈ colours.lines, ¬ Stray line := by
    rintro line hline ⟨fault, hfault⟩
    simp only [colours, SwitchCondition.ofLines, ne_eq, List.mem_filter, List.mem_cons,
      List.not_mem_nil, or_false] at hline
    rcases hline with ⟨rfl | rfl, -⟩
    · cases hfault
    · cases hfault
  have hgrey : selector.selects "grey" = true := by
    cases hselector
    rfl
  have hblueish : selector.selects "blueish" = false := by
    cases hselector
    rfl
  refine ⟨selector, hselector, hgrey, hblueish,
    ((selects_iff_covers hselector "grey").2 hplain).mp hgrey, fun hcovers => ?_⟩
  rw [((selects_iff_covers hselector "blueish").2 hplain).mpr hcovers] at hblueish
  cases hblueish

/-- A line that closes the group it is put in is accepted, and selects a value that merely begins
as its first branch says. -/
theorem stray_line_selects : ∃ selector,
    compile 1048576 (.ofLines ["a)|(b"]) = .ok selector ∧ selector.selects "ax" = true ∧
    ∀ line ∈ (SwitchCondition.ofLines ["a)|(b"]).lines,
      coversAlone line.toList "ax".toList = false := by
  refine ⟨_, rfl, rfl, ?_⟩
  intro line hline
  obtain rfl : line = "a)|(b" := by simpa [SwitchCondition.ofLines] using hline
  rfl

end Workflow.Selector
