import Workflow.Selector

/-!
# Texts with a closing behind

A line of a condition is read between anchors, so behind it there stand a parenthesis and an
anchor (`closing`).  `Followed` relates two texts of which the second may have the closing behind;
it may also have none, because where blanks do not count a comment at the end of the line takes the
closing with it (`skip_followed`).  `Carries` relates two results of reading: where the first has
something made, the second has the same made, and what is left over is related by `Followed`.
-/

namespace Workflow.Pattern

/-! ## Texts and results -/

/-- What stands behind a line between its anchors. -/
def closing : List Char := [')', '$']

/-- The second text is the first, which the closing may follow. -/
inductive Followed : List Char → List Char → Prop
  | same (chars : List Char) : Followed chars chars
  | closed (chars : List Char) : Followed chars (chars ++ closing)

namespace Followed

theorem cons {c : Char} {rest chars' : List Char} (h : Followed (c :: rest) chars') :
    ∃ rest', chars' = c :: rest' ∧ Followed rest rest' := by
  cases h with
  | same => exact ⟨rest, rfl, .same rest⟩
  | closed => exact ⟨rest ++ closing, rfl, .closed rest⟩

theorem nil {chars' : List Char} (h : Followed [] chars') : chars' = [] ∨ chars' = closing := by
  cases h with
  | same => exact Or.inl rfl
  | closed => exact Or.inr rfl

/-- The closing begins with a parenthesis; any other beginning is that of the first text. -/
theorem of_cons {c : Char} {chars rest' : List Char} (h : Followed chars (c :: rest'))
    (hc : c ≠ ')') : ∃ rest, chars = c :: rest ∧ Followed rest rest' := by
  generalize hwhole : c :: rest' = chars' at h
  cases h with
  | same => exact ⟨rest', hwhole.symm, .same rest'⟩
  | closed =>
      cases chars with
      | nil => exact absurd (List.cons.inj hwhole).1 hc
      | cons first rest =>
          obtain ⟨rfl, rfl⟩ := List.cons.inj hwhole
          exact ⟨rest, rfl, .closed rest⟩

theorem head_ne {chars chars' : List Char} (h : Followed chars chars') {c : Char} (hc : c ≠ ')')
    (hne : ∀ rest, chars = c :: rest → False) : ∀ rest, chars' = c :: rest → False := by
  rintro rest' rfl
  obtain ⟨rest, hrest, -⟩ := h.of_cons hc
  exact hne rest hrest

theorem pair_ne {chars chars' : List Char} (h : Followed chars chars') {c d : Char} (hc : c ≠ ')')
    (hd : d ≠ ')') (hne : ∀ rest, chars = c :: d :: rest → False) :
    ∀ rest, chars' = c :: d :: rest → False := by
  rintro rest' rfl
  obtain ⟨_, rfl, hmore⟩ := h.of_cons hc
  obtain ⟨rest, rfl, -⟩ := hmore.of_cons hd
  exact hne rest rfl

theorem ne_nil {chars chars' : List Char} (h : Followed chars chars') (hne : chars = [] → False) :
    chars' = [] → False := by
  rintro rfl
  generalize hnil : [] = chars' at h
  cases h with
  | same => exact hne hnil.symm
  | closed => exact hne (List.append_eq_nil_iff.mp hnil.symm).1

theorem push {rest rest' : List Char} (h : Followed rest rest') (c : Char) :
    Followed (c :: rest) (c :: rest') := by
  cases h with
  | same => exact .same _
  | closed => exact .closed (c :: rest)

theorem length_le {chars chars' : List Char} (h : Followed chars chars') :
    chars.length ≤ chars'.length := by
  cases h with
  | same => exact Nat.le_refl _
  | closed => simp

end Followed

/-- The same thing made, and what is left may have the closing behind. -/
def Agrees {α : Type} (x x' : α × List Char) : Prop := x'.1 = x.1 ∧ Followed x.2 x'.2

/-- The same two things made, and what is left may have the closing behind. -/
def AgreesTwice {α β : Type} (x x' : α × β × List Char) : Prop := x'.1 = x.1 ∧ Agrees x.2 x'.2

/-- Where the first reading succeeds, the second succeeds with a result that agrees. -/
def Carries {α : Type} (Same : α → α → Prop) (x x' : Read α) : Prop :=
  ∀ a, x = .ok a → ∃ a', x' = .ok a' ∧ Same a a'

namespace Carries

variable {α β γ : Type} {Same : γ → γ → Prop}

theorem unreadable {x' : Read γ} : Carries Same unreadable x' :=
  fun _ h => nomatch h

theorem ok {a : α} {rest rest' : List Char} (h : Followed rest rest') :
    Carries Agrees (.ok (a, rest)) (.ok (a, rest')) := by
  intro made hok
  cases hok
  exact ⟨_, rfl, rfl, h⟩

theorem ok_twice {a : α} {b : β} {rest rest' : List Char} (h : Followed rest rest') :
    Carries AgreesTwice (.ok (a, b, rest)) (.ok (a, b, rest')) := by
  intro made hok
  cases hok
  exact ⟨_, rfl, rfl, rfl, h⟩

theorem bind_of {Before : α → α → Prop} {x x' : Read α} {f f' : α → Read γ}
    (h : Carries Before x x') (hf : ∀ a a', Before a a' → Carries Same (f a) (f' a')) :
    Carries Same (x >>= f) (x' >>= f') := by
  intro made hok
  cases hx : x with
  | error fault =>
      rw [hx] at hok
      cases hok
  | ok a =>
      obtain ⟨a', hx', hbefore⟩ := h a hx
      rw [hx] at hok
      rw [hx']
      exact hf a a' hbefore made hok

theorem bind {x x' : Read (α × List Char)} {f f' : α × List Char → Read γ}
    (h : Carries Agrees x x')
    (hf : ∀ a {rest rest'}, Followed rest rest' → Carries Same (f (a, rest)) (f' (a, rest'))) :
    Carries Same (x >>= f) (x' >>= f') :=
  h.bind_of fun (a, _) (_, _) ⟨hsame, hrest⟩ => by
    cases hsame
    exact hf a hrest

theorem bind_twice {x x' : Read (α × β × List Char)} {f f' : α × β × List Char → Read γ}
    (h : Carries AgreesTwice x x')
    (hf : ∀ a b {rest rest'}, Followed rest rest' →
      Carries Same (f (a, b, rest)) (f' (a, b, rest'))) :
    Carries Same (x >>= f) (x' >>= f') :=
  h.bind_of fun (a, b, _) (_, _, _) ⟨hsame, hsame', hrest⟩ => by
    cases hsame
    cases hsame'
    exact hf a b hrest

/-- What is made on the way without reading further. -/
theorem step {y : Read α} {f f' : α → Read γ} (hf : ∀ a, Carries Same (f a) (f' a)) :
    Carries Same (y >>= f) (y >>= f') := by
  cases y with
  | error fault => exact fun _ h => nomatch h
  | ok a => exact hf a

theorem map {x x' : Read (α × List Char)} (f : α → β) (h : Carries Agrees x x') :
    Carries Agrees (x.map fun (a, rest) => (f a, rest)) (x'.map fun (a, rest) => (f a, rest)) :=
  h.bind fun _ _ _ hrest => .ok hrest

end Carries

/-! ## Blanks -/

theorem isBlank_paren : Unicode.isBlank ')' = false := by decide +kernel

theorem skipComment_followed {chars chars' : List Char} (h : Followed chars chars') :
    Followed (skipComment chars) (skipComment chars') := by
  cases h with
  | same => exact .same _
  | closed =>
      induction chars with
      | nil => exact .same []
      | cons c rest ih =>
          simp only [List.cons_append, skipComment]
          split
          · exact .closed rest
          · exact ih

theorem skipBlanks_closed (chars : List Char) :
    Followed (skipBlanks chars) (skipBlanks (chars ++ closing)) := by
  fun_induction skipBlanks chars with
  | case1 =>
      have hstays : skipBlanks closing = closing := by
        simp [closing, skipBlanks, isBlank_paren]
      rw [List.nil_append, hstays]
      exact .closed []
  | case2 c rest hblank ih =>
      rw [List.cons_append, skipBlanks, if_pos hblank]
      exact ih
  | case3 rest hblank ih =>
      rw [List.cons_append, skipBlanks, if_neg hblank, if_pos rfl]
      have hcomment := skipComment_followed (.closed rest)
      generalize skipComment (rest ++ closing) = after at hcomment
      -- a comment without a newline runs on to the end of the closing
      cases hcomment with
      | same => exact .same _
      | closed => exact ih
  | case4 c rest hblank hmark =>
      rw [List.cons_append, skipBlanks, if_neg hblank, if_neg hmark]
      exact .closed (c :: rest)

theorem skip_followed (spacing : Bool) {chars chars' : List Char} (h : Followed chars chars') :
    Followed (skip spacing chars) (skip spacing chars') := by
  cases h with
  | same => exact .same _
  | closed =>
      cases spacing with
      | true => exact skipBlanks_closed chars
      | false => exact .closed chars

/-- What counts next is the same in both texts. -/
theorem skip_cons {spacing : Bool} {chars chars' : List Char} (h : Followed chars chars') {c : Char}
    {rest : List Char} (hskip : skip spacing chars = c :: rest) :
    ∃ rest', skip spacing chars' = c :: rest' ∧ Followed rest rest' := by
  have hfollowed := skip_followed spacing h
  rw [hskip] at hfollowed
  exact hfollowed.cons

theorem length_skipBlanks (chars : List Char) : (skipBlanks chars).length ≤ chars.length := by
  fun_induction skipBlanks chars with
  | case1 => exact Nat.le_refl _
  | case2 c rest hblank ih => exact Nat.le_succ_of_le ih
  | case3 rest hblank ih =>
      exact Nat.le_succ_of_le (Nat.le_trans ih (length_skipComment rest))
  | case4 c rest hblank hmark => exact Nat.le_refl _

theorem length_skip (spacing : Bool) (chars : List Char) :
    (skip spacing chars).length ≤ chars.length := by
  cases spacing with
  | false => exact Nat.le_refl _
  | true => exact length_skipBlanks chars

theorem dropBlanks_followed {chars chars' : List Char} (h : Followed chars chars') :
    Followed (chars.dropWhile Unicode.isBlank) (chars'.dropWhile Unicode.isBlank) := by
  cases h with
  | same => exact .same _
  | closed =>
      induction chars with
      | nil =>
          have hstays : closing.dropWhile Unicode.isBlank = closing := by
            simp [closing, isBlank_paren]
          rw [List.nil_append, hstays]
          exact .closed []
      | cons c rest ih =>
          simp only [List.cons_append, List.dropWhile_cons]
          split
          · exact ih
          · exact .closed (c :: rest)

end Workflow.Pattern
