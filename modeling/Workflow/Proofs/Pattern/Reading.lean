import Workflow.Proofs.Pattern.Followed

/-!
# Reading with a closing behind

A line that can be read by itself is read in the same way with the closing behind, and what is left
over has the closing behind in turn, unless a comment has taken it (`readGroup_carries`).

The lemmas go through what the reader is put together from: numbers, escapes, classes, counts,
groups.  No part goes on past a closing parenthesis that it has not opened, and at the end of a
text every part either fails or stops; that is all there is to it.  Fuel that suffices for a text
suffices for what is longer only because it is given by the length, so where a part returns what it
has when the fuel is out, the fuel is compared with the length.
-/

namespace Workflow.Pattern

/-! ## Characters of one kind -/

/-- Reads characters that pass a test; blanks between them do not count where spacing is on. -/
def gather (keep : Char → Bool) (spacing : Bool) : (fuel : Nat) → List Char →
    List Char × List Char
  | 0, chars => ([], chars)
  | _ + 1, [] => ([], [])
  | fuel + 1, c :: rest =>
    if keep c then
      let (found, rest) := gather keep spacing fuel (skip spacing rest)
      (c :: found, rest)
    else ([], c :: rest)

theorem gather_agrees (keep : Char → Bool) (hclosing : keep ')' = false) (spacing : Bool) :
    ∀ {fuel fuel' : Nat} {chars chars' : List Char},
    chars.length ≤ fuel → chars'.length ≤ fuel' → Followed chars chars' →
    Agrees (gather keep spacing fuel chars) (gather keep spacing fuel' chars')
  | fuel, fuel', [], chars', _, _, h => by
      have hnone : gather keep spacing fuel [] = ([], []) := by cases fuel <;> rfl
      have hnone' : gather keep spacing fuel' chars' = ([], chars') := by
        rcases h.nil with rfl | rfl
        · cases fuel' <;> rfl
        · cases fuel' <;> simp [closing, gather, hclosing]
      rw [hnone, hnone']
      exact ⟨rfl, h⟩
  | 0, _, _ :: _, _, hfuel, _, _ => absurd hfuel (Nat.not_succ_le_zero _)
  | fuel + 1, fuel', c :: rest, _, hfuel, hfuel', h => by
      obtain ⟨rest', rfl, hrest⟩ := h.cons
      cases fuel' with
      | zero => exact absurd hfuel' (Nat.not_succ_le_zero _)
      | succ fuel' =>
          unfold gather
          split
          · have hmore := gather_agrees keep hclosing spacing
              (Nat.le_trans (length_skip spacing rest) (Nat.le_of_succ_le_succ hfuel))
              (Nat.le_trans (length_skip spacing rest') (Nat.le_of_succ_le_succ hfuel'))
              (skip_followed spacing hrest)
            exact ⟨congrArg (c :: ·) hmore.1, hmore.2⟩
          · exact ⟨rfl, hrest.push c⟩

/-! ## Numbers -/

theorem readDigits_eq (spacing : Bool) : ∀ (fuel : Nat) (chars : List Char),
    readDigits spacing fuel chars = gather Char.isDigit spacing fuel chars
  | 0, _ => rfl
  | _ + 1, [] => rfl
  | fuel + 1, c :: rest => by
      rw [readDigits, gather, readDigits_eq spacing fuel]

theorem readCount_carries (spacing : Bool) {chars chars' : List Char} (h : Followed chars chars') :
    Carries Agrees (readCount spacing chars) (readCount spacing chars') := by
  have hdigits := gather_agrees Char.isDigit rfl spacing
    (List.dropWhile_suffix Unicode.isBlank).length_le
    (List.dropWhile_suffix Unicode.isBlank).length_le (dropBlanks_followed h)
  unfold readCount
  rw [readDigits_eq, readDigits_eq]
  generalize gather Char.isDigit spacing chars.length _ = x at hdigits
  generalize gather Char.isDigit spacing chars'.length _ = x' at hdigits
  obtain ⟨digits, rest⟩ := x
  obtain ⟨digits', rest'⟩ := x'
  obtain ⟨rfl, hrest⟩ : digits' = digits ∧ Followed rest rest' := hdigits
  have hleft := skip_followed spacing (dropBlanks_followed hrest)
  dsimp only
  split
  · exact .ok hleft
  · split
    · exact .unreadable
    · exact .ok hleft

theorem readHexDigits_carries (spacing : Bool) : ∀ {count value : Nat} {chars chars' : List Char},
    Followed chars chars' →
    Carries Agrees (readHexDigits spacing value count chars)
      (readHexDigits spacing value count chars')
  | 0, _, _, _, h => .ok h
  | _ + 1, _, [], _, _ => .unreadable
  | count + 1, value, c :: rest, _, h => by
      obtain ⟨rest', rfl, hrest⟩ := h.cons
      rw [readHexDigits, readHexDigits]
      split
      · exact readHexDigits_carries spacing (skip_followed spacing hrest)
      · exact .unreadable

theorem readHexBraced_carries (spacing : Bool) : ∀ {fuel fuel' : Nat} {value : Option Nat}
    {chars chars' : List Char}, fuel ≤ fuel' → Followed chars chars' →
    Carries Agrees (readHexBraced spacing value fuel chars)
      (readHexBraced spacing value fuel' chars')
  | 0, _, _, _, _, _, _ => .unreadable
  | _ + 1, 0, _, _, _, hfuel, _ => absurd hfuel (Nat.not_succ_le_zero _)
  | _ + 1, _ + 1, _, [], _, _, _ => .unreadable
  | fuel + 1, fuel' + 1, value, c :: rest, _, hfuel, h => by
      obtain ⟨rest', rfl, hrest⟩ := h.cons
      have hskip := skip_followed spacing hrest
      unfold readHexBraced
      split
      · split
        · exact .ok hskip
        · exact .unreadable
      · split
        · exact readHexBraced_carries spacing (Nat.le_of_succ_le_succ hfuel) hskip
        · exact .unreadable

theorem readHex_carries (spacing : Bool) (count : Nat) {chars chars' : List Char}
    (h : Followed chars chars') :
    Carries Agrees (readHex spacing count chars) (readHex spacing count chars') := by
  have hskip := skip_followed spacing h
  unfold readHex
  split
  · next rest hbrace =>
      obtain ⟨rest', hbrace', hrest⟩ := skip_cons h hbrace
      rw [hbrace']
      have hfuel := Nat.succ_le_succ hrest.length_le
      exact (readHexBraced_carries spacing hfuel (skip_followed spacing hrest)).bind
        fun n _ _ hleft => .step fun c => .ok hleft
  · next hother =>
      have hother' := hskip.head_ne (by decide) hother
      simp only
      exact (readHexDigits_carries spacing hskip).bind fun n _ _ hleft => .step fun c => .ok hleft

/-! ## Escapes -/

theorem readBraced_carries (spacing : Bool) : ∀ {fuel fuel' : Nat} {chars chars' : List Char},
    fuel ≤ fuel' → Followed chars chars' →
    Carries Agrees (readBraced spacing fuel chars) (readBraced spacing fuel' chars')
  | 0, _, _, _, _, _ => .unreadable
  | _ + 1, 0, _, _, hfuel, _ => absurd hfuel (Nat.not_succ_le_zero _)
  | _ + 1, _ + 1, [], _, _, _ => .unreadable
  | fuel + 1, fuel' + 1, c :: rest, _, hfuel, h => by
      obtain ⟨rest', rfl, hrest⟩ := h.cons
      unfold readBraced
      split
      · exact .ok hrest
      · exact (readBraced_carries spacing (Nat.le_of_succ_le_succ hfuel)
          (skip_followed spacing hrest)).bind fun name _ _ hleft => .ok hleft

theorem readNamed_carries (spacing negated : Bool) {chars chars' : List Char}
    (h : Followed chars chars') :
    Carries Agrees (readNamed spacing negated chars) (readNamed spacing negated chars') := by
  unfold readNamed
  split
  · exact .unreadable
  · next rest hbrace =>
      obtain ⟨rest', hbrace', hrest⟩ := skip_cons h hbrace
      rw [hbrace']
      exact (readBraced_carries spacing (Nat.succ_le_succ hrest.length_le)
        (skip_followed spacing hrest)).bind fun name _ _ hleft => .ok hleft
  · exact .unreadable
  · next c rest hbrace hslash hother =>
      obtain ⟨rest', hother', hrest⟩ := skip_cons h hother
      simp only [hother']
      exact .ok (skip_followed spacing hrest)

theorem readPlaceName_eq (spacing : Bool) : ∀ (fuel : Nat) (chars : List Char),
    readPlaceName spacing fuel chars = gather isPlaceChar spacing fuel chars
  | 0, _ => rfl
  | _ + 1, [] => rfl
  | fuel + 1, c :: rest => by
      rw [readPlaceName, gather, readPlaceName_eq spacing fuel]

theorem readBoundary_carries (spacing : Bool) {chars chars' : List Char}
    (h : Followed chars chars') :
    Carries Agrees (readBoundary spacing chars) (readBoundary spacing chars') := by
  unfold readBoundary
  split
  · next rest =>
      obtain ⟨rest', rfl, hrest⟩ := h.cons
      split
      · exact .unreadable
      · next c more hskipped =>
          obtain ⟨more', hskipped', hmore⟩ := skip_cons hrest hskipped
          simp only [hskipped']
          split
          · have hname := gather_agrees isPlaceChar (by decide) spacing
              (Nat.le_refl (c :: more).length) (Nat.le_refl (c :: more').length) (hmore.push c)
            rw [readPlaceName_eq, readPlaceName_eq]
            generalize gather isPlaceChar spacing _ (c :: more) = x at hname
            generalize gather isPlaceChar spacing _ (c :: more') = x' at hname
            obtain ⟨name, left⟩ := x
            obtain ⟨name', left'⟩ := x'
            obtain ⟨rfl, hleft⟩ : name' = name ∧ Followed left left' := hname
            split
            · next hends =>
                cases hends
                obtain ⟨behind, rfl, hbehind⟩ := hleft.cons
                simp only
                split
                · exact .ok hbehind
                · exact .unreadable
            · exact .unreadable
          · exact .ok (hrest.push _)
  · next hother =>
      have hother' := h.head_ne (by decide) hother
      simp only
      exact .ok h

theorem readEscape_carries (spacing : Bool) {chars chars' : List Char} (h : Followed chars chars') :
    Carries Agrees (readEscape spacing chars) (readEscape spacing chars') := by
  unfold readEscape
  split
  · exact .unreadable
  · obtain ⟨rest', rfl, hrest⟩ := h.cons
    exact (readHex_carries spacing 2 hrest).map _
  · obtain ⟨rest', rfl, hrest⟩ := h.cons
    exact (readHex_carries spacing 4 hrest).map _
  · obtain ⟨rest', rfl, hrest⟩ := h.cons
    exact (readHex_carries spacing 8 hrest).map _
  · obtain ⟨rest', rfl, hrest⟩ := h.cons
    exact readNamed_carries spacing false hrest
  · obtain ⟨rest', rfl, hrest⟩ := h.cons
    exact readNamed_carries spacing true hrest
  · obtain ⟨rest', rfl, hrest⟩ := h.cons
    exact readBoundary_carries spacing hrest
  · obtain ⟨rest', rfl, hrest⟩ := h.cons
    simp only
    split
    · exact .ok hrest
    · split
      · exact .ok hrest
      · exact .ok hrest
      · exact .ok hrest
      · exact .unreadable

/-! ## Classes -/

section Mark

variable (mark : Char) {c : Char} {chars chars' after : List Char}

/-- Up to a mark that the closing does not have, both texts are the same. -/
theorem dropWhile_followed (hmark : mark ∉ closing) (h : Followed chars chars') :
    Followed (chars.dropWhile (· ≠ mark)) (chars'.dropWhile (· ≠ mark)) := by
  cases h with
  | same => exact .same _
  | closed =>
      rw [List.dropWhile_append]
      split
      · next hnone =>
          have hapart : ¬ ')' = mark ∧ ¬ '$' = mark := by
            simpa [closing, @eq_comm _ mark] using hmark
          have hgone : closing.dropWhile (· ≠ mark) = [] := by
            simp [closing, hapart]
          rw [List.isEmpty_iff.mp hnone, hgone]
          exact .same []
      · exact .closed _

theorem takeWhile_followed (h : Followed chars chars')
    (hfound : chars.dropWhile (· ≠ mark) = c :: after) :
    chars'.takeWhile (· ≠ mark) = chars.takeWhile (· ≠ mark) := by
  cases h with
  | same => rfl
  | closed =>
      rw [List.takeWhile_append, if_neg]
      intro hlength
      have hwhole := congrArg List.length (List.takeWhile_append_dropWhile
        (p := fun c => decide (c ≠ mark)) (l := chars))
      rw [hfound, List.length_append, hlength, List.length_cons] at hwhole
      omega

end Mark

/-- Whether a class named between colons is negated, and what follows. -/
def caret : List Char → Bool × List Char
  | '^' :: rest => (true, rest)
  | rest => (false, rest)

theorem caret_agrees {chars chars' : List Char} (h : Followed chars chars') :
    Agrees (caret chars) (caret chars') := by
  unfold caret
  split
  · obtain ⟨rest', rfl, hrest⟩ := h.cons
    exact ⟨rfl, hrest⟩
  · next hother =>
      have hother' := h.head_ne (by decide) hother
      simp only
      exact ⟨rfl, h⟩

theorem readAscii?_colon (rest : List Char) : readAscii? (':' :: rest) =
    match (caret rest).2.dropWhile (· ≠ ':') with
    | ':' :: ']' :: after =>
      (asciiClass? ((caret rest).2.takeWhile (· ≠ ':'))).map fun cls =>
        (.ascii cls (caret rest).1, after)
    | _ => none := rfl

theorem readAscii?_followed {chars chars' : List Char} (h : Followed chars chars') :
    Option.Rel Agrees (readAscii? chars) (readAscii? chars') := by
  by_cases hcolon : ∃ rest, chars = ':' :: rest
  · obtain ⟨rest, rfl⟩ := hcolon
    obtain ⟨rest', rfl, hrest⟩ := h.cons
    rw [readAscii?_colon, readAscii?_colon]
    obtain ⟨hnegated, hleft⟩ := caret_agrees hrest
    generalize (caret rest).2 = left at hleft
    generalize (caret rest').2 = left' at hleft
    have hdrop := dropWhile_followed ':' (by decide) hleft
    split
    · next after hmark =>
        rw [takeWhile_followed ':' hleft hmark, hnegated]
        rw [hmark] at hdrop
        obtain ⟨_, hmark', hbracket⟩ := hdrop.cons
        obtain ⟨after', rfl, hafter⟩ := hbracket.cons
        simp only [hmark']
        cases asciiClass? (left.takeWhile (· ≠ ':')) with
        | none => exact .none
        | some cls => exact .some ⟨rfl, hafter⟩
    · next hother =>
        split
        · next after' hmark' =>
            rw [hmark'] at hdrop
            obtain ⟨_, hmark, hbracket⟩ := hdrop.of_cons (by decide)
            obtain ⟨after, rfl, -⟩ := hbracket.of_cons (by decide)
            exact absurd hmark (hother after)
        · exact .none
  · have hother : ∀ rest, chars = ':' :: rest → False := fun rest hrest => hcolon ⟨rest, hrest⟩
    have hother' := h.head_ne (by decide) hother
    unfold readAscii?
    simp only
    exact .none

theorem readClassAtom_carries (spacing : Bool) {chars chars' : List Char}
    (h : Followed chars chars') :
    Carries Agrees (readClassAtom spacing chars) (readClassAtom spacing chars') := by
  unfold readClassAtom
  split
  · exact .unreadable
  · obtain ⟨rest', rfl, hrest⟩ := h.cons
    exact readEscape_carries spacing hrest
  · obtain ⟨rest', rfl, hrest⟩ := h.cons
    simp only
    exact .ok hrest

theorem peekBlanks_closed (chars : List Char) : ∀ inComment : Bool,
    peekBlanks inComment (chars ++ closing) = (peekBlanks inComment chars).or (some ')') := by
  induction chars with
  | nil =>
      intro inComment
      simp [closing, peekBlanks, isBlank_paren]
  | cons c rest ih =>
      intro inComment
      simp only [List.cons_append, peekBlanks]
      split
      · exact ih inComment
      · split
        · exact ih true
        · rfl

/-- The closing is not taken for a bracket or a hyphen. -/
theorem peek_followed (spacing : Bool) {chars chars' : List Char} (h : Followed chars chars')
    {c : Char} (hc : c = ']' ∨ c = '-') :
    peek spacing chars' = some c ↔ peek spacing chars = some c := by
  have hends : ')' ≠ c := by
    rcases hc with rfl | rfl <;> decide
  have hcounts : Unicode.isBlank c = false ∧ c ≠ '#' := by
    rcases hc with rfl | rfl <;> decide +kernel
  cases h with
  | same => exact Iff.rfl
  | closed =>
      cases spacing with
      | false =>
          cases chars with
          | nil => simp [peek, closing, hends]
          | cons first rest => simp [peek]
      | true =>
          simp only [peek, if_true, peekBlanks_closed]
          cases hfound : peekBlanks false chars with
          | some found => simp only [Option.some_or]
          | none =>
              refine iff_of_false (by simpa using hends) fun hhead => ?_
              -- what counts would have been found
              obtain ⟨rest, rfl⟩ := List.head?_eq_some_iff.mp (by simpa using hhead)
              simp [peekBlanks, hcounts] at hfound

theorem readClassItem_carries (spacing : Bool) {chars chars' : List Char}
    (h : Followed chars chars') :
    Carries Agrees (readClassItem spacing chars) (readClassItem spacing chars') := by
  unfold readClassItem
  refine (readClassAtom_carries spacing h).bind fun first rest rest' hrest => ?_
  have hskip := skip_followed spacing hrest
  dsimp only
  split
  · exact .unreadable
  · next after hhyphen =>
      obtain ⟨after', hhyphen', hafter⟩ := skip_cons hrest hhyphen
      simp only [hhyphen', peek_followed spacing hafter (Or.inl rfl),
        peek_followed spacing hafter (Or.inr rfl)]
      split
      · exact .step fun item => .ok (hafter.push _)
      · refine (readClassAtom_carries spacing (skip_followed spacing hafter)).bind
          fun second left left' hleft => .step fun lo => .step fun hi => ?_
        split
        · exact .ok hleft
        · exact .unreadable
  · next hsome hhyphen =>
      have hsome' := hskip.ne_nil hsome
      have hhyphen' := hskip.head_ne (by decide) hhyphen
      simp only
      exact .step fun item => .ok hskip

/-- The hyphens that stand for themselves. -/
def hyphensOf (found : List Char × List Char) : List ClassTerm × List Char :=
  (found.1.map fun _ => .literal ⟨'-', false⟩, found.2)

theorem readHyphens_eq (spacing : Bool) : ∀ (fuel : Nat) (chars : List Char),
    readHyphens spacing fuel chars = hyphensOf (gather (· = '-') spacing fuel chars)
  | 0, _ => rfl
  | _ + 1, [] => rfl
  | fuel + 1, c :: rest => by
      by_cases hc : c = '-'
      · subst hc
        rw [readHyphens, gather, readHyphens_eq spacing fuel]
        rfl
      · simp [readHyphens, gather, hyphensOf, hc]

/-- Whether a class between brackets is negated, and what follows. -/
def negation (spacing : Bool) (chars : List Char) : Bool × List Char :=
  match skip spacing chars with
  | '^' :: rest => (true, skip spacing rest)
  | rest => (false, rest)

theorem negation_agrees (spacing : Bool) {chars chars' : List Char} (h : Followed chars chars') :
    Agrees (negation spacing chars) (negation spacing chars') := by
  have hskip := skip_followed spacing h
  unfold negation
  split
  · next rest hcaret =>
      obtain ⟨rest', hcaret', hrest⟩ := skip_cons h hcaret
      simp only [hcaret']
      exact ⟨rfl, skip_followed spacing hrest⟩
  · next hother =>
      have hother' := hskip.head_ne (by decide) hother
      simp only
      exact ⟨rfl, hskip⟩

theorem readClassStart_eq (spacing : Bool) (chars : List Char) : readClassStart spacing chars =
    let (negated, chars) := negation spacing chars
    let (hyphens, chars) := readHyphens spacing chars.length chars
    match hyphens, chars with
    | _, [] => unreadable
    | [], ']' :: rest =>
      match skip spacing rest with
      | [] => unreadable
      | rest => .ok (negated, [.literal ⟨']', false⟩], rest)
    | hyphens, chars => .ok (negated, hyphens, chars) := rfl

theorem readClassStart_carries (spacing : Bool) {chars chars' : List Char}
    (h : Followed chars chars') :
    Carries AgreesTwice (readClassStart spacing chars) (readClassStart spacing chars') := by
  have hstart := negation_agrees spacing h
  rw [readClassStart_eq, readClassStart_eq]
  generalize negation spacing chars = x at hstart
  generalize negation spacing chars' = x' at hstart
  obtain ⟨negated, left⟩ := x
  obtain ⟨negated', left'⟩ := x'
  obtain ⟨rfl, hleft⟩ : negated' = negated ∧ Followed left left' := hstart
  have hhyphens := gather_agrees (· = '-') rfl spacing (Nat.le_refl left.length)
    (Nat.le_refl left'.length) hleft
  dsimp only
  rw [readHyphens_eq, readHyphens_eq]
  generalize gather _ spacing left.length left = y at hhyphens
  generalize gather _ spacing left'.length left' = y' at hhyphens
  obtain ⟨found, behind⟩ := y
  obtain ⟨found', behind'⟩ := y'
  obtain ⟨rfl, hbehind⟩ : found' = found ∧ Followed behind behind' := hhyphens
  dsimp only [hyphensOf]
  generalize found'.map (fun _ => ClassTerm.literal ⟨'-', false⟩) = hyphens'
  split
  · exact .unreadable
  · next rest =>
      obtain ⟨rest', rfl, hrest⟩ := hbehind.cons
      have hmore := skip_followed spacing hrest
      simp only
      split
      · exact .unreadable
      · next hsome =>
          have hsome' := hmore.ne_nil hsome
          simp only
          exact .ok_twice hmore
  · next hsome hbracket =>
      have hsome' := hbehind.ne_nil hsome
      have hbracket' : ∀ rest, hyphens' = [] → behind' = ']' :: rest → False :=
        fun rest hnone => hbehind.head_ne (by decide) (fun more => hbracket more hnone) rest
      simp only
      exact .ok_twice hbehind

theorem readClass_carries (spacing : Bool) : ∀ {fuel fuel' : Nat} {negated : Bool}
    {pending : Option (ClassOp × ClassTerm)} {items : List ClassTerm} {chars chars' : List Char},
    fuel ≤ fuel' → Followed chars chars' →
    Carries Agrees (readClass spacing negated fuel pending items chars)
      (readClass spacing negated fuel' pending items chars')
  | 0, _, _, _, _, _, _, _, _ => .unreadable
  | _ + 1, 0, _, _, _, _, _, hfuel, _ => absurd hfuel (Nat.not_succ_le_zero _)
  | fuel + 1, fuel' + 1, negated, pending, items, chars, chars', hfuel, h => by
      have hless := Nat.le_of_succ_le_succ hfuel
      have hskip := skip_followed spacing h
      unfold readClass
      dsimp only
      split
      · exact .unreadable
      · next rest hopen =>
          obtain ⟨rest', hopen', hrest⟩ := skip_cons h hopen
          simp only [hopen']
          have hascii := readAscii?_followed hrest
          generalize readAscii? rest = x at hascii
          generalize readAscii? rest' = x' at hascii
          cases hascii with
          | @some made made' hagrees =>
              obtain ⟨item, left⟩ := made
              obtain ⟨item', left'⟩ := made'
              obtain ⟨rfl, hleft⟩ : item' = item ∧ Followed left left' := hagrees
              exact readClass_carries spacing hless hleft
          | none =>
              refine (readClassStart_carries spacing hrest).bind_twice
                fun inner start _ _ hbody => ?_
              refine (readClass_carries spacing hless hbody).bind fun nested _ _ hleft => ?_
              exact readClass_carries spacing hless hleft
      · next rest hclose =>
          obtain ⟨rest', hclose', hrest⟩ := skip_cons h hclose
          simp only [hclose']
          exact .ok hrest
      · next rest hop =>
          obtain ⟨_, hop', hmore⟩ := skip_cons h hop
          obtain ⟨rest', rfl, hrest⟩ := hmore.cons
          simp only [hop']
          exact readClass_carries spacing hless hrest
      · next rest hop =>
          obtain ⟨_, hop', hmore⟩ := skip_cons h hop
          obtain ⟨rest', rfl, hrest⟩ := hmore.cons
          simp only [hop']
          exact readClass_carries spacing hless hrest
      · next rest hop =>
          obtain ⟨_, hop', hmore⟩ := skip_cons h hop
          obtain ⟨rest', rfl, hrest⟩ := hmore.cons
          simp only [hop']
          exact readClass_carries spacing hless hrest
      · next hsome hopen hclose hinter hdiff hsymm =>
          have hsome' := hskip.ne_nil hsome
          have hopen' := hskip.head_ne (by decide) hopen
          have hclose' := hskip.head_ne (by decide) hclose
          have hinter' := hskip.pair_ne (by decide) (by decide) hinter
          have hdiff' := hskip.pair_ne (by decide) (by decide) hdiff
          have hsymm' := hskip.pair_ne (by decide) (by decide) hsymm
          simp only
          refine (readClassItem_carries spacing hskip).bind fun item _ _ hleft => ?_
          exact readClass_carries spacing hless hleft

theorem readBracket_carries (spacing : Bool) {chars chars' : List Char}
    (h : Followed chars chars') :
    Carries Agrees (readBracket spacing chars) (readBracket spacing chars') := by
  unfold readBracket
  refine (readClassStart_carries spacing h).bind_twice fun negated start _ _ hbody => ?_
  refine (readClass_carries spacing (Nat.succ_le_succ h.length_le) hbody).bind
    fun body _ _ hleft => ?_
  dsimp only
  split
  · exact .ok hleft
  · exact .unreadable

/-! ## Repetitions -/

theorem skipLazy_followed {chars chars' : List Char} (h : Followed chars chars') :
    Followed (skipLazy chars) (skipLazy chars') := by
  unfold skipLazy
  split
  · obtain ⟨rest', rfl, hrest⟩ := h.cons
    exact hrest
  · next hother =>
      have hother' := h.head_ne (by decide) hother
      simp only
      exact h

theorem readCounts_carries (spacing : Bool) {chars chars' : List Char}
    (h : Followed chars chars') :
    Carries Agrees (readCounts spacing chars) (readCounts spacing chars') := by
  unfold readCounts
  refine (readCount_carries spacing (skip_followed spacing h)).bind fun low rest rest' hrest => ?_
  dsimp only
  split
  · obtain ⟨left', rfl, hleft⟩ := hrest.cons
    exact .ok (skipLazy_followed (skip_followed spacing hleft))
  · obtain ⟨left', rfl, hleft⟩ := hrest.cons
    have hskip := skip_followed spacing hleft
    simp only
    split
    · next behind hbrace =>
        obtain ⟨behind', hbrace', hbehind⟩ := skip_cons hleft hbrace
        simp only [hbrace']
        exact .ok (skipLazy_followed (skip_followed spacing hbehind))
    · next hbrace =>
        have hbrace' := hskip.head_ne (by decide) hbrace
        simp only
        refine (readCount_carries spacing hskip).bind fun high behind behind' hbehind => ?_
        dsimp only
        split
        · obtain ⟨last', rfl, hlast⟩ := hbehind.cons
          simp only
          split
          · exact .ok (skipLazy_followed (skip_followed spacing hlast))
          · exact .unreadable
        · exact .unreadable
  · exact .unreadable

/-! ## Groups -/

theorem readFlags_carries : ∀ {clearing : Bool} {changes : FlagChanges} {dangling : Bool}
    {chars chars' : List Char}, Followed chars chars' →
    Carries Agrees (readFlags clearing changes dangling chars)
      (readFlags clearing changes dangling chars')
  | _, _, _, [], _, _ => .unreadable
  | clearing, changes, dangling, c :: rest, _, h => by
      obtain ⟨rest', rfl, hrest⟩ := h.cons
      unfold readFlags
      split
      · split
        · exact .unreadable
        · exact .ok (hrest.push c)
      · split
        · split
          · exact .unreadable
          · exact readFlags_carries hrest
        · split
          · exact .unreadable
          · split
            · exact .unreadable
            · exact readFlags_carries hrest

theorem readGroupName_carries {chars chars' : List Char} (h : Followed chars chars') :
    Carries Agrees (readGroupName chars) (readGroupName chars') := by
  have hdrop := dropWhile_followed '>' (by decide) h
  unfold readGroupName
  dsimp only
  split
  · next first more rest hname hmark =>
      rw [hmark] at hdrop
      obtain ⟨rest', hmark', hrest⟩ := hdrop.cons
      rw [takeWhile_followed '>' h hmark, hname]
      simp only [hmark']
      split
      · exact .ok hrest
      · exact .unreadable
  · exact .unreadable

theorem readOpening_carries (spacing : Bool) {chars chars' : List Char}
    (h : Followed chars chars') :
    Carries Agrees (readOpening spacing chars) (readOpening spacing chars') := by
  have hskip := skip_followed spacing h
  unfold readOpening
  split
  · exact .unreadable
  · exact .unreadable
  · exact .unreadable
  · exact .unreadable
  · next rest hopen =>
      obtain ⟨_, hopen', hletter⟩ := skip_cons h hopen
      obtain ⟨_, rfl, hangle⟩ := hletter.cons
      obtain ⟨rest', rfl, hrest⟩ := hangle.cons
      simp only [hopen']
      exact (readGroupName_carries hrest).bind fun name _ _ hleft => .ok hleft
  · next rest hbehind hnotbehind hopen =>
      obtain ⟨_, hopen', hmore⟩ := skip_cons h hopen
      obtain ⟨rest', rfl, hrest⟩ := hmore.cons
      have hbehind' := hrest.head_ne (by decide) hbehind
      have hnotbehind' := hrest.head_ne (by decide) hnotbehind
      simp only [hopen']
      exact (readGroupName_carries hrest).bind fun name _ _ hleft => .ok hleft
  · next rest hahead hnotahead hbehind hnotbehind hname hangle hopen =>
      obtain ⟨rest', hopen', hrest⟩ := skip_cons h hopen
      have hahead' := hrest.head_ne (by decide) hahead
      have hnotahead' := hrest.head_ne (by decide) hnotahead
      have hbehind' := hrest.pair_ne (by decide) (by decide) hbehind
      have hnotbehind' := hrest.pair_ne (by decide) (by decide) hnotbehind
      have hname' := hrest.pair_ne (by decide) (by decide) hname
      have hangle' := hrest.head_ne (by decide) hangle
      simp only [hopen']
      refine (readFlags_carries hrest).bind fun changes left left' hleft => ?_
      dsimp only
      split
      · obtain ⟨last', rfl, hlast⟩ := hleft.cons
        simp only
        split
        · exact .unreadable
        · exact .ok hlast
      · obtain ⟨last', rfl, hlast⟩ := hleft.cons
        exact .ok hlast
      · exact .unreadable
  · next hask =>
      have hask' := hskip.head_ne (by decide) hask
      split
      all_goals first
        | exact .ok hskip
        | next hopen => exact (hask' _ hopen).elim

/-- A group that can be read by itself is read in the same way with the closing behind. -/
theorem readGroup_carries : ∀ {fuel fuel' : Nat} {spacing : Bool} {names : List String}
    {p : Unfinished} {chars chars' : List Char}, fuel ≤ fuel' → Followed chars chars' →
    Carries AgreesTwice (readGroup fuel spacing names p chars)
      (readGroup fuel' spacing names p chars')
  | 0, _, _, _, _, _, _, _, _ => .unreadable
  | _ + 1, 0, _, _, _, _, _, hfuel, _ => absurd hfuel (Nat.not_succ_le_zero _)
  | fuel + 1, fuel' + 1, spacing, names, p, chars, chars', hfuel, h => by
      have hless := Nat.le_of_succ_le_succ hfuel
      have hskip := skip_followed spacing h
      unfold readGroup
      split
      · next hend =>
          rw [hend] at hskip
          -- a comment has taken the closing, or its parenthesis ends the group as the end did
          rcases hskip.nil with hend' | hend'
          · rw [hend']
            exact .ok_twice (.same [])
          · simp only [hend']
            exact .ok_twice (.closed [])
      · next rest hclose =>
          obtain ⟨rest', hclose', hrest⟩ := skip_cons h hclose
          simp only [hclose']
          exact .ok_twice (hrest.push _)
      · next rest hbar =>
          obtain ⟨rest', hbar', hrest⟩ := skip_cons h hbar
          simp only [hbar']
          exact readGroup_carries hless hrest
      · next rest hopen =>
          obtain ⟨rest', hopen', hrest⟩ := skip_cons h hopen
          simp only [hopen']
          refine (readOpening_carries spacing hrest).bind fun opening _ _ hinner => ?_
          cases opening with
          | flags changes => exact readGroup_carries hless hinner
          | group captured changes name =>
              dsimp only
              split
              · exact .unreadable
              · refine (readGroup_carries hless hinner).bind_twice fun body after _ _ hbody => ?_
                -- the group inside has its own parenthesis, before the closing
                dsimp only
                split
                · obtain ⟨left', rfl, hleft⟩ := hbody.cons
                  exact readGroup_carries hless hleft
                · exact .unreadable
      · next rest hbracket =>
          obtain ⟨rest', hbracket', hrest⟩ := skip_cons h hbracket
          simp only [hbracket']
          exact (readBracket_carries spacing hrest).bind fun cls _ _ hleft =>
            readGroup_carries hless hleft
      · next rest hquestion =>
          obtain ⟨rest', hquestion', hrest⟩ := skip_cons h hquestion
          simp only [hquestion']
          exact .step fun p => readGroup_carries hless (skipLazy_followed hrest)
      · next rest hstar =>
          obtain ⟨rest', hstar', hrest⟩ := skip_cons h hstar
          simp only [hstar']
          exact .step fun p => readGroup_carries hless (skipLazy_followed hrest)
      · next rest hplus =>
          obtain ⟨rest', hplus', hrest⟩ := skip_cons h hplus
          simp only [hplus']
          exact .step fun p => readGroup_carries hless (skipLazy_followed hrest)
      · next rest hbrace =>
          obtain ⟨rest', hbrace', hrest⟩ := skip_cons h hbrace
          simp only [hbrace']
          exact (readCounts_carries spacing hrest).bind fun counts _ _ hleft =>
            .step fun p => readGroup_carries hless hleft
      · next rest hslash =>
          obtain ⟨rest', hslash', hrest⟩ := skip_cons h hslash
          simp only [hslash']
          exact (readEscape_carries spacing hrest).bind fun part _ _ hleft =>
            readGroup_carries hless hleft
      · next rest hdot =>
          obtain ⟨rest', hdot', hrest⟩ := skip_cons h hdot
          simp only [hdot']
          exact readGroup_carries hless hrest
      · next rest hcaret =>
          obtain ⟨rest', hcaret', hrest⟩ := skip_cons h hcaret
          simp only [hcaret']
          exact readGroup_carries hless hrest
      · next rest hdollar =>
          obtain ⟨rest', hdollar', hrest⟩ := skip_cons h hdollar
          simp only [hdollar']
          exact readGroup_carries hless hrest
      · next c rest _ _ _ _ _ _ _ _ _ _ _ _ hplain =>
          obtain ⟨rest', hplain', hrest⟩ := skip_cons h hplain
          simp only [hplain']
          exact readGroup_carries hless hrest

end Workflow.Pattern
