import Transplant.Yaml.Token.Lexer

/-!
# Words read forwards

What a lexer reads where the text in front of it begins with a word: a plain scalar that ends where the word does
(`IsWord.readPlain`), as a token that may be a key (`Lexer.next_of_word`) and is one if a colon follows
(`Lexer.next_of_colon`). From these steps come the tokens that are ready to be handed on (`Lexer.fill_of_next`,
`Lexer.fill_of_key`).
-/

namespace Transplant.Yaml

/-! ## Plain scalars -/

/-- Whether a text is read as a whole where a plain scalar stands. -/
def IsWord (cs : List Char) : Prop :=
  ∀ c ∈ cs, isSeparator c = false ∧ c ≠ ':' ∧ c ≠ '\ufeff'

namespace IsWord

variable {cs : List Char}

theorem plainLength (h : IsWord cs) {rest : List Char} (hrest : plainLength false rest = 0) :
    plainLength false (cs ++ rest) = cs.length := by
  induction cs with
  | nil => exact hrest
  | cons c cs ih =>
    obtain ⟨hseparator, hcolon, -⟩ := h c List.mem_cons_self
    rw [List.cons_append, Yaml.plainLength, ih fun d hd => h d (List.mem_cons_of_mem _ hd)]
    simp [hseparator, hcolon]

theorem skip (h : IsWord cs) (rest : List Char) (index line column : Nat) :
    (⟨cs ++ rest, index, line, column, none⟩ : Cursor).skip cs.length =
      ⟨rest, index + cs.length, line, column + cs.length, none⟩ := by
  induction cs generalizing index column with
  | nil => rfl
  | cons c cs ih =>
    obtain ⟨hseparator, -, hmark⟩ := h c List.mem_cons_self
    have hbreak : isBreak c = false := by
      simp only [isSeparator, isSpaceOrBreak, isBreakOrEnd, Bool.or_eq_false_iff] at hseparator
      exact hseparator.2.2.2
    rw [List.length_cons, Cursor.skip, List.cons_append, Cursor.step]
    simp only [hbreak, Bool.false_and, hmark, beq_iff_eq, if_false, Bool.false_eq_true]
    rw [ih fun d hd => h d (List.mem_cons_of_mem _ hd)]
    congr 1 <;> omega

/-- A word is a plain scalar if it cannot go on behind the blanks that follow it. -/
theorem readPlain {c : Char} (h : IsWord (c :: cs)) (hc : c ≠ '#') {parent : Int} {rest blanks : List Char}
    {index line column : Nat} {broken : Bool} {after : Cursor} (hrest : Yaml.plainLength false rest = 0)
    (hblanks : readPlainBlanks ⟨rest, index + (cs.length + 1), line, column + (cs.length + 1), none⟩ =
      (blanks, broken, after))
    (hends : blanks = [] ∨ (after.column : Int) ≤ parent) :
    readPlain false parent ⟨c :: cs ++ rest, index, line, column, none⟩ = (⟨c :: cs, true, none⟩, broken, after) := by
  have hpeek : ((⟨c :: cs ++ rest, index, line, column, none⟩ : Cursor).peek == '#') = false :=
    beq_false_of_ne hc
  have hlength : Yaml.plainLength false (c :: cs ++ rest) = cs.length + 1 := h.plainLength hrest
  have htake : (c :: cs ++ rest).take (cs.length + 1) = c :: cs := by simp
  have hskip : (⟨c :: cs ++ rest, index, line, column, none⟩ : Cursor).skip (cs.length + 1) = _ :=
    h.skip rest index line column
  have hstops : (blanks.isEmpty || after.peek == '#' ||
      (!false && decide ((after.column : Int) < parent + 1))) = true := by
    rcases hends with rfl | hcolumn
    · rfl
    · simp [Int.lt_add_one_iff.2 hcolumn]
  rw [List.length_cons] at hskip
  rw [Yaml.readPlain, readPlainParts, hpeek]
  simp only [Bool.false_eq_true, if_false]
  rw [hlength, hskip, hblanks, htake, if_neg (by simp)]
  dsimp only
  rw [if_pos hstops, List.nil_append]

end IsWord

/-! ## Tokens in front -/

/-- The characters by which the reader tells what token is in front of it. -/
def tokenMarks : List Char :=
  ['-', '?', ':', ',', '[', ']', '\x7b', '\x7d', '#', '&', '*', '!', '|', '>', '\'', '"', '%', '@', '`', '.']

/-- Whether a character can only be the first one of a word. -/
def StartsWord (c : Char) : Prop :=
  isSeparator c = false ∧ c ∉ tokenMarks

namespace Lexer

variable {l l' found saved : Lexer} {p : Piece} {ps : List Piece}

theorem skipToToken_of_break {c behind : Cursor} (hspaces : l.cursor.skipSpaces.skipComment = c)
    (hbreak : isBreak c.peek = true) (hbehind : c.readBreak.2 = behind) (fuel : Nat) :
    skipToToken (fuel + 1) l = skipToToken fuel { l with cursor := behind, allowKey := l.allowKey || l.flow == 0 } := by
  subst hspaces hbehind
  rw [skipToToken]
  exact if_pos hbreak

theorem skipToToken_of_word {c : Cursor} (hspaces : l.cursor.skipSpaces.skipComment = c)
    (hword : isBreak c.peek = false) (fuel : Nat) : skipToToken (fuel + 1) l = { l with cursor := c } := by
  subst hspaces
  rw [skipToToken]
  exact if_neg (Bool.eq_false_iff.1 hword)

/-- A word in front is read as a scalar, which may be a key. -/
theorem next_of_word {c : Char} {x : Scalar} {broken : Bool} {after : Cursor}
    (hfound : (skipToToken (l.cursor.rest.length + 1) l).dropStaleKeys = .ok found)
    (hunwind : found.unwind found.cursor.column = found) (hpeek : found.cursor.peek = c) (hc : StartsWord c)
    (hsaved : found.saveKey = .ok saved)
    (hplain : readPlain (saved.flow > 0) saved.indent saved.cursor = (x, broken, after))
    (hafter : after.broken? = none) :
    l.next = .ok ({ saved with allowKey := broken }.pushUpTo (.scalar x) after) := by
  obtain ⟨hseparator, hmarks⟩ := hc
  have hend : isEnd c = false := by
    simp only [isSeparator, isSpaceOrBreak, isBreakOrEnd, Bool.or_eq_false_iff] at hseparator
    exact hseparator.2.2.1
  simp only [tokenMarks, List.mem_cons, not_or, List.not_mem_nil, not_false_eq_true, and_true] at hmarks
  have hindicator {d : Char} (hd : c ≠ d) : found.cursor.atIndicator d = false := by
    rw [Cursor.atIndicator, hpeek, beq_false_of_ne hd]
    rfl
  have hstarts : found.startsPlain = true := by
    simp [startsPlain, hpeek, hseparator, hmarks]
  have hread : l.readToken = .ok ({ saved with allowKey := broken }.pushUpTo (.scalar x) after) := by
    rw [readToken]
    dsimp only
    rw [hfound]
    simp [bind, Except.bind, pure, Except.pure, hunwind, hpeek, hend, hstarts, hmarks, hindicator, hsaved, hplain]
  rw [next, hread]
  simp only [bind, Except.bind, pushUpTo, hafter]
  rfl

/-- A colon in front of a separator is read as the sign of a value. -/
theorem next_of_colon (hfound : (skipToToken (l.cursor.rest.length + 1) l).dropStaleKeys = .ok found)
    (hunwind : found.unwind found.cursor.column = found) (hcolumn : found.cursor.column ≠ 0)
    (hpeek : found.cursor.peek = ':') (hseparator : isSeparator (found.cursor.peek 1) = true)
    (hvalue : found.valueIndicator = .ok l') (hafter : l'.cursor.broken? = none) : l.next = .ok l' := by
  have hend : isEnd ':' = false := rfl
  have hread : l.readToken = .ok l' := by
    rw [readToken]
    dsimp only
    rw [hfound]
    simp [bind, Except.bind, hunwind, hcolumn, hpeek, hend, hseparator, hvalue]
  rw [next, hread]
  simp only [bind, Except.bind, hafter]
  rfl

/-- At the end of the text every open block is closed. -/
theorem next_of_end {ended : Lexer} (hfound : (skipToToken (l.cursor.rest.length + 1) l).dropStaleKeys = .ok found)
    (hunwind : found.unwind found.cursor.column = ended) (hpeek : isEnd ended.cursor.peek = true)
    (hclosed : ended.closeAll = .ok saved) (hafter : saved.cursor.broken? = none) :
    l.next = .ok { (saved.pushHere .streamEnd) with keys := [], finished := true } := by
  have hread : l.readToken = .ok { (saved.pushHere .streamEnd) with keys := [], finished := true } := by
    rw [readToken]
    dsimp only
    rw [hfound]
    simp [bind, Except.bind, pure, Except.pure, hunwind, hpeek, hclosed]
  rw [next, hread]
  simp only [bind, Except.bind, pushHere, push, hafter]
  rfl

/-- With a token in front and no key to wait for, nothing is read on. -/
theorem fill_of_ready (htokens : l.tokens = p :: ps) (hkeys : l.keys = []) (fuel : Nat) :
    l.fill (fuel + 1) = .ok l := by
  have hstale : l.dropStaleKeys = .ok l := by
    rw [dropStaleKeys, hkeys]
    dsimp only [List.find?_nil, List.filter_nil]
    rw [← hkeys]
  rw [fill]
  simp [htokens, hstale, hkeys, bind, Except.bind, pure, Except.pure]

theorem fill_of_next (hfinished : l.finished = false) (hempty : l.tokens = []) (hnext : l.next = .ok l')
    (htokens : l'.tokens = p :: ps) (hkeys : l'.keys = []) (fuel : Nat) : l.fill (fuel + 2) = .ok l' := by
  rw [fill, hfinished, hempty, hnext, if_neg Bool.false_ne_true, if_pos List.isEmpty_nil]
  exact fill_of_ready htokens hkeys fuel

theorem fill_of_end (hfinished : l.finished = false) (hempty : l.tokens = []) (hnext : l.next = .ok l')
    (hend : l'.finished = true) (fuel : Nat) : l.fill (fuel + 2) = .ok l' := by
  have hrest : l'.fill (fuel + 1) = .ok l' := by
    rw [fill, if_pos hend]
    rfl
  rw [fill, hfinished, hempty, hnext, if_neg Bool.false_ne_true, if_pos List.isEmpty_nil]
  exact hrest

/-- A word that may be a key is not handed on before what is behind it is read too. -/
theorem fill_of_key (hfinished : l.finished = false) (hempty : l.tokens = []) (hword : l.next = .ok saved)
    (hopen : saved.finished = false) (hread : saved.tokens.isEmpty = false) (hstale : saved.dropStaleKeys = .ok saved)
    (hpending : (saved.keys.any fun k => k.2.number == saved.taken) = true) (hnext : saved.next = .ok l')
    (htokens : l'.tokens = p :: ps) (hkeys : l'.keys = []) (fuel : Nat) : l.fill (fuel + 3) = .ok l' := by
  have hrest : saved.fill (fuel + 2) = .ok l' := by
    rw [fill, hopen, hread, hstale]
    simp only [Bool.false_eq_true, if_false, bind, Except.bind, hpending, if_true, hnext]
    exact fill_of_ready htokens hkeys fuel
  rw [fill, hfinished, hempty, hword, if_neg Bool.false_ne_true, if_pos List.isEmpty_nil]
  exact hrest

end Lexer

end Transplant.Yaml
