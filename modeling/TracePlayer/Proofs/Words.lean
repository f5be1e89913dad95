import Mathlib.Data.List.TakeWhile
import TracePlayer.Text.Blank

/-!
# How a text is cut

Statements about the cuts of a trace: at its line feeds into pieces, and along white space into words. A piece holds no line
feed, and joining two texts by a line feed joins their pieces. White space at the ends of a line has no part in its words.
-/

namespace TracePlayer.Text

variable {s front back : List Char}

/-! ## Pieces -/

theorem piecesFrom_append (piece front back : List Char) :
    piecesFrom piece (front ++ '\n' :: back) = piecesFrom piece front ++ pieces back := by
  induction front generalizing piece with
  | nil => rfl
  | cons c rest ih =>
    rw [List.cons_append, piecesFrom, piecesFrom]
    split
    · rw [ih, List.cons_append]
    · exact ih (c :: piece)

/-- A line feed between two texts keeps their pieces apart. -/
theorem pieces_append (front back : List Char) : pieces (front ++ '\n' :: back) = pieces front ++ pieces back :=
  piecesFrom_append [] front back

theorem piecesFrom_of_not_mem (piece : List Char) (h : '\n' ∉ s) : piecesFrom piece s = [piece.reverse ++ s] := by
  induction s generalizing piece with
  | nil => rw [piecesFrom, List.append_nil]
  | cons c rest ih =>
    obtain ⟨hc, hrest⟩ := List.ne_and_not_mem_of_not_mem_cons h
    rw [piecesFrom, if_neg (Ne.symm hc), ih (c :: piece) hrest, List.reverse_cons, List.append_assoc]
    rfl

/-- A text without line feeds is one piece. -/
theorem pieces_of_not_mem (h : '\n' ∉ s) : pieces s = [s] := piecesFrom_of_not_mem [] h

theorem not_mem_of_mem_piecesFrom {piece line : List Char} (hpiece : '\n' ∉ piece) (h : line ∈ piecesFrom piece s) :
    '\n' ∉ line := by
  induction s generalizing piece with
  | nil =>
    rw [List.mem_singleton.1 h, List.mem_reverse]
    exact hpiece
  | cons c rest ih =>
    rw [piecesFrom] at h
    split at h
    · rcases List.mem_cons.1 h with rfl | h
      · rwa [List.mem_reverse]
      · exact ih List.not_mem_nil h
    · rename_i hc
      exact ih (List.not_mem_cons_of_ne_of_not_mem (Ne.symm hc) hpiece) h

/-- No piece holds a line feed. -/
theorem not_mem_of_mem_pieces {line : List Char} (h : line ∈ pieces s) : '\n' ∉ line :=
  not_mem_of_mem_piecesFrom List.not_mem_nil h

/-! ## The ends of a text -/

/-- White space behind a text is trimmed off. -/
theorem trimEnd_append_of_blank (hback : ∀ c ∈ back, isBlank c = true) : trimEnd (front ++ back) = trimEnd front := by
  have hdrop : back.reverse.dropWhile isBlank = [] := by
    rw [List.dropWhile_eq_nil_iff]
    exact fun c hc => hback c (List.mem_reverse.1 hc)
  rw [trimEnd, trimEnd, List.reverse_append, List.dropWhile_append, hdrop]
  rfl

theorem trim_append_of_blank (hback : ∀ c ∈ back, isBlank c = true) : trim (front ++ back) = trim front := by
  rw [trim, trim, List.dropWhile_append]
  split
  · rename_i hempty
    have hnil : front.dropWhile isBlank = [] := List.isEmpty_iff.1 hempty
    have hdrop : back.dropWhile isBlank = [] := List.dropWhile_eq_nil_iff.2 hback
    rw [hnil, hdrop]
  · exact trimEnd_append_of_blank hback

/-- What is trimmed off at the end of a text is white space. -/
theorem trimEnd_append (s : List Char) : ∃ back, s = trimEnd s ++ back ∧ ∀ c ∈ back, isBlank c = true := by
  refine ⟨(s.reverse.takeWhile isBlank).reverse, ?_, fun c hc => ?_⟩
  · rw [trimEnd, ← List.reverse_append, List.takeWhile_append_dropWhile, List.reverse_reverse]
  · exact List.mem_takeWhile_imp (List.mem_reverse.1 hc)

/-- What is left out at the end of a line is carriage returns. -/
theorem dropReturns_append (s : List Char) : ∃ back, s = dropReturns s ++ back ∧ ∀ c ∈ back, c = '\r' := by
  refine ⟨(s.reverse.takeWhile (· == '\r')).reverse, ?_, fun c hc => ?_⟩
  · rw [dropReturns, ← List.reverse_append, List.takeWhile_append_dropWhile, List.reverse_reverse]
  · have hret : (c == '\r') = true := List.mem_takeWhile_imp (p := (· == '\r')) (List.mem_reverse.1 hc)
    exact beq_iff_eq.1 hret

/-- Carriage returns at the end are white space at the end. -/
theorem trim_dropReturns (s : List Char) : trim (dropReturns s) = trim s := by
  obtain ⟨back, hs, hback⟩ := dropReturns_append s
  have hblank : ∀ c ∈ back, isBlank c = true := by
    intro c hc
    rw [hback c hc]
    decide
  calc trim (dropReturns s) = trim (dropReturns s ++ back) := (trim_append_of_blank hblank).symm
    _ = trim s := congrArg trim hs.symm

/-- One more carriage return at the end is left out as well. -/
theorem dropReturns_snoc (s : List Char) : dropReturns (s ++ ['\r']) = dropReturns s := by
  rw [dropReturns, List.reverse_append]
  rfl

theorem trimEnd_eq_nil_iff : trimEnd s = [] ↔ ∀ c ∈ s, isBlank c = true := by
  rw [trimEnd, List.reverse_eq_nil_iff, List.dropWhile_eq_nil_iff]
  exact forall_congr' fun c => by rw [List.mem_reverse]

/-- Nothing is left of a text of white space, and only of that. -/
theorem trim_eq_nil_iff : trim s = [] ↔ ∀ c ∈ s, isBlank c = true := by
  rw [trim, trimEnd_eq_nil_iff]
  constructor
  · intro h c hc
    rw [← List.takeWhile_append_dropWhile (p := isBlank) (l := s)] at hc
    rcases List.mem_append.1 hc with hc | hc
    · exact List.mem_takeWhile_imp hc
    · exact h c hc
  · exact fun h c hc => h c ((List.dropWhile_sublist _).subset hc)

/-- A text that begins and ends with other characters than white space is trimmed already. -/
theorem trim_of_ends {first last : Char} (hfirst : s.head? = some first) (hlast : s.getLast? = some last)
    (hf : isBlank first = false) (hl : isBlank last = false) : trim s = s := by
  obtain ⟨rest, rfl⟩ := List.head?_eq_some_iff.1 hfirst
  have hdrop : (first :: rest).dropWhile isBlank = first :: rest := by rw [List.dropWhile_cons, hf]; rfl
  obtain ⟨rest', hrest'⟩ := List.getLast?_eq_some_iff.1 hlast
  rw [trim, hdrop, hrest', trimEnd, List.reverse_append, List.reverse_singleton, List.singleton_append,
    List.dropWhile_cons, hl]
  simp

/-- A trimmed text does not begin with white space. -/
theorem not_isBlank_of_trim {c : Char} {rest : List Char} (h : trim s = c :: rest) : isBlank c = false := by
  obtain ⟨back, hs, -⟩ := trimEnd_append (s.dropWhile isBlank)
  rw [show trimEnd (s.dropWhile isBlank) = c :: rest from h] at hs
  have hne : s.dropWhile isBlank ≠ [] := by
    rw [hs]
    exact List.cons_ne_nil _ _
  have hhead := List.head_dropWhile_not isBlank hne
  simpa only [hs, List.cons_append, List.head_cons] using hhead

/-! ## Words -/

/-- A word that is being read ends where white space begins. -/
theorem wordsFrom_append_of_blank (word : List Char) (hback : ∀ c ∈ back, isBlank c = true) :
    wordsFrom word (front ++ back) = wordsFrom word front := by
  induction front generalizing word with
  | nil =>
    induction back generalizing word with
    | nil => rfl
    | cons c rest ih =>
      obtain ⟨hc, hrest⟩ := List.forall_mem_cons.1 hback
      have hnone : wordsFrom [] rest = [] := ih hrest []
      simp only [List.nil_append, wordsFrom, if_pos hc, hnone]
  | cons c rest ih =>
    rw [List.cons_append, wordsFrom, wordsFrom]
    simp only [ih]

theorem words_dropWhile (s : List Char) : words (s.dropWhile isBlank) = words s := by
  induction s with
  | nil => rfl
  | cons c rest ih =>
    rw [List.dropWhile_cons]
    split
    · rename_i hc
      rw [ih, words, words, wordsFrom, if_pos hc]
      rfl
    · rfl

/-- White space at the ends has no part in the words of a text. -/
theorem words_trim (s : List Char) : words (trim s) = words s := by
  obtain ⟨back, hs, hback⟩ := trimEnd_append (s.dropWhile isBlank)
  calc words (trim s) = words (trim s ++ back) := (wordsFrom_append_of_blank [] hback).symm
    _ = words (s.dropWhile isBlank) := congrArg words hs.symm
    _ = words s := words_dropWhile s

/-- A word that has been begun goes on up to the next white space. -/
theorem wordsFrom_of_ne_nil {word : List Char} (hword : word ≠ []) (s : List Char) :
    wordsFrom word s = (word.reverse ++ s.takeWhile (!isBlank ·)) :: words (s.dropWhile (!isBlank ·)).tail := by
  have hempty : word.isEmpty = false := List.isEmpty_eq_false_iff.2 hword
  induction s generalizing word with
  | nil =>
    rw [wordsFrom, hempty]
    simp [words, wordsFrom]
  | cons c rest ih =>
    rw [wordsFrom, List.takeWhile_cons, List.dropWhile_cons]
    cases hc : isBlank c with
    | true => simp [hempty, words]
    | false =>
      simp only [Bool.false_eq_true, if_false, Bool.not_false, if_true]
      rw [ih (List.cons_ne_nil c word) rfl]
      simp

/-- The first word of a text that begins with one, and the words behind it. -/
theorem words_cutAtBlank {c : Char} {rest : List Char} (hc : isBlank c = false) :
    words (c :: rest) = (cutAtBlank (c :: rest)).1 :: words (cutAtBlank (c :: rest)).2 := by
  rw [words, wordsFrom, hc, if_neg Bool.false_ne_true, wordsFrom_of_ne_nil (List.cons_ne_nil c [])]
  simp [cutAtBlank, hc]

end TracePlayer.Text
