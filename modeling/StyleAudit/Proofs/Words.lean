import StyleAudit.Proofs.Text

/-!
# Words and separators

A text falls apart at its separators, and what does not hold a separator stays in one piece.

- `Text.pieces_append`, `Text.words_append`: pieces and words on both sides of a separator.
- `Text.separated_induction`: texts are built up piece by piece.
- `Text.IsWord`, `Text.words_induction`: what a word is, and texts as built up word by word.
- `Text.occurrence_append`, `Text.part_append_iff`: a part without the separator stands on one side
  of it.
- `Text.part_words_iff`: a part without blanks stands in a word.
- `Text.exists_words_around`, `Text.exists_split_of_words`: the word around a part with the words
  after it, and the place of a word.
- `Text.words_join_lines`: cutting a text into lines and joining them again leaves its words alone.
-/

namespace StyleAudit.Text

/-! ## Pieces -/

section

variable {isBreak : Char → Bool}

theorem pieces_ne_nil (isBreak : Char → Bool) (text : Text) : pieces isBreak text ≠ [] := by
  fun_cases pieces isBreak text <;> simp

/-- **The pieces of a text are those on both sides of a separator.** -/
theorem pieces_append {c : Char} (hc : isBreak c = true) (a b : Text) :
    pieces isBreak (a ++ c :: b) = pieces isBreak a ++ pieces isBreak b := by
  induction a with
  | nil =>
    show (if isBreak c = true then _ else _) = _
    rw [if_pos hc]
    rfl
  | cons d ds ih =>
    rw [List.cons_append, pieces, pieces, ih]
    by_cases hd : isBreak d = true
    · rw [if_pos hd, if_pos hd, List.cons_append]
    · rw [if_neg hd, if_neg hd]
      cases hpieces : pieces isBreak ds with
      | nil => exact absurd hpieces (pieces_ne_nil isBreak ds)
      | cons piece others => rfl

/-- A text without separators is one piece. -/
theorem pieces_of_free {text : Text} (h : ∀ c ∈ text, isBreak c = false) :
    pieces isBreak text = [text] := by
  induction text with
  | nil => rfl
  | cons c cs ih =>
    obtain ⟨hc, hcs⟩ := List.forall_mem_cons.mp h
    rw [pieces, if_neg (by simp [hc]), ih hcs]

/-- A text without separators before a separator is the first piece. -/
theorem pieces_of_free_append {c : Char} (hc : isBreak c = true) {piece : Text}
    (h : ∀ d ∈ piece, isBreak d = false) (rest : Text) :
    pieces isBreak (piece ++ c :: rest) = piece :: pieces isBreak rest := by
  rw [pieces_append hc, pieces_of_free h, List.singleton_append]

/-- Texts are built up from texts without separators. -/
theorem separated_induction (isBreak : Char → Bool) {motive : Text → Prop}
    (free : ∀ piece, (∀ c ∈ piece, isBreak c = false) → motive piece)
    (separated : ∀ piece c rest, (∀ d ∈ piece, isBreak d = false) → isBreak c = true →
      motive rest → motive (piece ++ c :: rest)) (text : Text) : motive text := by
  induction hlength : text.length using Nat.strongRecOn generalizing text with
  | ind length ih =>
    subst hlength
    have hpiece : ∀ c ∈ text.takeWhile (fun c => !isBreak c), isBreak c = false := by
      intro c hc
      have hfree := List.all_eq_true.mp (List.all_takeWhile (p := fun c => !isBreak c)) c hc
      simpa using hfree
    have hsplit := List.takeWhile_append_dropWhile (p := fun c => !isBreak c) (l := text)
    cases hrest : text.dropWhile (fun c => !isBreak c) with
    | nil =>
      rw [hrest, List.append_nil] at hsplit
      rw [← hsplit]
      exact free _ hpiece
    | cons c rest =>
      have hc : isBreak c = true := by
        have hstop := List.head?_dropWhile_not (fun c => !isBreak c) text
        rw [hrest] at hstop
        simpa using hstop
      have hlt : rest.length < text.length := by
        rw [hrest] at hsplit
        rw [← hsplit, List.length_append, List.length_cons]
        omega
      rw [hrest] at hsplit
      rw [← hsplit]
      exact separated _ c rest hpiece hc (ih rest.length hlt rest rfl)

/-- There are no separators in a piece. -/
theorem not_break_of_mem_pieces {text piece : Text} (h : piece ∈ pieces isBreak text) :
    ∀ c ∈ piece, isBreak c = false := by
  induction text using separated_induction isBreak with
  | free only hfree =>
    rw [pieces_of_free hfree, List.mem_singleton] at h
    rwa [h]
  | separated first c rest hfree hc ih =>
    rw [pieces_of_free_append hc hfree, List.mem_cons] at h
    rcases h with rfl | hlater
    · exact hfree
    · exact ih hlater

end

/-! ## Words -/

@[simp] theorem words_nil : words [] = [] := rfl

/-- **The words of a text are those on both sides of a blank.** -/
theorem words_append {c : Char} (hc : isBlank c = true) (a b : Text) :
    words (a ++ c :: b) = words a ++ words b := by
  rw [words, pieces_append hc, List.filter_append]
  rfl

/-- A word: there is something in it, and no blank. -/
def IsWord (text : Text) : Prop := text ≠ [] ∧ ∀ c ∈ text, isBlank c = false

instance (text : Text) : Decidable (IsWord text) :=
  decidable_of_iff (text.isEmpty = false ∧ text.all (fun c => !isBlank c) = true)
    (by simp [IsWord])

theorem IsWord.not_mem {word : Text} (h : IsWord word) {c : Char} (hc : isBlank c = true) :
    c ∉ word := by
  intro hmem
  rw [h.2 c hmem] at hc
  cases hc

/-- A word is the only one it has. -/
theorem IsWord.words_eq {word : Text} (h : IsWord word) : words word = [word] := by
  rw [words, pieces_of_free h.2, List.filter_cons_of_pos (by simpa using h.1), List.filter_nil]

theorem isWord_of_mem_words {text word : Text} (h : word ∈ words text) : IsWord word := by
  obtain ⟨hpiece, hne⟩ := List.mem_filter.mp h
  exact ⟨by simpa using hne, not_break_of_mem_pieces hpiece⟩

/-- Texts are built up from words. -/
theorem words_induction {motive : Text → Prop} (nil : motive [])
    (word : ∀ word, IsWord word → motive word)
    (blank : ∀ front c rest, isBlank c = true → motive front → motive rest →
      motive (front ++ c :: rest)) (text : Text) : motive text := by
  -- between two blanks there is a word or nothing
  have hpiece : ∀ piece : Text, (∀ c ∈ piece, isBlank c = false) → motive piece := by
    intro piece hfree
    by_cases hne : piece = []
    · rwa [hne]
    · exact word piece ⟨hne, hfree⟩
  induction text using separated_induction isBlank with
  | free piece hfree => exact hpiece piece hfree
  | separated piece c rest hfree hc ih => exact blank piece c rest hc (hpiece piece hfree) ih

/-! ## Parts on one side of a separator -/

/-- An occurrence of a part without the separator is on one side of it. -/
theorem occurrence_append {part a b before after : Text} {c : Char} (hc : c ∉ part)
    (h : a ++ c :: b = before ++ part ++ after) :
    (∃ rest, a = before ++ part ++ rest ∧ after = rest ++ c :: b) ∨
      ∃ rest, before = a ++ c :: rest ∧ b = rest ++ part ++ after := by
  rcases List.append_eq_append_iff.mp h with ⟨rest, hfront, hback⟩ | ⟨rest, rfl, hback⟩
  · cases rest with
    | nil =>
      rw [List.append_nil] at hfront
      exact .inl ⟨[], by rw [List.append_nil, hfront], hback.symm⟩
    | cons d rest =>
      obtain ⟨rfl, rfl⟩ := List.cons.inj hback
      -- the separator is before the part, so the part is after it
      rcases List.append_eq_append_iff.mp hfront with ⟨middle, -, hpart⟩ | ⟨middle, rfl, hrest⟩
      · exact absurd (by simp [hpart]) hc
      · cases middle with
        | nil =>
          rw [List.nil_append] at hrest
          exact absurd (by simp [← hrest]) hc
        | cons d middle =>
          obtain ⟨rfl, rfl⟩ := List.cons.inj hrest
          exact .inr ⟨middle, rfl, rfl⟩
  · exact .inl ⟨rest, rfl, hback⟩

/-- A part without the separator stands on one side of it. -/
theorem part_append_iff {part a b : Text} {c : Char} (hc : c ∉ part) :
    part <:+: a ++ c :: b ↔ part <:+: a ∨ part <:+: b := by
  constructor
  · rintro ⟨before, after, h⟩
    rcases occurrence_append hc h.symm with ⟨rest, rfl, -⟩ | ⟨rest, -, rfl⟩
    · exact .inl ⟨before, rest, rfl⟩
    · exact .inr ⟨rest, after, rfl⟩
  · rintro (h | h)
    · exact h.trans (List.prefix_append _ _).isInfix
    · exact h.trans ((List.suffix_cons c b).isInfix.trans (List.suffix_append _ _).isInfix)

/-- No occurrence of a part starts among characters that it does not start with. -/
theorem occurrence_after {part front rest before after : Text} (hne : part ≠ [])
    (hfront : ∀ c ∈ part.head?, c ∉ front) (h : front ++ rest = before ++ part ++ after) :
    ∃ gap, before = front ++ gap ∧ rest = gap ++ part ++ after := by
  rw [List.append_assoc] at h
  rcases List.append_eq_append_iff.mp h with ⟨gap, rfl, hrest⟩ | ⟨gap, rfl, hrest⟩
  · exact ⟨gap, rfl, by rw [hrest, List.append_assoc]⟩
  · cases gap with
    | nil => exact ⟨[], by simp, by simpa using hrest.symm⟩
    | cons c gap =>
      cases part with
      | nil => exact absurd rfl hne
      | cons p ps =>
        obtain ⟨rfl, -⟩ := List.cons.inj hrest
        exact absurd (by simp) (hfront p rfl)

/-- No part starts among characters that it does not start with. -/
theorem part_of_append {part front rest : Text} (hne : part ≠ [])
    (hfront : ∀ c ∈ part.head?, c ∉ front) (h : part <:+: front ++ rest) : part <:+: rest := by
  obtain ⟨before, after, happend⟩ := h
  obtain ⟨gap, -, rfl⟩ := occurrence_after hne hfront happend.symm
  exact ⟨gap, after, rfl⟩

/-- **A part without blanks stands in a word.** -/
theorem part_words_iff {part : Text} (h : IsWord part) (text : Text) :
    part <:+: text ↔ ∃ word ∈ words text, part <:+: word := by
  induction text using words_induction with
  | nil => simp [List.infix_nil, h.1]
  | word word hword => simp [hword.words_eq]
  | blank front c rest hc hfront hrest =>
    rw [part_append_iff (h.not_mem hc), words_append hc, hfront, hrest]
    simp only [List.mem_append, or_and_right, exists_or]

/-! ## Words around a part -/

/-- A word with more characters around it that are no blanks is a word. -/
theorem IsWord.extend {part head tail : Text} (h : IsWord part)
    (hhead : ∀ c ∈ head, isBlank c = false) (htail : ∀ c ∈ tail, isBlank c = false) :
    IsWord (head ++ part ++ tail) := by
  refine ⟨by simp [h.1], fun c hc => ?_⟩
  simp only [List.mem_append] at hc
  rcases hc with (hc | hc) | hc
  · exact hhead c hc
  · exact h.2 c hc
  · exact htail c hc

/-- The words after the one that goes on at the start of a text. -/
def wordsAfter (text : Text) : List Text := words (text.dropWhile fun c => !isBlank c)

theorem wordsAfter_of_free {text : Text} (h : ∀ c ∈ text, isBlank c = false) :
    wordsAfter text = [] := by
  have hnone : (text ++ []).dropWhile (fun c => !isBlank c) = [] :=
    List.dropWhile_append_of_pos fun c hc => by simp [h c hc]
  rw [List.append_nil] at hnone
  rw [wordsAfter, hnone, words_nil]

theorem wordsAfter_append {c : Char} (hc : isBlank c = true) (a b : Text) :
    wordsAfter (a ++ c :: b) = wordsAfter a ++ words b := by
  have hstop : (c :: b).dropWhile (fun d => !isBlank d) = c :: b :=
    List.dropWhile_cons_of_neg (by simp [hc])
  rw [wordsAfter, List.dropWhile_append, hstop]
  split
  · rename_i hfree
    rw [wordsAfter, List.isEmpty_iff.mp hfree, words_nil]
    exact words_append hc [] b
  · exact words_append hc _ b

/-- **Where a part without blanks stands, a word stands around it.** The words before that word are
words of what precedes the part. -/
theorem exists_words_around {part : Text} (h : IsWord part) (before after : Text) :
    ∃ front head tail,
      words (before ++ part ++ after) = front ++ (head ++ part ++ tail) :: wordsAfter after ∧
      ∀ word ∈ front, word ∈ words before := by
  induction before using separated_induction isBlank with
  | free head hhead =>
    -- the word ends with the text, or at the first blank after the part
    induction after using separated_induction isBlank with
    | free tail htail =>
      refine ⟨[], head, tail, ?_, by simp⟩
      rw [wordsAfter_of_free htail, (h.extend hhead htail).words_eq, List.nil_append]
    | separated tail c rest htail hc _ =>
      refine ⟨[], head, tail, ?_, by simp⟩
      rw [wordsAfter_append hc, wordsAfter_of_free htail, ← List.append_assoc, words_append hc,
        (h.extend hhead htail).words_eq]
      rfl
  | separated piece c rest hpiece hc ih =>
    obtain ⟨front, head, tail, hwords, hfront⟩ := ih
    refine ⟨words piece ++ front, head, tail, ?_, ?_⟩
    · have hsplit : piece ++ c :: rest ++ part ++ after =
          piece ++ c :: (rest ++ part ++ after) := by simp
      rw [hsplit, words_append hc, hwords, ← List.append_assoc (words piece)]
    · intro word hword
      rw [words_append hc, List.mem_append]
      exact (List.mem_append.mp hword).imp_right (hfront word)

/-- **Each word of a text stands in it**, with the later words after it. -/
theorem exists_split_of_words {text word : Text} {front later : List Text}
    (h : words text = front ++ word :: later) :
    ∃ before after, text = before ++ word ++ after ∧ wordsAfter after = later := by
  induction text using words_induction generalizing front later with
  | nil => simp at h
  | word only honly =>
    rw [honly.words_eq] at h
    cases front with
    | nil =>
      cases h
      exact ⟨[], [], by simp, rfl⟩
    | cons first rest => simp at h
  | blank a c b hc iha ihb =>
    rw [words_append hc] at h
    rcases List.append_eq_append_iff.mp h with ⟨more, rfl, hb⟩ | ⟨more, ha, hlater⟩
    · obtain ⟨before, after, rfl, hafter⟩ := ihb hb
      exact ⟨a ++ c :: before, after, by simp, hafter⟩
    · cases more with
      | nil =>
        have hb : words b = [] ++ word :: later := hlater.symm
        obtain ⟨before, after, rfl, hafter⟩ := ihb hb
        exact ⟨a ++ c :: before, after, by simp, hafter⟩
      | cons first rest =>
        obtain ⟨rfl, rfl⟩ := List.cons.inj hlater
        obtain ⟨before, after, rfl, hafter⟩ := iha ha
        refine ⟨before, after ++ c :: b, by simp, ?_⟩
        rw [wordsAfter_append hc, hafter]
        rfl

/-! ## Lines -/

/-- The words of a text are those of its pieces, if it is cut at blanks. -/
theorem words_pieces {isBreak : Char → Bool} (h : ∀ c, isBreak c = true → isBlank c = true)
    (text : Text) : (pieces isBreak text).flatMap words = words text := by
  induction text using separated_induction isBreak with
  | free piece hpiece => rw [pieces_of_free hpiece, List.flatMap_singleton]
  | separated piece c rest hpiece hc ih =>
    rw [pieces_append hc, List.flatMap_append, ih, pieces_of_free hpiece, List.flatMap_singleton,
      words_append (h c hc)]

theorem words_chomp (text : Text) : words (chomp text) = words text := by
  unfold chomp
  split
  · rename_i rest hreverse
    have htext : text = rest.reverse ++ ['\r'] := by
      rw [← text.reverse_reverse, hreverse, List.reverse_cons]
    rw [htext, words_append rfl, words_nil, List.append_nil]
  · rfl

theorem words_linesOfPieces (pieces : List Text) :
    (linesOfPieces pieces).flatMap words = pieces.flatMap words := by
  fun_induction linesOfPieces pieces with
  | case1 => rfl
  | case2 last hempty => simp_all
  | case3 last hne => rfl
  | case4 piece rest _ ih => rw [List.flatMap_cons, List.flatMap_cons, ih, words_chomp]

/-- The words of a text are those of its lines. -/
theorem words_lines (text : Text) : (lines text).flatMap words = words text := by
  rw [lines, words_linesOfPieces, words_pieces]
  intro c hc
  rw [beq_iff_eq] at hc
  rw [hc]
  rfl

theorem words_join {separator : Char} (h : isBlank separator = true) (texts : List Text) :
    words (join [separator] texts) = texts.flatMap words := by
  fun_induction join [separator] texts with
  | case1 => rfl
  | case2 only => rw [List.flatMap_singleton]
  | case3 first rest _ ih =>
    rw [List.append_assoc, List.singleton_append, words_append h, ih, List.flatMap_cons]

/-- Cutting a text into lines and joining them again leaves its words alone. -/
theorem words_join_lines (text : Text) : words (join ['\n'] (lines text)) = words text := by
  rw [words_join rfl, words_lines]

end StyleAudit.Text
