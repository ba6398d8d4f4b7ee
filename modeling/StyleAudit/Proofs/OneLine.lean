import StyleAudit.Proofs.Source
import StyleAudit.Proofs.Substitution
import StyleAudit.Proofs.Template.Removal

/-!
# Texts on one line

Normalisation cuts a source into words and joins them with blanks, so markup is always on one line,
and so is whatever is cut out of a line.

- `Text.IsOneLine`: a text without a line feed; kept by parts, and by putting texts together.
- `Text.lines_terminated`: texts on one line, each followed by a line feed, are the lines again.
- `Template.hostToRoot_isOneLine`: turning hosts into the root adds no line feed.
- `Template.normalize_isOneLine`, `Template.isOneLine_of_unterminated`: markup is on one line, and
  so is what a failure of normalisation quotes.
-/

namespace StyleAudit

namespace Text

/-- A text without a line feed. -/
def IsOneLine (text : Text) : Prop := '\n' ∉ text

instance (text : Text) : Decidable text.IsOneLine :=
  inferInstanceAs (Decidable ('\n' ∉ text))

theorem isOneLine_append {a b : Text} : IsOneLine (a ++ b) ↔ a.IsOneLine ∧ b.IsOneLine := by
  rw [IsOneLine, List.mem_append, not_or]
  rfl

theorem IsOneLine.append {a b : Text} (ha : a.IsOneLine) (hb : b.IsOneLine) : IsOneLine (a ++ b) :=
  isOneLine_append.mpr ⟨ha, hb⟩

/-- For a text that is written out, its characters decide; no string has to be decoded. -/
theorem IsOneLine.ofList {characters : List Char} (h : '\n' ∉ characters := by decide) :
    IsOneLine (String.ofList characters).toList := by
  rw [String.toList_ofList]
  exact h

theorem IsOneLine.of_subset {part text : Text} (h : text.IsOneLine) (hpart : part ⊆ text) :
    part.IsOneLine :=
  fun hmem => h (hpart hmem)

theorem isOneLine_flatMap {α : Type} {f : α → Text} {xs : List α} (h : ∀ x ∈ xs, (f x).IsOneLine) :
    IsOneLine (xs.flatMap f) := by
  intro hmem
  obtain ⟨x, hx, hin⟩ := List.mem_flatMap.mp hmem
  exact h x hx hin

/-! ## Words, pieces and lines -/

theorem isOneLine_of_mem_words {text word : Text} (h : word ∈ words text) : word.IsOneLine :=
  (isWord_of_mem_words h).not_mem (by decide)

theorem isOneLine_of_mem_pieces {text piece : Text} (h : piece ∈ pieces (· == '\n') text) :
    piece.IsOneLine := by
  intro hmem
  cases not_break_of_mem_pieces h '\n' hmem

/-- A line is the start of a piece. -/
theorem exists_piece_of_mem_linesOfPieces {pieces : List Text} {line : Text}
    (h : line ∈ linesOfPieces pieces) : ∃ piece ∈ pieces, line <+: piece := by
  fun_induction linesOfPieces pieces with
  | case1 => cases h
  | case2 last hempty => cases h
  | case3 last hne => exact ⟨last, List.mem_cons_self, by rw [List.mem_singleton.mp h]⟩
  | case4 piece rest _ ih =>
    rcases List.mem_cons.mp h with rfl | hlater
    · exact ⟨piece, List.mem_cons_self, piece.chomp_lead⟩
    · obtain ⟨other, hother, hlead⟩ := ih hlater
      exact ⟨other, List.mem_cons_of_mem piece hother, hlead⟩

theorem isOneLine_of_mem_lines {text line : Text} (h : line ∈ lines text) : line.IsOneLine := by
  obtain ⟨piece, hpiece, hlead⟩ := exists_piece_of_mem_linesOfPieces h
  exact (isOneLine_of_mem_pieces hpiece).of_subset hlead.subset

theorem isOneLine_join {separator : Text} (hseparator : separator.IsOneLine) {texts : List Text}
    (h : ∀ text ∈ texts, text.IsOneLine) : (join separator texts).IsOneLine := by
  fun_induction join separator texts with
  | case1 => exact List.not_mem_nil
  | case2 only => exact h only List.mem_cons_self
  | case3 first rest _ ih =>
    obtain ⟨hfirst, hrest⟩ := List.forall_mem_cons.mp h
    exact .append (.append hfirst hseparator) (ih hrest)

/-- **Texts on one line, each followed by a line feed, are the lines again**, but for a carriage
return at their end. -/
theorem lines_terminated {texts : List Text} (h : ∀ text ∈ texts, text.IsOneLine) :
    lines (texts.flatMap (· ++ ['\n'])) = texts.map chomp := by
  induction texts with
  | nil => rfl
  | cons text rest ih =>
    obtain ⟨htext, hrest⟩ := List.forall_mem_cons.mp h
    have hfree : ∀ c ∈ text, (c == '\n') = false := by
      intro c hc
      rw [beq_eq_false_iff_ne]
      rintro rfl
      exact htext hc
    have hpieces : pieces (· == '\n') ((text :: rest).flatMap (· ++ ['\n'])) =
        text :: pieces (· == '\n') (rest.flatMap (· ++ ['\n'])) := by
      rw [List.flatMap_cons, List.append_assoc, List.singleton_append]
      apply pieces_of_free_append
      · rfl
      · exact hfree
    have hlines := ih hrest
    rw [lines] at hlines ⊢
    rw [hpieces]
    -- there is always one more piece, so the text was followed by a break
    cases hlater : pieces (· == '\n') (rest.flatMap (· ++ ['\n'])) with
    | nil => exact absurd hlater (pieces_ne_nil _ _)
    | cons piece others =>
      rw [hlater] at hlines
      rw [linesOfPieces, hlines, List.map_cons]
      exact List.cons_ne_nil _ _

end Text

/-- A line of a source is on one line. -/
theorem isOneLine_of_mem_lineIndex {source : Text} {line : Line}
    (h : line ∈ (LineIndex.ofText source).lines) : line.text.IsOneLine := by
  obtain ⟨piece, hpiece, hline⟩ := LineIndex.exists_piece_of_mem_numberFrom h
  rw [hline]
  exact (Text.isOneLine_of_mem_pieces hpiece).of_subset piece.chomp_lead.subset

namespace Template

/-! ## Host selectors -/

/-- What is closed stands before the parenthesis that closes it. -/
theorem closing?_eq_append {depth : Nat} {text inside rest : Text}
    (h : closing? depth text = some (inside, rest)) : text = inside ++ ')' :: rest := by
  fun_induction closing? depth text generalizing inside with
  | case1 => cases h
  | case3 cs =>
    cases h
    rfl
  | case2 _ _ ih | case4 _ _ ih | case5 _ _ _ _ _ _ ih =>
    simp only [Option.map_eq_some_iff, Prod.mk.injEq, Prod.exists] at h
    obtain ⟨inner, after, hclosing, rfl, rfl⟩ := h
    rw [ih hclosing]
    rfl

theorem hostCallsToRoot_isOneLine {word : Text} (h : word.IsOneLine) :
    (hostCallsToRoot word).IsOneLine := by
  have hroot : rootTag.IsOneLine := by decide
  fun_induction hostCallsToRoot word with
  | case1 word hcut => exact h
  | case2 word before inner hcut ihRest ihInner =>
    rw [Text.cut?_eq_append hcut] at h
    simp only [Text.isOneLine_append] at h
    obtain ⟨⟨hbefore, -⟩, hinner⟩ := h
    refine .append (.append hbefore hroot) ?_
    split
    · rename_i inside rest hclose
      rw [closing?_eq_append hclose, Text.isOneLine_append] at hinner
      have hrest : rest.IsOneLine := hinner.2.of_subset (List.subset_cons_self _ _)
      exact .append hinner.1 (ihRest inside rest hclose hrest)
    · exact ihInner hinner

/-- **Turning hosts into the root adds no line feed.** -/
theorem hostToRoot_isOneLine {word : Text} (h : word.IsOneLine) : (hostToRoot word).IsOneLine := by
  rw [hostToRoot]
  split
  · exact hostCallsToRoot_isOneLine h
  split
  · decide
  · have hhost : ":host".toList ≠ [] := by decide +kernel
    have hroot : rootTag.IsOneLine := by decide
    have hchars := (Text.replaceAll_substituted hhost rootTag word).forall_mem
      (fun c hc => ne_of_mem_of_not_mem hc hroot) (fun c hc => ne_of_mem_of_not_mem hc h)
    exact fun hmem => hchars '\n' hmem rfl

/-! ## Normalisation -/

/-- The words that a walk keeps are words of the page. -/
theorem Walk.subset {words stays : List Text} {i : Nat} {parts : Finset (Nat × Nat)}
    (h : Walk words i parts stays) : stays ⊆ words := by
  induction h with
  | start => exact List.nil_subset _
  | keep _ isWord _ ih =>
    refine List.append_subset.mpr ⟨ih, ?_⟩
    exact List.cons_subset.mpr ⟨List.mem_of_getElem? isWord, List.nil_subset _⟩
  | remove _ _ ih => exact ih

/-- **Markup is on one line.** -/
theorem normalize_isOneLine {source markup : Text} (h : normalize source = .ok markup) :
    markup.IsOneLine := by
  have hends := strip_ends (asPage source).words
  rw [normalize] at h
  cases hstrip : strip (asPage source).words with
  | error failure =>
    rw [hstrip] at h
    cases h
  | ok kept =>
    rw [hstrip] at h hends
    cases h
    obtain ⟨parts, stays, hwalk, rfl⟩ := hends
    refine Text.isOneLine_join (by decide) ?_
    intro text htext
    obtain ⟨word, hword, rfl⟩ := List.mem_map.mp htext
    exact hostToRoot_isOneLine (Text.isOneLine_of_mem_words (hwalk.subset hword))

/-- Each marker that closes a part is on one line. -/
theorem OpensAt.marker_isOneLine {words : List Text} {i : Nat} {construct : Construct}
    {marker : Text} (h : OpensAt words i construct marker) : marker.IsOneLine := by
  cases h <;> decide

/-- What is quoted of a part that is not closed is on one line. -/
theorem isOneLine_of_unterminated {source : Text} {failure : Unterminated}
    (h : normalize source = .error failure) :
    failure.opening.IsOneLine ∧ failure.expected.IsOneLine := by
  obtain ⟨i, -, -, -, hword, hopens, -⟩ := stuck_of_normalize h
  exact ⟨Text.isOneLine_of_mem_words (List.mem_of_getElem? hword), hopens.marker_isOneLine⟩

end Template

end StyleAudit
