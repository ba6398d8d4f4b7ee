import StyleAudit.Proofs.Locate.Exactness
import StyleAudit.Proofs.Template.Layout

/-!
# Where an unterminated part is reported

The failure of normalisation names the word that opens a part which no later word closes, but not
where that word stands, so its text is searched again from the start of the source. It may stand
there before: in a part of the same kind that is closed, or inside of a longer word. So what is
reported is left open exactly if no word after the first one with the text in it closes it.

- `UnclosedAt`, `exists_unclosedAt`: an opening that nothing closes, and that there is one.
- `ReportsUnclosed`: a span covers such an opening.
- `firstOccurrence_covers_iff`: what the span of a first occurrence covers.
- `wordsAfterFirst`: the words after the first one that holds a text.
- `failureDiagnostic_reportsUnclosed_iff`: which failures are reported at such an opening.
-/

namespace StyleAudit.Locate

open Template (Unterminated Stuck)

/-! ## Openings that nothing closes -/

/-- The opening of a failure stands between two texts, and no word after the one that it stands in
holds the marker that would close it. -/
structure UnclosedAt (source : Text) (cause : Unterminated) (before after : Text) : Prop where
  stands : source = before ++ cause.opening ++ after
  unclosed : ∀ word ∈ Text.wordsAfter after, ¬ cause.expected <:+: word

/-- A span covers an opening that nothing closes. -/
def ReportsUnclosed (source : Text) (cause : Unterminated) (span : Span) : Prop :=
  ∃ before after, UnclosedAt source cause before after ∧
    span.start.toNat = before.bytes ∧ span.stop.toNat = Text.bytes (before ++ cause.opening)

/-- Where normalisation fails, there is an opening that nothing closes. -/
theorem exists_unclosedAt {source : Text} {cause : Unterminated} (h : Stuck source.words cause) :
    ∃ before after, UnclosedAt source cause before after := by
  obtain ⟨k, -, -, -, hword, -, hnone⟩ := h
  obtain ⟨hlt, hget⟩ := List.getElem?_eq_some_iff.mp hword
  have hwords : source.words =
      source.words.take k ++ cause.opening :: source.words.drop (k + 1) := by
    rw [← hget, List.getElem_cons_drop, List.take_append_drop]
  obtain ⟨before, after, hsource, hafter⟩ := Text.exists_split_of_words hwords
  refine ⟨before, after, hsource, fun word hmem hholds => ?_⟩
  rw [hafter] at hmem
  obtain ⟨j, hj⟩ := List.mem_iff_getElem?.mp hmem
  rw [List.getElem?_drop] at hj
  exact hnone (k + 1 + j) (by omega) ⟨word, hj, hholds⟩

/-! ## The first occurrence -/

/-- The span of the first occurrence covers no other one, and that one iff its offsets fit into 32
bits. -/
theorem firstOccurrence_covers_iff {source part first rest before after : Text}
    (hcut : Text.cut? part source = some (first, rest))
    (hsource : source = before ++ part ++ after) :
    (firstOccurrence source part).start.toNat = before.bytes ∧
        (firstOccurrence source part).stop.toNat = Text.bytes (before ++ part) ↔
      before = first ∧ Text.bytes (first ++ part) < UInt32.size := by
  have hoffset : Text.offsetOf? part source = some first.bytes := by
    rw [Text.offsetOf?, hcut]
    rfl
  have hspan : firstOccurrence source part =
      .ofOffsets first.bytes (Text.bytes (first ++ part)) := by
    rw [firstOccurrence, hoffset, Text.bytes_append]
  have hstart : (firstOccurrence source part).start.toNat = first.bytes % UInt32.size := by
    rw [hspan]
    exact UInt32.toNat_ofNat
  have hstop : (firstOccurrence source part).stop.toNat =
      Text.bytes (first ++ part) % UInt32.size := by
    rw [hspan]
    exact UInt32.toNat_ofNat
  rw [hstart, hstop]
  constructor
  · rintro ⟨hbefore, hthrough⟩
    -- the first occurrence is not after the other one, and wrapping only moves it to the front
    obtain ⟨gap, rfl⟩ := Text.lead_of_cut? hcut hsource
    have hle := Nat.mod_le first.bytes UInt32.size
    have hlt : Text.bytes (first ++ part) % UInt32.size < UInt32.size := Nat.mod_lt _ (by decide)
    rw [Text.bytes_append] at hbefore
    have hgap : gap = [] := by
      by_contra hne
      have hpos := Text.bytes_pos hne
      omega
    subst hgap
    rw [List.append_nil] at hthrough ⊢
    exact ⟨rfl, by omega⟩
  · rintro ⟨rfl, hlt⟩
    have hle : before.bytes ≤ Text.bytes (before ++ part) := by
      rw [Text.bytes_append]
      exact Nat.le_add_right _ _
    exact ⟨Nat.mod_eq_of_lt (Nat.lt_of_le_of_lt hle hlt), Nat.mod_eq_of_lt hlt⟩

/-- The words after the first one that holds a part. -/
def wordsAfterFirst (part : Text) (words : List Text) : List Text :=
  (words.dropWhile fun word => !Text.contains part word).tail

/-- The first occurrence of a part without blanks stands in the first word that holds it. -/
theorem wordsAfterFirst_eq {source part first rest : Text} (hpart : part.IsWord)
    (hcut : Text.cut? part source = some (first, rest)) :
    wordsAfterFirst part source.words = Text.wordsAfter rest := by
  obtain ⟨front, head, tail, hwords, hfront⟩ := Text.exists_words_around hpart first rest
  rw [← Text.cut?_eq_append hcut] at hwords
  have hbefore : ∀ word ∈ front, (!Text.contains part word) = true := by
    intro word hword
    rw [Bool.not_eq_true', ← Bool.not_eq_true, Text.contains_iff]
    intro hholds
    refine Text.not_part_before_cut hpart.1 hcut ?_
    exact (Text.part_words_iff hpart first).mpr ⟨word, hfront word hword, hholds⟩
  have hholder : Text.contains part (head ++ part ++ tail) = true :=
    Text.contains_iff.mpr ⟨head, tail, rfl⟩
  rw [wordsAfterFirst, hwords, List.dropWhile_append_of_pos hbefore,
    List.dropWhile_cons_of_neg (by rw [hholder]; decide), List.tail_cons]

/-! ## Failures -/

/-- **A failure is reported at an opening that nothing closes iff nothing closes the first one that
reads like it.** A source without tags that are substituted, and without mixins that are applied,
always has an opening that nothing closes if it cannot be normalised. The reported span covers one
iff the offsets of some occurrence fit into 32 bits, and no word after the first one with the text
of the opening holds the marker. -/
theorem failureDiagnostic_reportsUnclosed_iff {source : Text} {cause : Unterminated}
    (happly : ¬ Template.applyMarker <:+: source) (hwrapper : ¬ Template.wrapperTag <:+: source)
    (hopen : ¬ "<template".toList <:+: source) (hclose : ¬ "</template".toList <:+: source)
    (h : Template.normalize source = .error cause) :
    (∃ before after, UnclosedAt source cause before after) ∧
    (ReportsUnclosed source cause (failureDiagnostic source (.template cause)).span ↔
      (∃ before after, source = before ++ cause.opening ++ after ∧
        Text.bytes (before ++ cause.opening) < UInt32.size) ∧
      ∀ word ∈ wordsAfterFirst cause.opening source.words, ¬ cause.expected <:+: word) := by
  have hstuck := Template.stuck_of_normalize h
  rw [Template.pageWords_eq_words happly hwrapper hopen hclose] at hstuck
  have hunclosed := exists_unclosedAt hstuck
  refine ⟨hunclosed, ?_⟩
  have hopening : cause.opening.IsWord := by
    obtain ⟨k, -, -, -, hword, -⟩ := hstuck
    exact Text.isWord_of_mem_words (List.mem_of_getElem? hword)
  obtain ⟨⟨first, rest⟩, hcut⟩ : ∃ sides, Text.cut? cause.opening source = some sides := by
    obtain ⟨before, after, hsource, -⟩ := hunclosed
    rw [hsource]
    exact Option.isSome_iff_exists.mp (Text.cut?_isSome_of_append before)
  rw [wordsAfterFirst_eq hopening hcut]
  have hfirst := Text.cut?_eq_append hcut
  show ReportsUnclosed source cause (firstOccurrence source cause.opening) ↔ _
  constructor
  · rintro ⟨before, after, ⟨hsource, hnone⟩, hcovers⟩
    obtain ⟨rfl, hfits⟩ := (firstOccurrence_covers_iff hcut hsource).mp hcovers
    have hafter : after = rest := List.append_cancel_left (hsource.symm.trans hfirst)
    subst hafter
    exact ⟨⟨before, after, hsource, hfits⟩, hnone⟩
  · rintro ⟨⟨before, after, hsource, hfits⟩, hnone⟩
    obtain ⟨gap, rfl⟩ := Text.lead_of_cut? hcut hsource
    simp only [Text.bytes_append] at hfits
    have hfirstFits : Text.bytes (first ++ cause.opening) < UInt32.size := by
      rw [Text.bytes_append]
      omega
    refine ⟨first, rest, ⟨hfirst, hnone⟩, ?_⟩
    exact (firstOccurrence_covers_iff hcut hfirst).mpr ⟨rfl, hfirstFits⟩

/-- A script that nothing closes, after markup. -/
theorem failureDiagnostic_reportsUnclosed_script :
    (failureDiagnostic "<p></p>\n<script>\nvar a;".toList
        (.template ⟨.script, "<script>".toList, "</script".toList⟩)).span = ⟨8, 16⟩ ∧
      ReportsUnclosed "<p></p>\n<script>\nvar a;".toList
        ⟨.script, "<script>".toList, "</script".toList⟩ ⟨8, 16⟩ := by
  have hreports := @failureDiagnostic_reportsUnclosed_iff "<p></p>\n<script>\nvar a;".toList
    ⟨.script, "<script>".toList, "</script".toList⟩ (by decide +kernel) (by decide +kernel)
    (by decide +kernel) (by decide +kernel) (by decide +kernel)
  have hspan : (failureDiagnostic "<p></p>\n<script>\nvar a;".toList
      (.template ⟨.script, "<script>".toList, "</script".toList⟩)).span = ⟨8, 16⟩ := by
    decide +kernel
  rw [hspan] at hreports
  refine ⟨hspan, hreports.2.mpr ⟨?_, by decide +kernel⟩⟩
  exact ⟨"<p></p>\n".toList, "\nvar a;".toList, by decide +kernel, by decide +kernel⟩

/-- A comment that is closed, before one that is not: the one that is closed is reported. -/
theorem failureDiagnostic_reports_closed :
    (¬ Template.applyMarker <:+: "<!-- a --> <!--".toList ∧
      ¬ Template.wrapperTag <:+: "<!-- a --> <!--".toList ∧
      ¬ "<template".toList <:+: "<!-- a --> <!--".toList ∧
      ¬ "</template".toList <:+: "<!-- a --> <!--".toList) ∧
    Template.normalize "<!-- a --> <!--".toList =
      .error ⟨.comment, "<!--".toList, "-->".toList⟩ ∧
    ¬ ReportsUnclosed "<!-- a --> <!--".toList ⟨.comment, "<!--".toList, "-->".toList⟩
      (failureDiagnostic "<!-- a --> <!--".toList
        (.template ⟨.comment, "<!--".toList, "-->".toList⟩)).span := by
  refine ⟨by decide +kernel, by decide +kernel, ?_⟩
  rintro ⟨before, after, ⟨hsource, hnone⟩, hstart, -⟩
  have hzero : (failureDiagnostic "<!-- a --> <!--".toList
      (.template ⟨.comment, "<!--".toList, "-->".toList⟩)).span.start.toNat = 0 := by
    decide +kernel
  -- the span starts with the source, and so does the comment that is closed
  have hbefore : before = [] := by
    by_contra hne
    have hpos := Text.bytes_pos hne
    omega
  subst hbefore
  have hafter : after = " a --> <!--".toList := by
    have hsplit : "<!--".toList ++ " a --> <!--".toList = "<!--".toList ++ after := hsource
    exact (List.append_cancel_left hsplit).symm
  subst hafter
  exact hnone "-->".toList (by decide +kernel) (by decide +kernel)

end StyleAudit.Locate
