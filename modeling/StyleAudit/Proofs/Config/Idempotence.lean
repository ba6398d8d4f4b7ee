import StyleAudit.Proofs.Config.Segments

/-!
# Removing comments twice

Comments are taken out without a separator, so what stands on their two sides meets. It never makes
up anything new: a slash that is left stands right before no comment, since that comment starts with
a slash and the two would have opened a comment together. So the text that is left falls apart into
the strings and the single characters of the original one, and the line feeds of its comments.

- `Segment.residue`: what becomes of a segment.
- `head?_stripComments`: a text that starts with no slash keeps its start.
- `Segment.Precedes.stripped`: a segment that is no comment still ends where it ended.
- `Segmented.stripped`: the segments of the text that is left.
- `stripComments_idempotent`: that text has no comments, so nothing more is removed.
-/

namespace StyleAudit.Config

namespace Segment

/-- Whether a segment is a string. -/
def isString : Segment → Bool
  | quoted .. => true
  | lineComment _ | blockComment .. | other _ => false

/-- What becomes of a segment: the line feeds of a comment are characters of their own, and all else
stays what it is. -/
def residue (segment : Segment) : List Segment :=
  if segment.isComment then segment.kept.map other else [segment]

theorem residue_of_isComment {segment : Segment} (h : segment.isComment = true) :
    segment.residue = segment.kept.map other :=
  if_pos h

theorem residue_of_not_isComment {segment : Segment} (h : segment.isComment = false) :
    segment.residue = [segment] := by
  rw [residue, h]
  rfl

/-- Only line feeds are kept of a comment. -/
theorem eq_feed_of_mem_kept {segment : Segment} (h : segment.isComment = true) {c : Char}
    (hc : c ∈ segment.kept) : c = '\n' := by
  rw [kept, keep, if_pos h] at hc
  simpa using (List.mem_filter.mp hc).2

theorem not_isComment_of_mem_residue {segment part : Segment} (h : part ∈ segment.residue) :
    part.isComment = false := by
  cases hsegment : segment.isComment with
  | true =>
    rw [residue_of_isComment hsegment] at h
    obtain ⟨c, -, rfl⟩ := List.mem_map.mp h
    rfl
  | false =>
    rw [residue_of_not_isComment hsegment, List.mem_singleton] at h
    rw [h, hsegment]

/-- A segment leaves a string only if it is one. -/
theorem filter_isString_residue (segment : Segment) :
    segment.residue.filter isString = [segment].filter isString := by
  cases hsegment : segment.isComment with
  | true =>
    have hnone : segment.isString = false := by
      cases segment with
      | quoted | other => cases hsegment
      | lineComment | blockComment => rfl
    have hfeeds : ∀ part ∈ segment.kept.map other, ¬ part.isString = true := by
      intro part hpart
      obtain ⟨c, -, rfl⟩ := List.mem_map.mp hpart
      exact Bool.false_ne_true
    rw [residue_of_isComment hsegment, List.filter_eq_nil_iff.mpr hfeeds,
      List.filter_cons_of_neg (by simp [hnone]), List.filter_nil]
  | false => rw [residue_of_not_isComment hsegment]

end Segment

/-! ## What meets where a comment was -/

theorem head?_stripComments {text : Text} (h : text.head? ≠ some '/') :
    (stripComments text).head? = text.head? := by
  cases text with
  | nil => rfl
  | cons c cs =>
    have hslash : c ≠ '/' := by
      rintro rfl
      exact h rfl
    rw [stripComments, stripFrom]
    · rfl
    · intro rest hc _
      exact hslash hc
    · intro rest hc _
      exact hslash hc

/-- **A segment that is no comment ends where it ended before.** What follows a single slash starts
no comment, so it still follows the slash. -/
theorem Segment.Precedes.stripped {segment : Segment} {rest : Text} (h : segment.Precedes rest)
    (hsegment : segment.isComment = false) : segment.Precedes (stripComments rest) := by
  cases segment with
  | lineComment | blockComment => cases hsegment
  | quoted body isClosed =>
    obtain ⟨hall, hout, hend⟩ := h
    refine ⟨hall, hout, fun hopen => ?_⟩
    rw [hend hopen]
    rfl
  | other c =>
    obtain ⟨hquote, hslash⟩ := h
    refine ⟨hquote, fun hc => ?_⟩
    have hstart : rest.head? ≠ some '/' := fun hhead => (hslash hc '/' hhead).1 rfl
    rw [head?_stripComments hstart]
    exact hslash hc

/-- Line feeds in front of a text are characters of their own. -/
theorem Segmented.feeds {feeds rest : Text} {segments : List Segment} (h : Segmented rest segments)
    (hfeeds : ∀ c ∈ feeds, c = '\n') :
    Segmented (feeds ++ rest) (feeds.map .other ++ segments) := by
  induction feeds with
  | nil => exact h
  | cons c cs ih =>
    obtain ⟨rfl, hcs⟩ := List.forall_mem_cons.mp hfeeds
    have hfirst : (Segment.other '\n').Precedes (cs ++ rest) :=
      ⟨by decide, fun hslash => absurd hslash (by decide)⟩
    exact .cons hfirst (ih hcs)

/-- **The text that is left falls apart into what is left of the segments.** -/
theorem Segmented.stripped {text : Text} {segments : List Segment} (h : Segmented text segments) :
    Segmented (stripComments text) (segments.flatMap Segment.residue) := by
  induction h with
  | nil => exact .nil
  | @cons segment rest segments first _ ih =>
    have htext : stripComments (segment.text ++ rest) = segment.kept ++ stripComments rest :=
      Segment.stripFrom_code first
    rw [htext, List.flatMap_cons]
    cases hsegment : segment.isComment with
    | true =>
      rw [Segment.residue_of_isComment hsegment]
      exact ih.feeds fun c hc => Segment.eq_feed_of_mem_kept hsegment hc
    | false =>
      rw [Segment.residue_of_not_isComment hsegment, Segment.kept_of_not_isComment hsegment]
      exact .cons (first.stripped hsegment) ih

/-- **Removing comments a second time changes nothing.** The text that is left falls apart, in
exactly one way, into what is left of the segments of the text: no comment is among them, and the
strings are the strings of the text, in the same order. -/
theorem stripComments_idempotent (text : Text) :
    stripComments (stripComments text) = stripComments text ∧
    ∃ segments, Segmented text segments ∧
      (∀ parts, Segmented (stripComments text) parts ↔ parts = segments.flatMap Segment.residue) ∧
      (∀ part ∈ segments.flatMap Segment.residue, part.isComment = false) ∧
      (segments.flatMap Segment.residue).filter Segment.isString =
        segments.filter Segment.isString := by
  obtain ⟨segments, hsegments⟩ := Segmented.exists text
  have hleft := hsegments.stripped
  have hnone : ∀ part ∈ segments.flatMap Segment.residue, part.isComment = false := by
    intro part hpart
    obtain ⟨segment, -, hresidue⟩ := List.mem_flatMap.mp hpart
    exact Segment.not_isComment_of_mem_residue hresidue
  have hstrings : (segments.flatMap Segment.residue).filter Segment.isString =
      segments.filter Segment.isString := by
    rw [List.filter_flatMap]
    simp only [Segment.filter_isString_residue]
    rw [← List.filter_flatMap, List.flatMap_singleton']
  refine ⟨?_, segments, hsegments, fun parts => ⟨fun h => h.unique hleft, ?_⟩, hnone, hstrings⟩
  · calc stripComments (stripComments text)
        = (segments.flatMap Segment.residue).flatMap Segment.kept := hleft.stripComments_eq
      _ = (segments.flatMap Segment.residue).flatMap Segment.text :=
          List.flatMap_congr fun part hpart => Segment.kept_of_not_isComment (hnone part hpart)
      _ = stripComments text := hleft.flatMap_text
  · rintro rfl
    exact hleft

end StyleAudit.Config
