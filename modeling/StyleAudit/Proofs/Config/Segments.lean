import StyleAudit.Config.Comments
import StyleAudit.Proofs.Text
import Mathlib.Algebra.Ring.Parity
import Mathlib.Data.List.DropRight
import Mathlib.Data.List.TakeWhile

/-!
# Configuration texts in segments

From left to right, a configuration text falls apart into strings, comments and single other
characters. What removes the comments keeps the strings and the other characters as they are, and
of each comment its line feeds.

- `Escapes`, `AllEscaped`: where quotation marks are escaped.
- `Segment`, `Segment.Precedes`: the segments, and how far each of them reaches.
- `Segmented`: a text cut into segments; `Segmented.exists` and `Segmented.unique`: there is exactly
  one way to do it.
- `Segment.stripFrom_code`: what the removal of comments does to one segment.
- `stripComments_segments`: what it does to a text, and on which line each character is found
  afterwards.
-/

namespace StyleAudit.Config

/-! ## Escaped quotation marks -/

/-- A quotation mark right after `body` is escaped: an odd number of backslashes precedes it. -/
def Escapes (body : Text) : Prop := Odd (body.rtakeWhile (· == '\\')).length

/-- Each quotation mark in a text is escaped. -/
def AllEscaped (body : Text) : Prop :=
  ∀ front back, body = front ++ '\x22' :: back → Escapes front

instance (body : Text) : Decidable (Escapes body) :=
  inferInstanceAs (Decidable (Odd (body.rtakeWhile (· == '\\')).length))

/-- A backslash escapes what follows it, unless it is escaped itself. -/
theorem escapes_concat (body : Text) (c : Char) :
    Escapes (body ++ [c]) ↔ c = '\\' ∧ ¬ Escapes body := by
  unfold Escapes
  by_cases hc : c = '\\'
  · rw [List.rtakeWhile_concat_pos _ _ _ (by simp [hc]), List.length_append, List.length_singleton,
      Nat.odd_add_one]
    simp only [hc, true_and]
  · rw [List.rtakeWhile_concat_neg _ _ _ (by simpa using hc)]
    simp [hc]

theorem allEscaped_nil : AllEscaped [] := by
  intro front back h
  simp at h

/-- One more character may be a quotation mark only if it is escaped. -/
theorem AllEscaped.concat {body : Text} (h : AllEscaped body) {c : Char}
    (hc : c = '\x22' → Escapes body) : AllEscaped (body ++ [c]) := by
  intro front back hbody
  rcases List.eq_nil_or_concat back with rfl | ⟨back, d, rfl⟩
  · obtain ⟨rfl, hlast⟩ := List.append_inj' hbody rfl
    exact hc (List.singleton_injective hlast)
  · have hsplit : body ++ [c] = (front ++ '\x22' :: back) ++ [d] := by simpa using hbody
    exact h front back (List.append_inj' hsplit rfl).1

/-! ## Segments -/

/-- A part of a configuration text: a string, a comment that ends with its line, a comment that is
closed by a marker, or a single other character. A string and a closed comment may also reach the
end of the text. -/
inductive Segment where
  | quoted (body : Text) (isClosed : Bool)
  | lineComment (body : Text)
  | blockComment (body : Text) (isClosed : Bool)
  | other (c : Char)
  deriving DecidableEq, Repr

namespace Segment

/-- A segment as it is written. -/
def text : Segment → Text
  | quoted body isClosed => '\x22' :: (body ++ if isClosed then ['\x22'] else [])
  | lineComment body => '/' :: '/' :: body
  | blockComment body isClosed => '/' :: '*' :: (body ++ if isClosed then ['*', '/'] else [])
  | other c => [c]

/-- Whether a segment is a comment. -/
def isComment : Segment → Bool
  | lineComment _ | blockComment .. => true
  | quoted .. | other _ => false

/-- What is kept of a part of a segment: of a comment its line feeds, of all else everything. -/
def keep (segment : Segment) (part : Text) : Text :=
  if segment.isComment then part.filter (· == '\n') else part

/-- What is kept of a segment. -/
def kept (segment : Segment) : Text := segment.keep segment.text

/-- A segment reaches as far as it can before `rest`: a string to the first quotation mark that is
not escaped, a line comment to the end of its line, a block comment to the first marker after its
opening, each of them to the end of the text if there is no such place. A single character starts
none of them. -/
def Precedes : Segment → Text → Prop
  | quoted body isClosed, rest =>
    AllEscaped body ∧ (isClosed = true → ¬ Escapes body) ∧ (isClosed = false → rest = [])
  | lineComment body, rest => '\n' ∉ body ∧ ∀ c ∈ rest.head?, c = '\n'
  | blockComment body isClosed, rest => ¬ ['*', '/'] <:+: body ∧ (isClosed = false → rest = [])
  | other c, rest => c ≠ '\x22' ∧ (c = '/' → ∀ d ∈ rest.head?, d ≠ '/' ∧ d ≠ '*')

end Segment

/-- A text is cut into segments from left to right. -/
inductive Segmented : Text → List Segment → Prop
  | nil : Segmented [] []
  | cons {segment : Segment} {rest : Text} {segments : List Segment} (first : segment.Precedes rest)
      (others : Segmented rest segments) : Segmented (segment.text ++ rest) (segment :: segments)

/-! ## There is one way to cut a text -/

/-- After a quotation mark comes the first one that is not escaped, or there is none. -/
theorem exists_string (front : Text) (hfront : AllEscaped front) (text : Text) :
    (∃ body rest, text = body ++ '\x22' :: rest ∧ AllEscaped (front ++ body) ∧
        ¬ Escapes (front ++ body)) ∨ AllEscaped (front ++ text) := by
  induction text generalizing front with
  | nil => exact .inr (by rwa [List.append_nil])
  | cons c cs ih =>
    by_cases hc : c = '\x22' ∧ ¬ Escapes front
    · obtain ⟨rfl, hout⟩ := hc
      exact .inl ⟨[], cs, rfl, by rwa [List.append_nil], by rwa [List.append_nil]⟩
    · have hnext : AllEscaped (front ++ [c]) := by
        refine hfront.concat fun hquote => ?_
        by_contra hout
        exact hc ⟨hquote, hout⟩
      rcases ih (front ++ [c]) hnext with ⟨body, rest, rfl, hall, hout⟩ | hall
      · rw [List.append_assoc, List.singleton_append] at hall hout
        exact .inl ⟨c :: body, rest, rfl, hall, hout⟩
      · rw [List.append_assoc, List.singleton_append] at hall
        exact .inr hall

/-- **Some segment stands at the start of a text.** -/
theorem exists_first (c : Char) (cs : Text) :
    ∃ (segment : Segment) (rest : Text),
      c :: cs = segment.text ++ rest ∧ segment.Precedes rest := by
  by_cases hquote : c = '\x22'
  · subst hquote
    rcases exists_string [] allEscaped_nil cs with ⟨body, rest, rfl, hall, hout⟩ | hall
    · exact ⟨.quoted body true, rest, by simp [Segment.text], hall, fun _ => hout, by simp⟩
    · exact ⟨.quoted cs false, [], by simp [Segment.text], hall, by simp, fun _ => rfl⟩
  by_cases hline : c = '/' ∧ cs.head? = some '/'
  · obtain ⟨rfl, hhead⟩ := hline
    obtain ⟨ds, rfl⟩ := List.head?_eq_some_iff.mp hhead
    refine ⟨.lineComment (ds.takeWhile (· != '\n')), ds.dropWhile (· != '\n'), ?_, ?_, ?_⟩
    · simp [Segment.text]
    · intro hmem
      simpa using List.mem_takeWhile_imp hmem
    · intro d hd
      have hstop := List.head?_dropWhile_not (· != '\n') ds
      rw [Option.mem_def.mp hd] at hstop
      simpa using hstop
  by_cases hblock : c = '/' ∧ cs.head? = some '*'
  · obtain ⟨rfl, hhead⟩ := hblock
    obtain ⟨ds, rfl⟩ := List.head?_eq_some_iff.mp hhead
    cases hcut : Text.cut? ['*', '/'] ds with
    | some sides =>
      refine ⟨.blockComment sides.1 true, sides.2, ?_, ?_, by simp⟩
      · have hds := Text.cut?_eq_append hcut
        simp [Segment.text, hds]
      · exact Text.not_part_before_cut (by decide) hcut
    | none =>
      exact ⟨.blockComment ds false, [], by simp [Segment.text], Text.cut?_eq_none_iff.mp hcut,
        fun _ => rfl⟩
  · refine ⟨.other c, cs, rfl, hquote, ?_⟩
    rintro rfl d hd
    constructor
    · rintro rfl
      exact hline ⟨rfl, hd⟩
    · rintro rfl
      exact hblock ⟨rfl, hd⟩

theorem Segment.text_ne_nil (segment : Segment) : segment.text ≠ [] := by
  cases segment <;> simp [text]

theorem Segmented.exists (text : Text) : ∃ segments, Segmented text segments := by
  -- on the length of the text: what follows the first segment is shorter
  induction hlength : text.length using Nat.strongRecOn generalizing text with
  | ind length ih =>
    subst hlength
    cases text with
    | nil => exact ⟨[], .nil⟩
    | cons c cs =>
      obtain ⟨segment, rest, htext, hfirst⟩ := exists_first c cs
      have hlt : rest.length < (c :: cs).length := by
        have hpos := List.length_pos_iff.mpr segment.text_ne_nil
        rw [htext, List.length_append]
        omega
      obtain ⟨segments, hothers⟩ := ih rest.length hlt rest rfl
      rw [htext]
      exact ⟨segment :: segments, .cons hfirst hothers⟩

/-- A string does not go on after a quotation mark that is not escaped. -/
theorem AllEscaped.lead_of_mark {body body' rest more : Text} (h : AllEscaped body')
    (hout : ¬ Escapes body) (htext : body ++ '\x22' :: rest = body' ++ more) : body' <+: body := by
  rcases List.append_eq_append_iff.mp htext with ⟨gap, rfl, hgap⟩ | ⟨gap, rfl, -⟩
  · cases gap with
    | nil => simp
    | cons c gap =>
      obtain ⟨rfl, -⟩ := List.cons.inj hgap
      exact absurd (h body gap rfl) hout
  · exact List.prefix_append body' gap

theorem AllEscaped.ne_of_mark {body body' rest : Text} (h : AllEscaped body')
    (hout : ¬ Escapes body) : body ++ '\x22' :: rest ≠ body' := by
  intro heq
  have hsplit : body ++ '\x22' :: rest = body' ++ [] := by rw [List.append_nil, heq]
  have hle := (h.lead_of_mark hout hsplit).length_le
  rw [← heq, List.length_append, List.length_cons] at hle
  omega

namespace Segment

theorem quoted_eq {body body' rest rest' : Text} {isClosed isClosed' : Bool}
    (h : (quoted body isClosed).Precedes rest) (h' : (quoted body' isClosed').Precedes rest')
    (htext : (quoted body isClosed).text ++ rest = (quoted body' isClosed').text ++ rest') :
    quoted body isClosed = quoted body' isClosed' ∧ rest = rest' := by
  obtain ⟨hall, hout, hend⟩ := h
  obtain ⟨hall', hout', hend'⟩ := h'
  cases isClosed with
  | true =>
    cases isClosed' with
    | true =>
      have hmark : body ++ '\x22' :: rest = body' ++ '\x22' :: rest' := by
        simpa [text] using htext
      have hlead := hall'.lead_of_mark (hout rfl) hmark
      have hlead' := hall.lead_of_mark (hout' rfl) hmark.symm
      have hsame : body = body' := hlead'.eq_of_length_le hlead.length_le
      subst hsame
      exact ⟨rfl, by simpa using hmark⟩
    | false =>
      obtain rfl := hend' rfl
      have hmark : body ++ '\x22' :: rest = body' := by simpa [text] using htext
      exact absurd hmark (hall'.ne_of_mark (hout rfl))
  | false =>
    obtain rfl := hend rfl
    cases isClosed' with
    | true =>
      have hmark : body' ++ '\x22' :: rest' = body := by simpa [text] using htext.symm
      exact absurd hmark (hall.ne_of_mark (hout' rfl))
    | false =>
      obtain rfl := hend' rfl
      exact ⟨by simpa [text] using htext, rfl⟩

theorem lineComment_eq {body body' rest rest' : Text} (h : (lineComment body).Precedes rest)
    (h' : (lineComment body').Precedes rest')
    (htext : (lineComment body).text ++ rest = (lineComment body').text ++ rest') :
    lineComment body = lineComment body' ∧ rest = rest' := by
  -- the body is what precedes the first line feed
  have htaken : ∀ {body rest : Text}, (lineComment body).Precedes rest →
      (body ++ rest).takeWhile (· != '\n') = body := by
    rintro body rest ⟨hfree, hend⟩
    have hbody : ∀ c ∈ body, (c != '\n') = true := by
      intro c hc
      rw [bne_iff_ne]
      rintro rfl
      exact hfree hc
    rw [List.takeWhile_append_of_pos hbody]
    cases rest with
    | nil => simp
    | cons c cs => simp [hend c rfl]
  have hbodies : body ++ rest = body' ++ rest' := by simpa [text] using htext
  have hsame : body = body' := by rw [← htaken h, hbodies, htaken h']
  subst hsame
  exact ⟨rfl, List.append_cancel_left hbodies⟩

theorem blockComment_eq {body body' rest rest' : Text} {isClosed isClosed' : Bool}
    (h : (blockComment body isClosed).Precedes rest)
    (h' : (blockComment body' isClosed').Precedes rest')
    (htext : (blockComment body isClosed).text ++ rest =
      (blockComment body' isClosed').text ++ rest') :
    blockComment body isClosed = blockComment body' isClosed' ∧ rest = rest' := by
  -- the body is what precedes the first marker
  have hcut : ∀ {body rest : Text} {isClosed : Bool}, (blockComment body isClosed).Precedes rest →
      Text.cut? ['*', '/'] (body ++ (if isClosed then ['*', '/'] else []) ++ rest) =
        if isClosed then some (body, rest) else none := by
    rintro body rest isClosed ⟨hfree, hend⟩
    cases isClosed with
    | true => exact Text.cut?_note hfree rest
    | false =>
      obtain rfl := hend rfl
      simpa using Text.cut?_eq_none_iff.mpr hfree
  have hbodies : body ++ (if isClosed then ['*', '/'] else []) ++ rest =
      body' ++ (if isClosed' then ['*', '/'] else []) ++ rest' := by
    simpa [text] using htext
  have hfound := hcut h
  rw [hbodies, hcut h'] at hfound
  cases isClosed with
  | true =>
    cases isClosed' with
    | true =>
      cases hfound
      exact ⟨rfl, rfl⟩
    | false => cases hfound
  | false =>
    cases isClosed' with
    | true => cases hfound
    | false =>
      obtain rfl := h.2 rfl
      obtain rfl := h'.2 rfl
      exact ⟨by simpa using hbodies, rfl⟩

/-- A single character starts no other segment. -/
theorem eq_other {c : Char} {segment : Segment} {rest rest' : Text} (h : (other c).Precedes rest)
    (htext : c :: rest = segment.text ++ rest') : segment = other c := by
  cases segment with
  | quoted body isClosed =>
    obtain ⟨rfl, -⟩ := List.cons.inj htext
    exact absurd rfl h.1
  | lineComment body =>
    obtain ⟨rfl, rfl⟩ := List.cons.inj htext
    exact absurd rfl (h.2 rfl '/' rfl).1
  | blockComment body isClosed =>
    obtain ⟨rfl, rfl⟩ := List.cons.inj htext
    exact absurd rfl (h.2 rfl '*' rfl).2
  | other d =>
    obtain ⟨rfl, -⟩ := List.cons.inj htext
    rfl

/-- **One segment stands at the start of a text.** -/
theorem eq_of_text_append {a b : Segment} {rest rest' : Text} (ha : a.Precedes rest)
    (hb : b.Precedes rest') (h : a.text ++ rest = b.text ++ rest') : a = b ∧ rest = rest' := by
  cases a with
  | other c =>
    obtain rfl := eq_other ha h
    exact ⟨rfl, List.append_cancel_left h⟩
  | quoted body isClosed =>
    cases b with
    | quoted => exact quoted_eq ha hb h
    | lineComment | blockComment => simp [text] at h
    | other c => cases eq_other hb h.symm
  | lineComment body =>
    cases b with
    | lineComment => exact lineComment_eq ha hb h
    | quoted | blockComment => simp [text] at h
    | other c => cases eq_other hb h.symm
  | blockComment body isClosed =>
    cases b with
    | blockComment => exact blockComment_eq ha hb h
    | quoted | lineComment => simp [text] at h
    | other c => cases eq_other hb h.symm

end Segment

/-- **There is at most one way to cut a text into segments.** -/
theorem Segmented.unique {text : Text} {segments others : List Segment}
    (h : Segmented text segments) (h' : Segmented text others) : segments = others := by
  induction h generalizing others with
  | nil =>
    cases hnil : others with
    | nil => rfl
    | cons segment rest =>
      subst hnil
      generalize htext : ([] : Text) = text at h'
      cases h' with
      | cons first _ => exact absurd (List.append_eq_nil_iff.mp htext.symm).1 segment.text_ne_nil
  | @cons segment rest segments first _ ih =>
    generalize htext : segment.text ++ rest = text at h'
    cases h' with
    | nil => exact absurd (List.append_eq_nil_iff.mp htext).1 segment.text_ne_nil
    | cons first' later =>
      obtain ⟨rfl, rfl⟩ := Segment.eq_of_text_append first first' htext
      rw [ih later]

/-! ## What is kept of a segment -/

/-- Where a reader is in a string, after a part of it. -/
def zoneIn (front : Text) : Zone := if Escapes front then .escaped else .quoted

theorem stripFrom_zoneIn_cons {front : Text} {c : Char} (hc : c = '\x22' → Escapes front)
    (rest : Text) :
    stripFrom (zoneIn front) (c :: rest) = c :: stripFrom (zoneIn (front ++ [c])) rest := by
  unfold zoneIn
  by_cases hfront : Escapes front
  · rw [if_pos hfront, if_neg (by simp [escapes_concat, hfront]), stripFrom]
  · have hmark : c ≠ '\x22' := fun hquote => hfront (hc hquote)
    rw [if_neg hfront, stripFrom, if_neg hmark]
    simp only [escapes_concat, hfront, not_false_eq_true, and_true]

/-- A string is read to its end. -/
theorem stripFrom_string {front body : Text} (hall : AllEscaped (front ++ body)) (rest : Text) :
    stripFrom (zoneIn front) (body ++ rest) = body ++ stripFrom (zoneIn (front ++ body)) rest := by
  induction body generalizing front with
  | nil => rw [List.append_nil, List.nil_append, List.nil_append]
  | cons c cs ih =>
    have hsplit : front ++ c :: cs = front ++ [c] ++ cs := by simp
    have hc : c = '\x22' → Escapes front := by
      rintro rfl
      exact hall front cs rfl
    rw [List.cons_append, stripFrom_zoneIn_cons hc, ih (hsplit ▸ hall), hsplit, List.cons_append]

theorem stripFrom_lineComment {body : Text} (h : '\n' ∉ body) (rest : Text) :
    stripFrom .lineComment (body ++ rest) = stripFrom .lineComment rest := by
  induction body with
  | nil => rfl
  | cons c cs ih =>
    obtain ⟨hc, hcs⟩ := List.ne_and_not_mem_of_not_mem_cons h
    rw [List.cons_append, stripFrom, if_neg hc.symm, ih hcs]

theorem stripFrom_blockComment {body rest : Text} (h : ¬ ['*', '/'] <:+: body)
    (hrest : rest.head? ≠ some '/') :
    stripFrom .blockComment (body ++ rest) =
      body.filter (· == '\n') ++ stripFrom .blockComment rest := by
  induction body with
  | nil => rfl
  | cons c cs ih =>
    have hcs : ¬ ['*', '/'] <:+: cs := fun hin => h (hin.trans (List.suffix_cons c cs).isInfix)
    -- the marker would be in the body, or its slash right after it
    have hmarker : ∀ more, c = '*' → cs ++ rest = '/' :: more → False := by
      rintro more rfl hslash
      cases cs with
      | nil => exact hrest (by simp_all)
      | cons d ds =>
        obtain ⟨rfl, -⟩ := List.cons.inj hslash
        exact h ⟨[], ds, rfl⟩
    rw [List.cons_append, stripFrom, ih hcs]
    · by_cases hc : c = '\n' <;> simp [hc]
    · exact hmarker

namespace Segment

/-- **What the removal of comments does to a segment.** -/
theorem stripFrom_code {segment : Segment} {rest : Text} (h : segment.Precedes rest) :
    stripFrom .code (segment.text ++ rest) = segment.kept ++ stripFrom .code rest := by
  cases segment with
  | quoted body isClosed =>
    obtain ⟨hall, hout, hend⟩ := h
    have hstring : ∀ more, stripFrom .code ('\x22' :: (body ++ more)) =
        '\x22' :: (body ++ stripFrom (zoneIn body) more) := by
      intro more
      have hbody : stripFrom .quoted (body ++ more) = body ++ stripFrom (zoneIn body) more :=
        @stripFrom_string [] body hall more
      rw [← hbody, stripFrom, if_pos rfl] <;> simp
    show stripFrom .code ('\x22' :: (body ++ _ ++ rest)) = '\x22' :: (body ++ _) ++ _
    rw [List.append_assoc, hstring]
    cases isClosed with
    | true =>
      rw [zoneIn, if_neg (hout rfl)]
      simp [stripFrom]
    | false =>
      obtain rfl := hend rfl
      simp [stripFrom]
  | lineComment body =>
    obtain ⟨hfree, hend⟩ := h
    have hkept : (lineComment body).kept = [] := by
      have hnone : ∀ c ∈ body, ¬ c = '\n' := by
        rintro c hc rfl
        exact hfree hc
      simpa [kept, keep, isComment, text] using hnone
    have hrest : stripFrom .lineComment rest = stripFrom .code rest := by
      cases rest with
      | nil => rfl
      | cons c cs =>
        obtain rfl := hend c rfl
        rfl
    rw [hkept, List.nil_append, ← hrest, ← stripFrom_lineComment hfree]
    rfl
  | blockComment body isClosed =>
    obtain ⟨hfree, hend⟩ := h
    have hkept : (blockComment body isClosed).kept = body.filter (· == '\n') := by
      cases isClosed <;> simp [kept, keep, isComment, text]
    rw [hkept]
    show stripFrom .blockComment (body ++ _ ++ rest) = _
    cases isClosed with
    | true => exact (List.append_assoc .. ▸ stripFrom_blockComment hfree (by simp))
    | false =>
      obtain rfl := hend rfl
      simpa [stripFrom] using @stripFrom_blockComment body [] hfree (by simp)
  | other c =>
    obtain ⟨hquote, hslash⟩ := h
    show stripFrom .code (c :: rest) = c :: stripFrom .code rest
    rw [stripFrom, if_neg hquote]
    · rintro more rfl rfl
      exact (hslash rfl '/' rfl).1 rfl
    · rintro more rfl rfl
      exact (hslash rfl '*' rfl).2 rfl

theorem keep_append (segment : Segment) (a b : Text) :
    segment.keep (a ++ b) = segment.keep a ++ segment.keep b := by
  unfold keep
  split
  · exact List.filter_append ..
  · rfl

/-- No line feed is lost. -/
theorem count_keep (segment : Segment) (part : Text) :
    (segment.keep part).count '\n' = part.count '\n' := by
  unfold keep
  split
  · exact List.count_filter rfl
  · rfl

theorem kept_of_not_isComment {segment : Segment} (h : segment.isComment = false) :
    segment.kept = segment.text := by
  rw [kept, keep, h]
  rfl

end Segment

/-! ## What is kept of a text -/

theorem Segmented.flatMap_text {text : Text} {segments : List Segment}
    (h : Segmented text segments) : segments.flatMap Segment.text = text := by
  induction h with
  | nil => rfl
  | cons first _ ih => rw [List.flatMap_cons, ih]

/-- **Removing the comments of a text keeps what is to be kept of each segment.** -/
theorem Segmented.stripComments_eq {text : Text} {segments : List Segment}
    (h : Segmented text segments) : stripComments text = segments.flatMap Segment.kept := by
  induction h with
  | nil => rfl
  | @cons segment rest segments first _ ih =>
    show stripFrom .code (segment.text ++ rest) = _
    rw [Segment.stripFrom_code first, List.flatMap_cons, ← ih]
    rfl

/-- The segments before a place have as many line feeds as what is kept of them. -/
theorem count_flatMap_kept (segments : List Segment) :
    (segments.flatMap Segment.kept).count '\n' = (segments.flatMap Segment.text).count '\n' := by
  induction segments with
  | nil => rfl
  | cons segment rest ih =>
    rw [List.flatMap_cons, List.flatMap_cons, List.count_append, List.count_append, ih,
      Segment.kept, Segment.count_keep]

/-- **Comments are removed segment by segment.** A text falls apart into segments in exactly one
way, and what is left of it is what is kept of each segment. A character that is kept has as many
line feeds before it as it had in the text, so it stays on its line; where no segment is a comment,
the text is left as it is. -/
theorem stripComments_segments (text : Text) :
    ∃ segments, Segmented text segments ∧ (∀ others, Segmented text others → others = segments) ∧
      stripComments text = segments.flatMap Segment.kept ∧
      (∀ before segment after front c back, segments = before ++ segment :: after →
        segment.text = front ++ c :: back → segment.keep [c] = [c] →
        text = before.flatMap Segment.text ++ front ++
            c :: (back ++ after.flatMap Segment.text) ∧
          stripComments text = before.flatMap Segment.kept ++ segment.keep front ++
            c :: (segment.keep back ++ after.flatMap Segment.kept) ∧
          (before.flatMap Segment.kept ++ segment.keep front).count '\n' =
            (before.flatMap Segment.text ++ front).count '\n') ∧
      ((∀ segment ∈ segments, segment.isComment = false) → stripComments text = text) := by
  obtain ⟨segments, hsegments⟩ := Segmented.exists text
  have hstrip := hsegments.stripComments_eq
  have htext := hsegments.flatMap_text
  refine ⟨segments, hsegments, fun others h => h.unique hsegments, hstrip, ?_, ?_⟩
  · rintro before segment after front c back rfl hsegment hc
    refine ⟨?_, ?_, ?_⟩
    · rw [← htext, List.flatMap_append, List.flatMap_cons, hsegment]
      simp
    · rw [hstrip, List.flatMap_append, List.flatMap_cons, Segment.kept, hsegment,
        ← List.singleton_append, Segment.keep_append, Segment.keep_append, hc]
      simp
    · rw [List.count_append, List.count_append, count_flatMap_kept, Segment.count_keep]
  · intro hnone
    rw [hstrip, ← htext]
    exact List.flatMap_congr fun segment hsegment =>
      Segment.kept_of_not_isComment (hnone segment hsegment)

/-- A marker that shares its star with the opening closes nothing, and a string hides what opens a
comment. -/
example : stripComments "/*/\n**/ \x22//\\\x22\x22 // a".toList =
    "\n \x22//\\\x22\x22 ".toList := by decide +kernel

end StyleAudit.Config
