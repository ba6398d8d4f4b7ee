import StyleAudit.Locate.DeclarationLine
import StyleAudit.Proofs.Locate.Order
import StyleAudit.Proofs.Source
import Mathlib.Data.List.TakeWhile

/-!
# Spans cover what they are about

Findings and failures are searched again in the source as written. Whatever is found, the span that
is reported covers exactly the text that was searched for; what is not found is anchored at the
opening of the style element, or at the start of a source without one.

- `Anchored`, `Placed`, `FailurePlaced`: what a span may cover.
- `Region.LiesIn`, `ofSource_liesIn`: the lines and the anchor of a region are those of the source.
- `Region.LiesIn.placements`: each finding has its own text covered, or is anchored.
- `spans_exact`: the spans of findings, of failures and of lines that are no declarations.
-/

namespace StyleAudit

/-! ## Occurrences -/

namespace Text

theorem exists_split_of_offsetOf? {part text : Text} {offset : Nat}
    (h : offsetOf? part text = some offset) :
    ∃ before after, text = before ++ part ++ after ∧ offset = before.bytes := by
  obtain ⟨⟨before, after⟩, hcut, rfl⟩ := Option.map_eq_some_iff.mp h
  exact ⟨before, after, cut?_eq_append hcut, rfl⟩

theorem offsetOf?_eq_none_iff {part text : Text} :
    offsetOf? part text = none ↔ ¬ part <:+: text := by
  rw [offsetOf?, Option.map_eq_none_iff, cut?_eq_none_iff]

end Text

namespace Locate

/-! ## What a span may cover -/

/-- The place of what is not found: the opening of the style element, or the start of a source in
which no line opens one. -/
def Anchored (source : Text) (span : Span) : Prop :=
  span.Marks source styleOpen ∨
    (span = Span.origin ∧ span.Marks source [] ∧
      ∀ line ∈ (LineIndex.ofText source).lines, ¬ styleOpen <:+: line.text)

/-- The place of a text: where it stands, or the place of what is not found. -/
def Placed (source part : Text) (span : Span) : Prop :=
  span.Marks source part ∨ Anchored source span

/-- The place of a failure, by what it is attributed to. -/
def FailurePlaced (source : Text) (span : Span) : Failure → Prop
  | .template cause => span.Marks source cause.opening ∨
      (span = Span.origin ∧ span.Marks source [] ∧ ¬ cause.opening <:+: source)
  | .markup _ | .missingStyle => span = Span.origin ∧ span.Marks source []
  | .stylesheet _ snippet => Placed source snippet span
  | .selector rejection => Placed source rejection.selector span

/-! ## Regions -/

/-- The lines of a region are lines of the source, and so is its anchor. -/
structure Region.LiesIn (region : Region) (source : Text) : Prop where
  lines : ∀ line ∈ region.lines, line.StandsIn source
  anchor : Anchored source region.anchor

theorem mem_of_mem_throughClose {line : Line} {lines : List Line} (h : line ∈ throughClose lines) :
    line ∈ lines := by
  fun_induction throughClose lines with
  | case1 => exact h
  | case2 first rest hclose =>
    rw [List.mem_singleton.mp h]
    exact List.mem_cons_self
  | case3 first rest hclose ih =>
    rcases List.mem_cons.mp h with rfl | hlater
    · exact List.mem_cons_self
    · exact List.mem_cons_of_mem first (ih hlater)

section

variable {source : Text} (hsize : source.bytes < UInt32.size)

include hsize

theorem spanAt_of_offsetOf? {line : Line} (hline : line.StandsIn source) {part : Text}
    {column : Nat} (h : Text.offsetOf? part line.text = some column) :
    (line.spanAt column part.bytes).Marks source part := by
  obtain ⟨front, back, htext, rfl⟩ := Text.exists_split_of_offsetOf? h
  exact hline.spanAt_marks hsize htext

/-- **The region of a source lies in it.** -/
theorem ofSource_liesIn : (Region.ofSource source).LiesIn source where
  lines := by
    intro line hline
    have hopen := mem_of_mem_throughClose hline
    exact standsIn_of_mem_lines ((List.dropWhile_suffix _).subset hopen)
  anchor := by
    rw [Region.ofSource, Region.ofLines]
    cases hopen : (LineIndex.ofText source).lines.dropWhile
        (fun line => !Text.contains styleOpen line.text) with
    | nil =>
      -- no line opens a style element
      refine .inr ⟨rfl, Span.origin_marks source, ?_⟩
      intro line hline hpart
      have hall := List.dropWhile_eq_nil_iff.mp hopen line hline
      rw [Text.contains_iff.mpr hpart] at hall
      cases hall
    | cons line rest =>
      have hhead := List.head?_dropWhile_not (fun line => !Text.contains styleOpen line.text)
        (LineIndex.ofText source).lines
      rw [hopen] at hhead
      have hpart : styleOpen <:+: line.text := by
        rw [← Text.contains_iff]
        simpa using hhead
      have hlines : line :: rest <:+ (LineIndex.ofText source).lines := by
        rw [← hopen]
        exact List.dropWhile_suffix _
      have hline := standsIn_of_mem_lines (hlines.subset List.mem_cons_self)
      cases hoffset : Text.offsetOf? styleOpen line.text with
      | none => exact absurd hpart (Text.offsetOf?_eq_none_iff.mp hoffset)
      | some column =>
        left
        simp only [List.head?_cons, hoffset, Option.getD_some]
        exact spanAt_of_offsetOf? hsize hline hoffset

/-! ## Texts on the lines of a region -/

theorem marks_of_findFrom {lines : List Line} (hlines : ∀ line ∈ lines, line.StandsIn source)
    {part : Text} {position found : Nat} {span : Span}
    (h : Region.findFrom part position lines = some (found, span)) : span.Marks source part := by
  induction lines generalizing position with
  | nil => cases h
  | cons line rest ih =>
    obtain ⟨hline, hrest⟩ := List.forall_mem_cons.mp hlines
    rw [Region.findFrom] at h
    cases hoffset : Text.offsetOf? part line.text with
    | some column =>
      rw [hoffset] at h
      cases h
      exact spanAt_of_offsetOf? hsize hline hoffset
    | none =>
      rw [hoffset] at h
      exact ih hrest h

namespace Region.LiesIn

variable {region : Region} (hregion : region.LiesIn source)

include hregion

theorem marks_of_find? {part : Text} {position found : Nat} {span : Span}
    (h : region.find? part position = some (found, span)) : span.Marks source part := by
  rw [Region.find?] at h
  split at h
  · cases h
  · exact marks_of_findFrom hsize
      (fun line hline => hregion.lines line (List.mem_of_mem_drop hline)) h

theorem locate (part : Text) : Placed source part (region.locate part) := by
  rw [Region.locate]
  cases hfind : region.find? part 0 with
  | none => exact .inr hregion.anchor
  | some found => exact .inl (hregion.marks_of_find? hsize hfind)

/-! ## Unused selectors -/

/-- Whatever was placed before, a selector is placed where it stands, or anchored. -/
theorem placeUnusedFrom (next : List (Text × Nat)) (records : List Unused) :
    List.Forall₂ (fun (record : Unused) span => Placed source record.selector span) records
      (Locate.placeUnusedFrom region next records) := by
  fun_induction Locate.placeUnusedFrom region next records with
  | case1 => exact .nil
  | case2 next record rest found position span hfound ih =>
    refine .cons (.inl ?_) ih
    -- found from the next line on, or from the first one
    rcases Option.or_eq_some_iff.mp hfound with hlater | ⟨-, hfirst⟩
    · exact hregion.marks_of_find? hsize hlater
    · exact hregion.marks_of_find? hsize hfirst
  | case3 next record rest found hfound ih => exact .cons (.inr hregion.anchor) ih

end Region.LiesIn

end

/-! ## Overwritten properties -/

/-- A property is found where it stands; `column` counts the bytes passed before. -/
theorem exists_split_of_findPropertyFrom {property text : Text} {before : Option Char}
    {column skip found : Nat} (h : findPropertyFrom property before column skip text = some found) :
    ∃ front back : Text, text = front ++ property ++ back ∧ found = column + front.bytes := by
  -- a character that is passed is one more in front
  have passed : ∀ (c : Char) (cs : Text) (column : Nat),
      (∃ front back : Text, cs = front ++ property ++ back ∧
        found = column + c.utf8Size + front.bytes) →
      ∃ front back : Text, c :: cs = front ++ property ++ back ∧ found = column + front.bytes := by
    rintro c cs column ⟨front, back, rfl, rfl⟩
    exact ⟨c :: front, back, rfl, by rw [Text.bytes_cons, Nat.add_assoc]⟩
  fun_induction findPropertyFrom property before column skip text with
  | case1 => cases h
  | case2 before column skip c cs ih => exact passed c cs column (ih h)
  | case3 before column c cs rest hlead standalone hhere =>
    cases h
    exact ⟨[], rest, Text.dropLead?_eq_some.mp hlead, rfl⟩
  | case4 before column c cs rest hlead standalone hhere ih => exact passed c cs column (ih h)
  | case5 before column c cs hlead ih => exact passed c cs column (ih h)

theorem exists_split_of_findProperty? {property line : Text} {column : Nat}
    (h : findProperty? property line = some column) :
    ∃ front back, line = front ++ property ++ back ∧ column = front.bytes := by
  rw [findProperty?] at h
  split at h
  · cases h
  · obtain ⟨front, back, hline, rfl⟩ := exists_split_of_findPropertyFrom h
    exact ⟨front, back, hline, Nat.zero_add _⟩

theorem map_fst_withHeaders (header : Text) (inBlock : Bool) (lines : List Line) :
    (withHeaders header inBlock lines).map Prod.fst = lines := by
  induction lines generalizing header inBlock with
  | nil => rfl
  | cons line rest ih => rw [withHeaders, List.map_cons, ih]

section

variable {source : Text} (hsize : source.bytes < UInt32.size)

include hsize

theorem Region.LiesIn.placeRecord {region : Region} (hregion : region.LiesIn source)
    (record : Overwritten) : Placed source record.property (Locate.placeRecord region record) := by
  rw [Locate.placeRecord]
  cases hplace : (withHeaders [] false region.lines).findSome? _ with
  | none => exact .inr hregion.anchor
  | some span =>
    obtain ⟨⟨line, header⟩, hmem, hspan⟩ := List.exists_of_findSome?_eq_some hplace
    have hline : line ∈ region.lines := by
      rw [← map_fst_withHeaders [] false region.lines]
      exact List.mem_map_of_mem hmem
    simp only at hspan
    split at hspan
    · obtain ⟨column, hcolumn, rfl⟩ := Option.map_eq_some_iff.mp hspan
      obtain ⟨front, back, htext, rfl⟩ := exists_split_of_findProperty? hcolumn
      exact .inl ((hregion.lines line hline).spanAt_marks hsize htext)
    · cases hspan

/-- **Each finding has its own text covered, or is anchored.** -/
theorem Region.LiesIn.placements {region : Region} (hregion : region.LiesIn source)
    (findings : Findings) :
    List.Forall₂ (fun finding span => Placed source finding.subject span) findings.all
      (Locate.placements region findings) := by
  rw [Findings.all, Locate.placements]
  refine List.rel_append ?_ ?_
  · rw [List.forall₂_map_left_iff]
    exact hregion.placeUnusedFrom hsize [] findings.unused
  · rw [List.forall₂_map_left_iff, placeOverwritten, List.forall₂_map_right_iff, List.forall₂_same]
    exact fun record _ => hregion.placeRecord hsize record

/-! ## Failures -/

theorem failurePlaced_failureSpan (failure : Failure) :
    FailurePlaced source (failureSpan source failure) failure := by
  have horigin := Span.origin_marks source
  have hregion := ofSource_liesIn hsize
  cases failure with
  | template cause =>
    show FailurePlaced source (firstOccurrence source cause.opening) (.template cause)
    rw [firstOccurrence]
    cases hoffset : Text.offsetOf? cause.opening source with
    | none => exact .inr ⟨rfl, horigin, Text.offsetOf?_eq_none_iff.mp hoffset⟩
    | some offset =>
      obtain ⟨before, after, hsource, rfl⟩ := Text.exists_split_of_offsetOf? hoffset
      exact .inl (Span.marks_of_split hsize hsource)
  | markup message => exact ⟨rfl, horigin⟩
  | missingStyle => exact ⟨rfl, horigin⟩
  | stylesheet error snippet => exact hregion.locate hsize snippet
  | selector rejection => exact hregion.locate hsize rejection.selector

/-! ## Lines that are no declarations -/

/-- The diagnostic of a line covers what is left of the line when it is trimmed. -/
theorem lineDiagnostic_marks {line : Line} (hline : line.StandsIn source) :
    (lineDiagnostic line).span.Marks source line.text.trim := by
  obtain ⟨front, hfront⟩ := Text.trimStart_suffix line.text
  obtain ⟨back, hback⟩ := Text.trimEnd_lead line.text.trimStart
  have htext : line.text = front ++ line.text.trim ++ back := by
    rw [Text.trim, List.append_assoc, hback, hfront]
  have hcolumn : line.text.bytes - line.text.trimStart.bytes = Text.bytes front := by
    have hbytes := congrArg Text.bytes hfront
    rw [Text.bytes_append] at hbytes
    omega
  show (line.spanAt _ line.text.trim.bytes).Marks source line.text.trim
  rw [hcolumn]
  exact hline.spanAt_marks hsize htext

omit hsize in
/-- A diagnostic for a line is about one of the lines, and that line is not blank. -/
theorem exists_line_of_mem {state : LineState} {lines : List Line} {diagnostic : Diagnostic}
    (h : diagnostic ∈ lineDiagnosticsFrom state lines) :
    ∃ line ∈ lines, line.text.trim ≠ [] ∧ diagnostic = lineDiagnostic line := by
  induction lines generalizing state with
  | nil => cases h
  | cons line rest ih =>
    -- one of the further lines, in whatever state
    have later : ∀ {state : LineState}, diagnostic ∈ lineDiagnosticsFrom state rest →
        ∃ other ∈ line :: rest, other.text.trim ≠ [] ∧ diagnostic = lineDiagnostic other := by
      intro state hrest
      obtain ⟨other, hother, hfound⟩ := ih hrest
      exact ⟨other, List.mem_cons_of_mem line hother, hfound⟩
    rw [lineDiagnosticsFrom] at h
    split at h
    · cases h
    · simp only at h
      split at h
      · rename_i hflagged
        rcases List.mem_cons.mp h with rfl | hrest
        · refine ⟨line, List.mem_cons_self, ?_, rfl⟩
          simp only [isFlagged, Bool.and_eq_true, Bool.not_eq_true'] at hflagged
          exact List.isEmpty_eq_false_iff.mp hflagged.1.1.1.2
        · exact later hrest
      · exact later h

/-! ## All spans -/

/-- **Spans cover what they are about.** In a source shorter than 2^32 bytes: the diagnostics of
findings are those of the findings with spans that are placed by the selector or property of each;
the span of a failure is placed by what the failure is attributed to; and a line that is no
declaration is covered without its outer blanks, as its message quotes it. -/
theorem spans_exact :
    (∀ findings : Findings, ∃ spans : List Span,
      List.Forall₂ (fun finding span => Placed source finding.subject span) findings.all spans ∧
      (diagnostics source findings).Perm (List.zipWith Finding.diagnostic findings.all spans)) ∧
    (∀ failure : Failure,
      FailurePlaced source (failureDiagnostic source failure).span failure) ∧
    ∀ diagnostic ∈ lineDiagnostics source, ∃ line ∈ (LineIndex.ofText source).lines,
      line.text.trim ≠ [] ∧
      diagnostic.message =
        "Expected 'property: value;' but found '".toList ++ line.text.trim ++ "'".toList ∧
      diagnostic.span.Marks source line.text.trim := by
  refine ⟨?_, failurePlaced_failureSpan hsize, ?_⟩
  · intro findings
    refine ⟨placements (Region.ofSource source) findings,
      (ofSource_liesIn hsize).placements hsize findings, ?_⟩
    rw [diagnostics_eq_sort]
    exact List.mergeSort_perm _ _
  · intro diagnostic hmem
    obtain ⟨line, hline, hne, rfl⟩ := exists_line_of_mem hmem
    exact ⟨line, hline, hne, rfl, lineDiagnostic_marks hsize (standsIn_of_mem_lines hline)⟩

end

/-- A selector and a line after characters of several bytes, with both characters of a line break at
the ends of lines. -/
theorem spans_exact_wide :
    let source : Text := "é<style>\r\n.é \x7b\r\n\u2003top\r\n\x7d".toList
    source.bytes < UInt32.size ∧
      FailurePlaced source ⟨11, 14⟩ (.selector ⟨".é".toList, []⟩) ∧
      ∃ line ∈ (LineIndex.ofText source).lines,
        line.text.trim ≠ [] ∧ (⟨21, 24⟩ : Span).Marks source line.text.trim := by
  intro source
  have hsize : source.bytes < UInt32.size := by decide
  have hfailure : (failureDiagnostic source (.selector ⟨".é".toList, []⟩)).span = ⟨11, 14⟩ := by
    decide +kernel
  have hline : (lineDiagnostics source).map Diagnostic.span = [⟨21, 24⟩] := by decide +kernel
  obtain ⟨diagnostic, hmem, hspan⟩ : ∃ diagnostic ∈ lineDiagnostics source,
      diagnostic.span = ⟨21, 24⟩ := by
    rw [← List.mem_map, hline]
    exact List.mem_cons_self
  obtain ⟨-, hfailures, hlines⟩ := spans_exact hsize
  obtain ⟨line, hmem, hne, -, hmarks⟩ := hlines diagnostic hmem
  exact ⟨hsize, hfailure ▸ hfailures _, line, hmem, hne, hspan ▸ hmarks⟩

end Locate

end StyleAudit
