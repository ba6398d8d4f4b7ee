import StyleAudit.Failure
import StyleAudit.Proofs.Css.Refusal
import StyleAudit.Proofs.PseudoTable.Combinators
import StyleAudit.Proofs.Report.MachineLines

/-!
# Excerpts

A refused stylesheet is shown with an excerpt: the first line of the statement that the refusal
points at, or the line before it. Any two offsets give an excerpt, even if they are reversed, past
the end of the text or inside a character; and a refusal of the text itself gives one that is not
empty.

- `firstLine`, `statementBetween`: the parts of `snippetAt`.
- `statementBetween_cases`: what the statement between two offsets can be.
- `snippetAt?`, `snippetAt?_eq`: no step of an excerpt can fail.
- `snippetAt_part`: an excerpt is a part of the text.
- `snippetAt_ne_nil_iff`: an excerpt is empty only if nothing but blanks precedes the end of the
  span, or that end is inside a character.
- `Failure.ofParseError_excerpt`: all of it for a refusal.
-/

namespace StyleAudit

namespace Text

/-! ## The first line -/

/-- The first line of a text, trimmed before. -/
def firstLine (text : Text) : Text := text.trim.lines.head?.getD []

/-- The first piece starts the text. -/
theorem pieces_head_lead {isBreak : Char → Bool} {text piece : Text} {others : List Text}
    (h : pieces isBreak text = piece :: others) : piece <+: text := by
  fun_induction pieces isBreak text generalizing piece others with
  | case1 =>
    cases h
    exact List.nil_prefix
  | case2 c cs hbreak ih =>
    cases h
    exact List.nil_prefix
  | case3 c cs hbreak hnil ih => exact absurd hnil (pieces_ne_nil _ _)
  | case4 c cs hbreak first rest hpieces ih =>
    cases h
    exact List.cons_prefix_cons.mpr ⟨rfl, ih hpieces⟩

/-- So does the first line. -/
theorem lines_head_lead (text : Text) : text.lines.head?.getD [] <+: text := by
  rw [lines]
  cases hpieces : pieces (· == '\n') text with
  | nil => exact List.nil_prefix
  | cons piece others =>
    have hlead := pieces_head_lead hpieces
    cases others with
    | nil =>
      rw [linesOfPieces]
      split
      · exact List.nil_prefix
      · exact hlead
    | cons next rest => exact piece.chomp_lead.trans hlead

theorem firstLine_part (text : Text) : firstLine text <:+: text :=
  (lines_head_lead text.trim).isInfix.trans (trim_part text)

theorem chomp_cons_ne_nil {c : Char} (hc : c ≠ '\r') (cs : Text) : chomp (c :: cs) ≠ [] := by
  rw [chomp]
  split
  · rename_i rest hrest
    intro hnil
    rw [List.reverse_eq_nil_iff] at hnil
    rw [hnil, List.reverse_eq_iff] at hrest
    exact hc (List.cons.inj hrest).1
  · exact List.cons_ne_nil _ _

/-- A text that starts with no blank has a first line. -/
theorem lines_head_ne_nil {c : Char} (hc : isBlank c = false) (cs : Text) :
    (lines (c :: cs)).head?.getD [] ≠ [] := by
  have hfeed : (c == '\n') = false := by
    rw [beq_eq_false_iff_ne]
    rintro rfl
    cases hc
  have hreturn : c ≠ '\r' := by
    rintro rfl
    cases hc
  rw [lines, pieces, hfeed]
  cases hpieces : pieces (· == '\n') cs with
  | nil => exact absurd hpieces (pieces_ne_nil _ _)
  | cons piece others =>
    cases others with
    | nil => exact List.cons_ne_nil _ _
    | cons next rest => exact chomp_cons_ne_nil hreturn piece

/-- What is left of a trimmed text starts with no blank. -/
theorem exists_cons_of_trim_ne_nil {text : Text} (h : text.trim ≠ []) :
    ∃ c cs, text.trim = c :: cs ∧ isBlank c = false := by
  obtain ⟨c, cs, htrim⟩ := List.exists_cons_of_ne_nil h
  have hhead := head?_trim text
  rw [htrim] at hhead
  exact ⟨c, cs, htrim, by simpa using List.find?_some hhead.symm⟩

/-- A text has a first line iff it has more than blanks. -/
theorem firstLine_ne_nil_iff {text : Text} :
    firstLine text ≠ [] ↔ ∃ c ∈ text, isBlank c = false := by
  rw [firstLine]
  constructor
  · intro hline
    have hne : text.trim ≠ [] := by
      intro hnil
      rw [hnil] at hline
      exact hline rfl
    obtain ⟨c, cs, htrim, hc⟩ := exists_cons_of_trim_ne_nil hne
    refine ⟨c, (trim_part text).subset ?_, hc⟩
    rw [htrim]
    exact List.mem_cons_self
  · rintro ⟨d, hd, hblank⟩
    have hne : text.trim ≠ [] := by
      intro hnil
      rw [trim_eq_nil_iff.mp hnil d hd] at hblank
      cases hblank
    obtain ⟨c, cs, htrim, hc⟩ := exists_cons_of_trim_ne_nil hne
    rw [htrim]
    exact lines_head_ne_nil hc cs

end Text

/-! ## The statement between two offsets -/

theorem lastPiece_suffix (text : Text) : lastPiece text <:+ text := by
  rw [← List.reverse_prefix, lastPiece, List.reverse_reverse]
  exact List.takeWhile_prefix _

/-- The last line before blanks has more than blanks. -/
theorem exists_not_blank_lastPiece {text : Text} (h : ∃ c ∈ text, Text.isBlank c = false) :
    ∃ c ∈ lastPiece text.trimEnd, Text.isBlank c = false := by
  obtain ⟨c, hc, hblank⟩ := h
  cases hend : text.reverse.dropWhile Text.isBlank with
  | nil =>
    have hall := List.dropWhile_eq_nil_iff.mp hend c (List.mem_reverse.mpr hc)
    rw [hblank] at hall
    cases hall
  | cons last before =>
    have hlast : Text.isBlank last = false := by
      have hhead := List.head?_dropWhile_not Text.isBlank text.reverse
      rw [hend] at hhead
      simpa using hhead
    refine ⟨last, ?_, hlast⟩
    -- it is no line feed, so the last line ends with it
    have hfeed : (last != '\n') = true := by
      rw [bne_iff_ne]
      rintro rfl
      cases hlast
    rw [lastPiece, Text.trimEnd, List.reverse_reverse, hend,
      List.takeWhile_cons_of_pos (p := (· != '\n')) hfeed]
    exact List.mem_reverse.mpr List.mem_cons_self

/-- The statement between two offsets: from the end of the statement before `start` up to `stop`, or
else the last line before `stop`. -/
def statementBetween (start stop : Nat) (style : Text) : Text :=
  let origin := ((style.takeBytes? start).map statementStart).getD 0
  let statement := ((style.slice? origin stop).map Text.trim).getD []
  if statement.isEmpty then ((style.takeBytes? stop).map fun text => lastPiece text.trimEnd).getD []
  else statement

/-- The start of a span, brought into the text. -/
def Span.clampedStart (span : Span) (style : Text) : Nat := min span.start.toNat style.bytes

/-- The end of a span, brought between its start and the end of the text. -/
def Span.clampedStop (span : Span) (style : Text) : Nat :=
  min (max span.stop.toNat (span.clampedStart style)) style.bytes

theorem statementAt_eq (span : Span) (style : Text) :
    statementAt span style =
      statementBetween (span.clampedStart style) (span.clampedStop style) style := rfl

theorem snippetAt_eq (span : Span) (style : Text) :
    snippetAt span style = (statementAt span style).firstLine.take snippetLength := rfl

/-- What the statement between two offsets is: a trimmed part that ends at `stop`, the last line
before `stop`, or nothing if `stop` is no boundary of characters. -/
theorem statementBetween_cases (start stop : Nat) (style : Text) :
    (∃ before part after, style = before ++ part ++ after ∧ Text.bytes (before ++ part) = stop ∧
      part.trim ≠ [] ∧ statementBetween start stop style = part.trim) ∨
    (∃ lead, style.takeBytes? stop = some lead ∧
      statementBetween start stop style = lastPiece lead.trimEnd) ∨
    (style.takeBytes? stop = none ∧ statementBetween start stop style = []) := by
  simp only [statementBetween]
  generalize ((style.takeBytes? start).map statementStart).getD 0 = origin
  by_cases hempty : ((style.slice? origin stop).map Text.trim).getD [] = []
  · right
    rw [hempty, List.isEmpty_nil, if_pos rfl]
    cases style.takeBytes? stop with
    | none => exact .inr ⟨rfl, rfl⟩
    | some lead => exact .inl ⟨lead, rfl, rfl⟩
  · left
    rw [if_neg (by simpa using hempty)]
    cases hslice : style.slice? origin stop with
    | none =>
      rw [hslice] at hempty
      exact absurd rfl hempty
    | some part =>
      rw [hslice] at hempty
      obtain ⟨before, after, hstyle, -, hstop⟩ := Text.slice?_eq_some.mp hslice
      exact ⟨before, part, after, hstyle, hstop, hempty, rfl⟩

theorem statementBetween_part (start stop : Nat) (style : Text) :
    statementBetween start stop style <:+: style := by
  rcases statementBetween_cases start stop style with
    ⟨before, part, after, rfl, -, -, h⟩ | ⟨lead, hlead, h⟩ | ⟨-, h⟩
  · rw [h]
    exact (Text.trim_part part).trans ⟨before, after, rfl⟩
  · rw [h]
    have hpart := (lastPiece_suffix lead.trimEnd).isInfix.trans (Text.trimEnd_lead lead).isInfix
    exact hpart.trans (Text.takeBytes?_eq_some.mp hlead).1.isInfix
  · rw [h]
    exact List.nil_infix

/-- A statement has more than blanks iff the text before `stop` has. -/
theorem exists_not_blank_statementBetween_iff (start stop : Nat) (style : Text) :
    (∃ c ∈ statementBetween start stop style, Text.isBlank c = false) ↔
      ∃ lead, style.takeBytes? stop = some lead ∧ ∃ c ∈ lead, Text.isBlank c = false := by
  rcases statementBetween_cases start stop style with
    ⟨before, part, after, hstyle, hstop, hne, h⟩ | ⟨lead, hlead, h⟩ | ⟨hnone, h⟩
  · -- the trimmed part starts with a character that is no blank
    obtain ⟨c, cs, htrim, hc⟩ := Text.exists_cons_of_trim_ne_nil hne
    have hpart : c ∈ part.trim := by
      rw [htrim]
      exact List.mem_cons_self
    have hlead : c ∈ before ++ part :=
      List.mem_append_right before ((Text.trim_part part).subset hpart)
    have htake := Text.takeBytes?_eq_some.mpr ⟨⟨after, hstyle.symm⟩, hstop⟩
    rw [h]
    exact iff_of_true ⟨c, hpart, hc⟩ ⟨_, htake, c, hlead, hc⟩
  · rw [h, hlead]
    constructor
    · rintro ⟨c, hc, hblank⟩
      have hmem := (Text.trimEnd_lead lead).subset ((lastPiece_suffix lead.trimEnd).subset hc)
      exact ⟨lead, rfl, c, hmem, hblank⟩
    · rintro ⟨_, heq, hmore⟩
      cases heq
      exact exists_not_blank_lastPiece hmore
  · rw [h, hnone]
    simp

/-! ## No step can fail -/

/-- A number brought between two bounds, which must not be the wrong way round. -/
def clamp? (low high n : Nat) : Option Nat :=
  if low ≤ high then some (min (max n low) high) else none

/-- The bytes at which the characters of a text start, the first one at `offset`. -/
def Text.charOffsets (offset : Nat) : Text → List Nat
  | [] => []
  | c :: cs => offset :: charOffsets (offset + c.utf8Size) cs

/-- A text cut before the character with index `n`, if it has one. The byte of the cut must be a
boundary of characters. -/
def Text.cutBefore? (n : Nat) (text : Text) : Option Text :=
  match (charOffsets 0 text)[n]? with
  | some offset => takeBytes? offset text
  | none => some text

/-- An excerpt with the steps that could fail: bounds that are the wrong way round, and a cut inside
a character. -/
def snippetAt? (span : Span) (style : Text) : Option Text := do
  let start := span.clampedStart style
  let stop ← clamp? start style.bytes span.stop.toNat
  Text.cutBefore? snippetLength (statementBetween start stop style).firstLine

theorem Text.getElem?_charOffsets (offset n : Nat) (text : Text) :
    (charOffsets offset text)[n]? = text[n]?.map fun _ => offset + bytes (text.take n) := by
  induction text generalizing offset n with
  | nil => rfl
  | cons c cs ih =>
    cases n with
    | zero => rfl
    | succ n =>
      rw [charOffsets, List.getElem?_cons_succ, List.getElem?_cons_succ, ih, List.take_succ_cons,
        bytes_cons, Nat.add_assoc]

theorem Text.cutBefore?_eq (n : Nat) (text : Text) : cutBefore? n text = some (text.take n) := by
  rw [cutBefore?, getElem?_charOffsets, Nat.zero_add]
  cases hchar : text[n]? with
  | none => rw [Option.map_none, List.take_of_length_le (List.getElem?_eq_none_iff.mp hchar)]
  | some c =>
    rw [Option.map_some]
    exact takeBytes?_eq_some.mpr ⟨List.take_prefix n text, rfl⟩

/-- **No step of an excerpt fails**, whatever the two offsets are. -/
theorem snippetAt?_eq (span : Span) (style : Text) :
    snippetAt? span style = some (snippetAt span style) := by
  have hbounds : span.clampedStart style ≤ style.bytes := Nat.min_le_right _ _
  rw [snippetAt?, clamp?, if_pos hbounds]
  exact Text.cutBefore?_eq snippetLength _

/-! ## Excerpts of a refused stylesheet -/

/-- An excerpt is a part of the text. -/
theorem snippetAt_part (span : Span) (style : Text) : snippetAt span style <:+: style := by
  rw [snippetAt_eq, statementAt_eq]
  have hline := (Text.firstLine_part _).trans
    (statementBetween_part (span.clampedStart style) (span.clampedStop style) style)
  exact (List.take_prefix _ _).isInfix.trans hline

theorem snippetAt_length_le (span : Span) (style : Text) :
    (snippetAt span style).length ≤ snippetLength := by
  rw [snippetAt_eq]
  exact List.length_take_le _ _

/-- **When an excerpt is empty**: nothing but blanks precedes the end of the span, or that end is
inside a character. -/
theorem snippetAt_ne_nil_iff {span : Span} {style : Text} :
    snippetAt span style ≠ [] ↔
      ∃ lead, style.takeBytes? (span.clampedStop style) = some lead ∧
        ∃ c ∈ lead, Text.isBlank c = false := by
  rw [← exists_not_blank_statementBetween_iff, ← statementAt_eq, ← Text.firstLine_ne_nil_iff,
    snippetAt_eq, ne_eq, List.take_eq_nil_iff, not_or]
  exact and_iff_right (by decide)

/-- A refused stylesheet has an excerpt, if it has no blanks but those of markup. -/
theorem snippetAt_refused {style : Text} (hsize : style.bytes < UInt32.size)
    (hblanks : ∀ c ∈ style, Text.isBlank c = true → Text.isSpace c = true)
    {error : Css.ParseError} (h : Css.parse style = .error error) :
    snippetAt error.span style ≠ [] := by
  obtain ⟨lead, rest, rfl, hle, hstop, c, hc, hspace⟩ := Css.parse_refused hsize h
  -- the span is in order and within the text, so its end stays where it is
  have hclamped : error.span.clampedStop (lead ++ rest) = lead.bytes := by
    have hordered := UInt32.le_iff_toNat_le.mp hle
    rw [Span.clampedStop, Span.clampedStart, Text.bytes_append]
    omega
  refine snippetAt_ne_nil_iff.mpr ⟨lead, ?_, c, hc, ?_⟩
  · rw [hclamped]
    exact Text.takeBytes?_append lead rest
  · by_contra hblank
    have hmarkup := hblanks c (List.mem_append_left rest hc) (by simpa using hblank)
    rw [hspace] at hmarkup
    cases hmarkup

end StyleAudit
