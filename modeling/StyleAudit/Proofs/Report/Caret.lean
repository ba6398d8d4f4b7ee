import StyleAudit.Proofs.Report.Formats
import StyleAudit.Proofs.Report.MachineLines
import StyleAudit.Proofs.Source.Lines

/-!
# The caret below a line

A block for people shows the line of a finding and a caret below it. The line is cut out of the
source, the column is counted in bytes, the caret is moved by characters, and a number of any width
stands before the line. Together they put the caret below the character at which the finding starts,
or right after the line if it starts at its end.

- `OnLine`: an offset on a line of a source, between two characters or at an end of the line.
- `OnLine.position?_eq`, `OnLine.map_line?`: its position, and the text of its line.
- `Entry.shownRow`, `Entry.caretRow`, `Entry.excerpt_eq`: the two rows of an excerpt.
- `Entry.length_shownRow`, `Entry.drop_shownRow`: the upper row from the place of the caret on.
- `humanVerboseText_caret`: all of it, for the block of a diagnostic in a report.
-/

namespace StyleAudit

/-- An offset lies on a line of a source: `number` lines are before it, and the text of the line,
without its break, is `front` before the offset and `back` after it. -/
def OnLine (source : Text) (offset number : Nat) (front back : Text) : Prop :=
  ∃ (earlier : List Text) (piece : Text) (later : List Text),
    source.splitOn '\n' = earlier ++ piece :: later ∧
    earlier.length = number ∧ piece.chomp = front ++ back ∧
    offset = Text.bytes (earlier.flatMap (· ++ ['\n']) ++ front)

namespace OnLine

variable {source : Text} {number : Nat} {front back : Text}

/-- The line of an offset, and how far the offset is from its start. -/
theorem exists_line {offset : Nat} (h : OnLine source offset number front back) :
    ∃ line, (LineIndex.ofText source).lines[number]? = some line ∧
      line.text = front ++ back ∧ offset = line.start + front.bytes := by
  obtain ⟨earlier, piece, later, hpieces, rfl, hline, rfl⟩ := h
  rw [← Text.pieces_eq_splitOn] at hpieces
  refine ⟨_, LineIndex.getElem?_lines hpieces, hline, ?_⟩
  rw [Text.bytes_append, Text.bytes_flatMap_feed]

/-- What follows the offset in the source starts with what follows it on the line. -/
theorem exists_dropBytes? {offset : Nat} (h : OnLine source offset number front back) :
    ∃ rest, source.dropBytes? offset = some (back ++ rest) := by
  obtain ⟨line, hline, htext, rfl⟩ := h.exists_line
  obtain ⟨before, after, hsource, hstart⟩ :=
    standsIn_of_mem_lines (List.mem_of_getElem? hline)
  refine ⟨after, Text.dropBytes?_eq_some.mpr ⟨before ++ front, ?_, ?_⟩⟩
  · rw [hsource, htext]
    simp
  · rw [Text.bytes_append, hstart]

section

variable (hsize : source.bytes < UInt32.size)

include hsize

/-- **The position of an offset on a line.** -/
theorem position?_eq {offset : UInt32} (h : OnLine source offset.toNat number front back) :
    (LineIndex.ofText source).position? offset = some ⟨number, front.bytes⟩ := by
  obtain ⟨line, hline, htext, hoffset⟩ := h.exists_line
  have hwidth : line.text.bytes = front.bytes + back.bytes := by
    rw [htext, Text.bytes_append]
  have hwithin : offset.toNat ≤ source.bytes := by
    obtain ⟨before, after, hsource, hstart⟩ :=
      standsIn_of_mem_lines (List.mem_of_getElem? hline)
    have hbytes := congrArg Text.bytes hsource
    rw [Text.bytes_append, Text.bytes_append] at hbytes
    omega
  have hstart : (LineIndex.lineStarts source)[number]? = some line.start := by
    rw [LineIndex.getElem?_lineStarts, hline]
    rfl
  -- the next line starts after the end of this one
  have hnext : ∀ next, (LineIndex.lineStarts source)[number + 1]? = some next →
      offset.toNat < next := by
    intro next hlater
    rw [LineIndex.getElem?_lineStarts, Option.map_eq_some_iff] at hlater
    obtain ⟨other, hother, rfl⟩ := hlater
    obtain ⟨hi, rfl⟩ := List.getElem?_eq_some_iff.mp hline
    obtain ⟨hj, rfl⟩ := List.getElem?_eq_some_iff.mp hother
    have hordered := List.pairwise_iff_getElem.mp (LineIndex.lines_ordered source) _ _ hi hj
      (Nat.lt_succ_self number)
    omega
  have hcolumn : offset.toNat - line.start = front.bytes := by omega
  rw [LineIndex.position?_eq_some hsize hwithin hstart (by omega) hnext, hcolumn]

/-- The text of the line is cut out of the source. -/
theorem map_line? {offset : Nat} (h : OnLine source offset number front back) :
    ((LineIndex.ofText source).line? number source).map Line.text = some (front ++ back) := by
  obtain ⟨line, hline, htext, -⟩ := h.exists_line
  rw [LineIndex.line?_eq hsize, hline, Option.map_some, htext]

end

theorem isOneLine {offset : Nat} (h : OnLine source offset number front back) :
    Text.IsOneLine (front ++ back) := by
  obtain ⟨line, hline, htext, -⟩ := h.exists_line
  rw [← htext]
  exact isOneLine_of_mem_lineIndex (List.mem_of_getElem? hline)

end OnLine

/-! ## Two rows -/

namespace Entry

/-- What stands before a line, or below that: a label between blanks and a bar. -/
def gutter (label : Text) : Text := [' ', ' '] ++ label ++ [' ', '|', ' ']

/-- The row that shows a line. -/
def shownRow (number : Nat) (line : Text) : Text := gutter (Text.ofNat number) ++ line

/-- What stands before the caret, below `front` on the line. -/
def caretLead (number : Nat) (front : Text) : Text :=
  gutter (List.replicate (Text.ofNat number).length ' ') ++ List.replicate front.length ' '

/-- The row below, with the caret right after what is below `front`. -/
def caretRow (number : Nat) (front : Text) : Text := caretLead number front ++ ['^']

theorem caretIndent_append (front back : Text) :
    caretIndent (front ++ back) front.bytes = front.length := by
  rw [caretIndent, Text.takeBytes?_append]
  rfl

/-- **An excerpt is the two rows**, where the column is the number of bytes before the caret. -/
theorem excerpt_eq (number : Nat) (front back : Text) :
    excerpt number front.bytes (front ++ back) =
      shownRow number (front ++ back) ++ ['\n'] ++ caretRow number front ++ ['\n'] := by
  have hblanks : "  ".toList = [' ', ' '] := rfl
  have hbar : " | ".toList = [' ', '|', ' '] := rfl
  have hcaret : "^\n".toList = ['^'] ++ ['\n'] := rfl
  have hfeed : "\n".toList = ['\n'] := rfl
  unfold excerpt
  simp only [caretIndent_append, hblanks, hbar, hcaret, hfeed, shownRow, caretRow, caretLead,
    gutter, List.append_assoc]

/-- A label takes as much room as blanks in its place. -/
theorem length_caretLead (number : Nat) (front : Text) :
    (caretLead number front).length = (gutter (Text.ofNat number) ++ front).length := by
  simp [caretLead, gutter]

/-- From the place of the caret on, the upper row has what follows `front`. -/
theorem drop_shownRow (number : Nat) (front back : Text) :
    (shownRow number (front ++ back)).drop (caretLead number front).length = back := by
  rw [length_caretLead, shownRow, ← List.append_assoc, List.drop_left]

/-- The upper row is longer than what precedes the caret by what follows `front`. -/
theorem length_shownRow (number : Nat) (front back : Text) :
    (shownRow number (front ++ back)).length = (caretLead number front).length + back.length := by
  rw [length_caretLead, shownRow, ← List.append_assoc, List.length_append]

theorem caret_not_mem_lead (number : Nat) (front : Text) : '^' ∉ caretLead number front := by
  simp [caretLead, gutter]

theorem caretLead_isOneLine (number : Nat) (front : Text) :
    (caretLead number front).IsOneLine := by
  simp [Text.IsOneLine, caretLead, gutter]

theorem shownRow_isOneLine {line : Text} (h : line.IsOneLine) (number : Nat) :
    (shownRow number line).IsOneLine := by
  have hblanks : Text.IsOneLine [' ', ' '] := by decide
  have hbar : Text.IsOneLine [' ', '|', ' '] := by decide
  exact .append (.append (hblanks.append (Text.ofNat_isOneLine number)) hbar) h

end Entry

/-! ## Blocks -/

/-- What stands above the excerpt in the block of a diagnostic at a given line and column. -/
def Diagnostic.heading (diagnostic : Diagnostic) (path : Text) (line column : Nat) : Text :=
  path ++ ":".toList ++ Text.ofNat line ++ ":".toList ++ Text.ofNat column ++ "\n".toList ++
    diagnostic.severity.label ++ ": ".toList ++
    (diagnostic.message ++ " (".toList ++ diagnostic.code.name ++ ")".toList) ++ "\n".toList

/-- A report with excerpts is made up of the blocks of its diagnostics. -/
theorem humanVerboseText_eq (path source : Text) (diagnostics : List Diagnostic) :
    humanVerboseText source (Entry.ofDiagnostics path source diagnostics) =
      diagnostics.flatMap fun diagnostic =>
        (Listed.mk path source diagnostic).row.verboseBlock := by
  show (diagnostics.map _).flatMap _ = _
  rw [List.flatMap_map]
  rfl

/-- **The block of a diagnostic that starts on a line.** -/
theorem verboseBlock_eq {path source : Text} (hsize : source.bytes < UInt32.size)
    {diagnostic : Diagnostic} {number : Nat} {front back : Text}
    (h : OnLine source diagnostic.span.start.toNat number front back) :
    (Listed.mk path source diagnostic).row.verboseBlock =
      diagnostic.heading path (number + 1) (front.bytes + 1) ++
        (Entry.shownRow (number + 1) (front ++ back) ++ ['\n'] ++
          Entry.caretRow (number + 1) front ++ ['\n']) ++ ['\n'] := by
  have hstart : (Listed.mk path source diagnostic).entry.start =
      ⟨number + 1, front.bytes + 1, diagnostic.span.start.toNat⟩ := by
    show Place.ofPosition (((LineIndex.ofText source).position? _).getD ⟨0, 0⟩) _ = _
    rw [h.position?_eq hsize]
    rfl
  show (Listed.mk path source diagnostic).entry.humanBlock (((LineIndex.ofText source).line?
    ((Listed.mk path source diagnostic).entry.start.line - 1) source).map Line.text) = _
  rw [hstart, Nat.add_sub_cancel, h.map_line? hsize]
  unfold Entry.humanBlock
  simp only [hstart, Nat.add_sub_cancel, Entry.excerpt_eq]
  rfl

/-- **The caret is below the character at which a finding starts.** In a source shorter than 2^32
bytes, let a diagnostic start on a line, between two characters or at an end of it: `front` and
`back` are the text of the line before and after that place. Its block in the report shows the whole
line with its number, and below it a row whose last character is its only caret. From the index of
the caret on the upper row is `back`, and so is the source from the start of the span on; if the
line ends there the upper row is as long as what precedes the caret. -/
theorem humanVerboseText_caret (path source : Text) (hsize : source.bytes < UInt32.size)
    (before after : List Diagnostic) (diagnostic : Diagnostic) {number : Nat} {front back : Text}
    (h : OnLine source diagnostic.span.start.toNat number front back) :
    ∃ shown lead : Text,
      humanVerboseText source (Entry.ofDiagnostics path source (before ++ diagnostic :: after)) =
        humanVerboseText source (Entry.ofDiagnostics path source before) ++
          (diagnostic.heading path (number + 1) (front.bytes + 1) ++
            (shown ++ ['\n'] ++ (lead ++ ['^']) ++ ['\n']) ++ ['\n']) ++
          humanVerboseText source (Entry.ofDiagnostics path source after) ∧
      shown = [' ', ' '] ++ Text.ofNat (number + 1) ++ [' ', '|', ' '] ++ (front ++ back) ∧
      '\n' ∉ shown ∧ '\n' ∉ lead ∧ '^' ∉ lead ∧
      shown.length = lead.length + back.length ∧ shown.drop lead.length = back ∧
      ∃ rest, source.dropBytes? diagnostic.span.start.toNat = some (back ++ rest) := by
  refine ⟨Entry.shownRow (number + 1) (front ++ back), Entry.caretLead (number + 1) front, ?_, rfl,
    Entry.shownRow_isOneLine h.isOneLine _, Entry.caretLead_isOneLine _ _,
    Entry.caret_not_mem_lead _ _, Entry.length_shownRow _ _ _, Entry.drop_shownRow _ _ _,
    h.exists_dropBytes?⟩
  rw [humanVerboseText_eq, humanVerboseText_eq, humanVerboseText_eq, List.flatMap_append,
    List.flatMap_cons, verboseBlock_eq hsize h, ← List.append_assoc]
  rfl

/-- A finding after a character of two bytes, on a line whose number has two digits and whose break
has a carriage return. -/
theorem humanVerboseText_caret_tenth :
    let source : Text := List.replicate 9 '\n' ++ ['é', ' ', '.', 'a', '\r', '\n']
    let diagnostic := Diagnostic.ofCode .unusedSelector [] (.ofOffsets 12 14)
    source.bytes < UInt32.size ∧
    OnLine source diagnostic.span.start.toNat 9 ['é', ' '] ['.', 'a'] ∧
    ∃ shown lead : Text,
      (shown ++ ['\n'] ++ (lead ++ ['^']) ++ ['\n']) <:+:
        humanVerboseText source (Entry.ofDiagnostics [] source [diagnostic]) ∧
      shown = [' ', ' ', '1', '0', ' ', '|', ' ', 'é', ' ', '.', 'a'] ∧
      '^' ∉ lead ∧ shown.length = lead.length + 2 ∧ shown.drop lead.length = ['.', 'a'] := by
  intro source diagnostic
  have hsize : source.bytes < UInt32.size := by decide
  have hline : OnLine source diagnostic.span.start.toNat 9 ['é', ' '] ['.', 'a'] :=
    ⟨List.replicate 9 [], ['é', ' ', '.', 'a', '\r'], [[]], by decide, rfl, by decide, by decide⟩
  obtain ⟨shown, lead, htext, hshown, -, -, hcaret, hlength, hdrop, -⟩ :=
    humanVerboseText_caret [] source hsize [] [] diagnostic hline
  have hnone : humanVerboseText source (Entry.ofDiagnostics [] source []) = [] := rfl
  simp only [hnone, List.nil_append, List.append_nil] at htext
  exact ⟨hsize, hline, shown, lead, ⟨_, ['\n'], htext.symm⟩, hshown, hcaret, hlength, hdrop⟩

end StyleAudit
