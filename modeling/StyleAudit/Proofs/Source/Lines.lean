import StyleAudit.Proofs.Source.Positions

/-!
# Lines cut out of their text

The lines of a text are its pieces between line feeds, without a carriage return at their end. They
can also be cut out of the text with the table of their starts: a line ends one byte before the next
one starts, or with the text, and one byte earlier if there is a carriage return. A cut that fails
would lose a line without a trace; none does, and what is left between the lines is their breaks.

- `Text.pieces_eq_splitOn`, `Text.exists_around_piece`: the pieces of a text, and the place of each.
- `Text.chomp_concat`, `Text.chomp_eq_self`: what becomes of the end of a piece.
- `LineIndex.lineStarts_eq_map`: the table of a text is that of its lines.
- `LineIndex.lineSpan?_eq`, `LineIndex.line?_eq`: each line is found where it stands.
- `LineIndex.exists_line_or_break`: each byte is in a line or belongs to a break.
- `LineIndex.readLines_eq`: all lines are cut out of the text; with all of the above in
  `LineIndex.readLines_complete`.
-/

namespace StyleAudit

namespace Text

/-! ## Pieces and their ends -/

theorem pieces_eq_splitOn (text : Text) : text.pieces (· == '\n') = text.splitOn '\n' := by
  induction text with
  | nil => rfl
  | cons c cs ih =>
    rw [pieces, ih, List.splitOn, List.splitOn, List.splitOnP_cons_eq_if_modifyHead]
    split
    · rfl
    · cases hpieces : List.splitOnP (· == '\n') cs with
      | nil => exact absurd hpieces (List.splitOnP_ne_nil _ _)
      | cons first others => rfl

/-- What precedes the first line feed is the first piece. -/
theorem pieces_feed {piece : Text} (h : ∀ c ∈ piece, (c == '\n') = false) (rest : Text) :
    (piece ++ '\n' :: rest).pieces (· == '\n') = piece :: rest.pieces (· == '\n') := by
  apply pieces_of_free_append
  · rfl
  · exact h

theorem chomp_concat (text : Text) : chomp (text ++ ['\r']) = text := by
  rw [chomp, List.reverse_append]
  exact text.reverse_reverse

theorem chomp_eq_self {text : Text} (h : ∀ front, text ≠ front ++ ['\r']) : chomp text = text := by
  rw [chomp]
  split
  · rename_i rest hrest
    rw [List.reverse_eq_iff, List.reverse_cons] at hrest
    exact absurd hrest (h _)
  · rfl

/-- A piece stands after those before it, each with its line feed, and is followed by a line feed
unless it is the last one. -/
theorem exists_around_piece {text piece : Text} {earlier later : List Text}
    (h : text.pieces (· == '\n') = earlier ++ piece :: later) :
    ∃ after, text = earlier.flatMap (· ++ ['\n']) ++ piece ++ after ∧
      (after = [] ∧ later = [] ∨ later ≠ [] ∧ ∃ rest, after = '\n' :: rest) := by
  induction text using separated_induction (· == '\n') generalizing earlier with
  | free only hfree =>
    rw [pieces_of_free hfree, List.singleton_eq_append_iff] at h
    rcases h with ⟨rfl, hpiece⟩ | ⟨-, hnone⟩
    · obtain ⟨rfl, rfl⟩ := List.cons.inj hpiece
      exact ⟨[], by simp, .inl ⟨rfl, rfl⟩⟩
    · cases hnone
  | separated first c rest hfree hc ih =>
    obtain rfl := beq_iff_eq.mp hc
    rw [pieces_feed hfree] at h
    cases earlier with
    | nil =>
      obtain ⟨rfl, rfl⟩ := List.cons.inj h
      exact ⟨'\n' :: rest, rfl, .inr ⟨pieces_ne_nil _ _, rest, rfl⟩⟩
    | cons other others =>
      obtain ⟨rfl, hrest⟩ := List.cons.inj h
      obtain ⟨after, rfl, hafter⟩ := ih hrest
      exact ⟨after, by simp, hafter⟩

theorem bytes_flatMap_feed (pieces : List Text) :
    bytes (pieces.flatMap (· ++ ['\n'])) = bytesOfPieces pieces := by
  induction pieces with
  | nil => rfl
  | cons piece rest ih =>
    rw [List.flatMap_cons, bytes_append, bytes_append, ih]
    rfl

/-- The last byte of a part is a carriage return iff its last character is one. -/
theorem getElem?_utf8_last_iff (before part after : Text) :
    part ≠ [] ∧ (before ++ part ++ after).utf8[bytes (before ++ part) - 1]? = some '\r'.toUInt8 ↔
      ∃ front, part = front ++ ['\r'] := by
  rcases List.eq_nil_or_concat' part with rfl | ⟨front, c, rfl⟩
  · simp
  · have hpos := c.utf8Size_pos
    have hlength := String.length_utf8EncodeChar c
    have hsplit : (before ++ (front ++ [c]) ++ after).utf8 =
        (before ++ front).utf8 ++ (String.utf8EncodeChar c ++ after.utf8) := by simp
    have hbytes : bytes (before ++ (front ++ [c])) =
        (before ++ front).utf8.length + c.utf8Size := by
      rw [length_utf8, ← List.append_assoc, bytes_append (before ++ front)]
      rfl
    have hindex : (before ++ front).utf8.length + c.utf8Size - 1 - (before ++ front).utf8.length =
        c.utf8Size - 1 := by omega
    rw [hsplit, hbytes, List.getElem?_append_right (by omega), hindex,
      List.getElem?_append_left (by omega)]
    constructor
    · rintro ⟨-, hlast⟩
      obtain rfl := (mem_utf8EncodeChar_iff (by decide)).mp (List.mem_of_getElem? hlast)
      exact ⟨front, rfl⟩
    · rintro ⟨other, hother⟩
      obtain ⟨-, hc⟩ := List.append_inj' hother rfl
      obtain rfl := List.singleton_injective hc
      exact ⟨by simp, rfl⟩

end Text

namespace LineIndex

/-! ## The lines and the table -/

theorem startsAfter_append (offset : Nat) (a b : Text) :
    startsAfter offset (a ++ b) = startsAfter offset a ++ startsAfter (offset + a.bytes) b := by
  rw [startsAfter_eq, startsAfter_eq, startsAfter_eq, Text.utf8_append, List.idxsOf_append,
    List.map_append, Text.length_utf8]

theorem startsAfter_of_free (offset : Nat) {text : Text} (h : ∀ c ∈ text, (c == '\n') = false) :
    startsAfter offset text = [] := by
  induction text generalizing offset with
  | nil => rfl
  | cons c cs ih =>
    obtain ⟨hc, hcs⟩ := List.forall_mem_cons.mp h
    rw [startsAfter, if_neg (beq_eq_false_iff_ne.mp hc), ih _ hcs]

/-- **The table of a text is that of its lines.** -/
theorem lineStarts_eq_map (text : Text) :
    lineStarts text = (ofText text).lines.map Line.start := by
  have hnumbered : ∀ number start, start :: startsAfter start text =
      (numberFrom number start (text.pieces (· == '\n'))).map Line.start := by
    induction text using Text.separated_induction (· == '\n') with
    | free piece hfree =>
      intro number start
      rw [Text.pieces_of_free hfree, startsAfter_of_free start hfree]
      rfl
    | separated piece c rest hfree hc ih =>
      intro number start
      obtain rfl := beq_iff_eq.mp hc
      rw [Text.pieces_feed hfree, numberFrom, List.map_cons, ← ih, startsAfter_append,
        startsAfter_of_free start hfree, List.nil_append, startsAfter, if_pos rfl]
      rfl
  exact hnumbered 0 0

theorem getElem?_lineStarts (text : Text) (number : Nat) :
    (lineStarts text)[number]? = (ofText text).lines[number]?.map Line.start := by
  rw [lineStarts_eq_map, List.getElem?_map]

theorem size_starts (text : Text) : (ofText text).starts.size = (ofText text).lines.length := by
  have hlength := congrArg List.length (lineStarts_eq_map text)
  rw [List.length_map] at hlength
  rw [← hlength]
  simp [ofText, lineStarts]

/-- The line of a piece. -/
theorem getElem?_lines {text piece : Text} {earlier later : List Text}
    (h : text.pieces (· == '\n') = earlier ++ piece :: later) :
    (ofText text).lines[earlier.length]? =
      some ⟨earlier.length, Text.bytesOfPieces earlier, piece.chomp⟩ := by
  have hlength := length_numberFrom 0 0 earlier
  show (numberFrom 0 0 _)[earlier.length]? = _
  rw [h, numberFrom_append, List.getElem?_append_right (by omega), hlength, Nat.sub_self]
  simp [numberFrom]

/-- A line with a number is that of a piece. -/
theorem exists_piece_of_getElem? {text : Text} {number : Nat} {line : Line}
    (h : (ofText text).lines[number]? = some line) :
    ∃ earlier piece later, text.pieces (· == '\n') = earlier ++ piece :: later ∧
      earlier.length = number ∧ line = ⟨number, Text.bytesOfPieces earlier, piece.chomp⟩ := by
  have hbound : number < (text.pieces (· == '\n')).length := by
    have hlength := length_numberFrom 0 0 (text.pieces (· == '\n'))
    have hline := (List.getElem?_eq_some_iff.mp h).1
    rw [← hlength]
    exact hline
  have hsplit : text.pieces (· == '\n') = (text.pieces (· == '\n')).take number ++
      (text.pieces (· == '\n'))[number] :: (text.pieces (· == '\n')).drop (number + 1) := by
    rw [List.getElem_cons_drop, List.take_append_drop]
  have hnumber : ((text.pieces (· == '\n')).take number).length = number :=
    List.length_take_of_le (Nat.le_of_lt hbound)
  have hline := getElem?_lines hsplit
  rw [hnumber, h, Option.some.injEq] at hline
  exact ⟨_, _, _, hsplit, hnumber, hline⟩

/-! ## Spans of lines -/

theorem toUInt32_succ_sub_one (n : Nat) : (n + 1).toUInt32 - 1 = n.toUInt32 := by
  show UInt32.ofNat (n + 1) - 1 = UInt32.ofNat n
  rw [UInt32.ofNat_add]
  exact UInt32.add_sub_cancel _ _

/-- Where the piece of a line ends: one byte before the next line starts, or with the text. -/
theorem pieceStop_eq {text piece : Text} {earlier later : List Text}
    (h : text.pieces (· == '\n') = earlier ++ piece :: later) :
    (((ofText text).lineStart? (earlier.length + 1)).map (· - 1)).getD (ofText text).size =
      (Text.bytesOfPieces earlier + piece.bytes).toUInt32 := by
  rw [lineStart?_eq, getElem?_lineStarts]
  cases later with
  | nil =>
    obtain ⟨after, htext, ⟨rfl, -⟩ | ⟨hmore, -⟩⟩ := Text.exists_around_piece h
    · have hlast : (ofText text).lines[earlier.length + 1]? = none := by
        have hcount : (ofText text).lines.length = earlier.length + 1 := by
          show (numberFrom 0 0 _).length = _
          rw [length_numberFrom, h, List.length_append, List.length_singleton]
        exact List.getElem?_eq_none (Nat.le_of_eq hcount)
      have hbytes : text.bytes = Text.bytesOfPieces earlier + piece.bytes := by
        rw [htext, List.append_nil, Text.bytes_append, Text.bytes_flatMap_feed]
      rw [hlast, ← hbytes]
      rfl
    · exact absurd rfl hmore
  | cons next others =>
    have hsplit : text.pieces (· == '\n') = (earlier ++ [piece]) ++ next :: others := by
      rw [h, List.append_assoc, List.singleton_append]
    have hline := getElem?_lines hsplit
    have hstart : Text.bytesOfPieces (earlier ++ [piece]) =
        Text.bytesOfPieces earlier + piece.bytes + 1 := by
      rw [← Text.bytes_flatMap_feed, List.flatMap_append, Text.bytes_append,
        Text.bytes_flatMap_feed, Text.bytes_flatMap_feed]
      rfl
    rw [List.length_append, List.length_singleton, hstart] at hline
    rw [hline]
    exact toUInt32_succ_sub_one _

section

variable {text : Text} (hsize : text.bytes < UInt32.size)

include hsize

/-- **The span of a line is that of its piece**, without the carriage return at its end. -/
theorem lineSpan?_of_piece {piece : Text} {earlier later : List Text}
    (h : text.pieces (· == '\n') = earlier ++ piece :: later) :
    (ofText text).lineSpan? earlier.length text = some (Span.ofOffsets
      (Text.bytesOfPieces earlier) (Text.bytesOfPieces earlier + piece.chomp.bytes)) := by
  obtain ⟨after, htext, -⟩ := Text.exists_around_piece h
  have hbefore := Text.bytes_flatMap_feed earlier
  have hbytes : text.bytes = Text.bytesOfPieces earlier + piece.bytes + after.bytes := by
    rw [htext, Text.bytes_append, Text.bytes_append, hbefore]
  have hstart : (ofText text).lineStart? earlier.length =
      some (Text.bytesOfPieces earlier).toUInt32 := by
    rw [lineStart?_eq, getElem?_lineStarts, getElem?_lines h]
    rfl
  have hlow : (Text.bytesOfPieces earlier).toUInt32.toNat = Text.bytesOfPieces earlier :=
    UInt32.toNat_ofNat_of_lt (by omega)
  have hhigh : (Text.bytesOfPieces earlier + piece.bytes).toUInt32.toNat =
      Text.bytesOfPieces earlier + piece.bytes := UInt32.toNat_ofNat_of_lt (by omega)
  have hinside : (Text.bytesOfPieces earlier).toUInt32 <
      (Text.bytesOfPieces earlier + piece.bytes).toUInt32 ↔ piece ≠ [] := by
    rw [UInt32.lt_iff_toNat_lt, hlow, hhigh]
    constructor
    · rintro hlt rfl
      exact Nat.lt_irrefl _ hlt
    · intro hne
      have hpos := Text.bytes_pos hne
      omega
  have hreturn := Text.getElem?_utf8_last_iff (earlier.flatMap (· ++ ['\n'])) piece after
  rw [← htext, Text.bytes_append, hbefore] at hreturn
  rw [← hinside] at hreturn
  simp only [lineSpan?, hstart, pieceStop_eq h, Option.map_some, hhigh, Bool.and_eq_true,
    decide_eq_true_iff, beq_iff_eq, Span.ofOffsets]
  split
  · rename_i hends
    obtain ⟨front, rfl⟩ := hreturn.mp hends
    have hsucc : Text.bytesOfPieces earlier + Text.bytes (front ++ ['\r']) =
        Text.bytesOfPieces earlier + front.bytes + 1 := by
      rw [Text.bytes_append]
      rfl
    rw [hsucc, toUInt32_succ_sub_one, Text.chomp_concat]
  · rename_i hnone
    rw [Text.chomp_eq_self fun front hfront => hnone (hreturn.mpr ⟨front, hfront⟩)]

/-- **The span of a line is found in the table.** -/
theorem lineSpan?_eq (number : Nat) :
    (ofText text).lineSpan? number text = (ofText text).lines[number]?.map Line.span := by
  cases hline : (ofText text).lines[number]? with
  | none =>
    have hstart : (ofText text).lineStart? number = none := by
      rw [lineStart?_eq, getElem?_lineStarts, hline]
      rfl
    rw [lineSpan?, hstart]
    rfl
  | some line =>
    obtain ⟨earlier, piece, later, hpieces, rfl, rfl⟩ := exists_piece_of_getElem? hline
    exact lineSpan?_of_piece hsize hpieces

/-- The span of a line covers its text. -/
theorem span_marks {line : Line} (h : line.StandsIn text) :
    line.span.start.toNat = line.start ∧ line.span.stop.toNat = line.start + line.text.bytes ∧
      line.span.Marks text line.text := by
  obtain ⟨before, after, htext, hstart⟩ := h
  have hbytes : text.bytes = before.bytes + line.text.bytes + after.bytes := by
    rw [htext, Text.bytes_append, Text.bytes_append]
  refine ⟨UInt32.toNat_ofNat_of_lt (by omega), UInt32.toNat_ofNat_of_lt (by omega), ?_⟩
  rw [Line.span, hstart]
  exact Span.marks_of_split hsize htext

/-- **Each line is cut out of the text where it stands.** -/
theorem line?_eq (number : Nat) :
    (ofText text).line? number text = (ofText text).lines[number]? := by
  rw [line?, lineSpan?_eq hsize]
  cases hline : (ofText text).lines[number]? with
  | none => rfl
  | some line =>
    have hstands := standsIn_of_mem_lines (List.mem_of_getElem? hline)
    obtain ⟨hstart, -, hmarks⟩ := span_marks hsize hstands
    obtain ⟨earlier, piece, later, -, -, rfl⟩ := exists_piece_of_getElem? hline
    rw [Option.map_some, Option.bind_some, hmarks.covers, Option.map_some, hstart]

/-- **All lines are cut out of the text.** -/
theorem readLines_eq : (ofText text).readLines text = (ofText text).lines := by
  have hread : ∀ count, ((List.range count).filterMap fun number =>
      (ofText text).line? number text) = (ofText text).lines.take count := by
    intro count
    induction count with
    | zero => rfl
    | succ count ih =>
      rw [List.range_succ, List.filterMap_append, ih, List.take_add_one, ← line?_eq hsize,
        List.filterMap_cons]
      cases (ofText text).line? count text <;> rfl
  rw [readLines, lineCount, size_starts, hread, List.take_length]

end

/-! ## What is left between the lines -/

/-- A byte of a piece is on its line, or is the carriage return at its end. -/
theorem lt_chomp_or_return {piece : Text} {n : Nat} {byte : UInt8}
    (h : piece.utf8[n]? = some byte) :
    n < piece.chomp.bytes ∨ byte = '\r'.toUInt8 ∧ n + 1 = piece.bytes := by
  have hbound : n < piece.bytes := by
    rw [← Text.length_utf8]
    exact (List.getElem?_eq_some_iff.mp h).1
  by_cases hreturn : ∃ front, piece = front ++ ['\r']
  · obtain ⟨front, rfl⟩ := hreturn
    have hbytes : Text.bytes (front ++ ['\r']) = front.bytes + 1 := by
      rw [Text.bytes_append]
      rfl
    rw [Text.chomp_concat]
    by_cases hfront : n < front.bytes
    · exact .inl hfront
    · right
      obtain rfl : n = front.bytes := by omega
      rw [Text.utf8_append, ← Text.length_utf8, List.getElem?_append_right (Nat.le_refl _),
        Nat.sub_self] at h
      exact ⟨(Option.some.inj h).symm, hbytes.symm⟩
  · left
    rwa [Text.chomp_eq_self fun front hfront => hreturn ⟨front, hfront⟩]

/-- **Each byte of a text is on a line or belongs to a break.** -/
theorem exists_line_or_break (number start : Nat) {text : Text} {n : Nat} {byte : UInt8}
    (h : text.utf8[n]? = some byte) :
    (∃ line ∈ numberFrom number start (text.pieces (· == '\n')),
      line.start ≤ start + n ∧ start + n < line.start + line.text.bytes) ∨
    byte = '\n'.toUInt8 ∨
    byte = '\r'.toUInt8 ∧ (text.utf8[n + 1]? = some '\n'.toUInt8 ∨ n + 1 = text.bytes) := by
  induction text using Text.separated_induction (· == '\n') generalizing number start n with
  | free piece hfree =>
    rw [Text.pieces_of_free hfree]
    rcases lt_chomp_or_return h with hline | ⟨hbyte, hlast⟩
    · left
      refine ⟨⟨number, start, piece.chomp⟩, List.mem_singleton_self _, ?_, ?_⟩
      · exact Nat.le_add_right _ _
      · exact Nat.add_lt_add_left hline _
    · exact .inr (.inr ⟨hbyte, .inr hlast⟩)
  | separated piece c rest hfree hc ih =>
    obtain rfl := beq_iff_eq.mp hc
    have hutf8 : (piece ++ '\n' :: rest).utf8 = piece.utf8 ++ '\n'.toUInt8 :: rest.utf8 := by
      rw [Text.utf8_append]
      rfl
    have hlength := piece.length_utf8
    rw [Text.pieces_feed hfree, numberFrom, hutf8]
    rw [hutf8] at h
    rcases Nat.lt_trichotomy n piece.bytes with hbefore | rfl | hafter
    · rw [List.getElem?_append_left (by omega)] at h
      rcases lt_chomp_or_return h with hline | ⟨hbyte, hlast⟩
      · left
        refine ⟨⟨number, start, piece.chomp⟩, List.mem_cons_self, ?_, ?_⟩
        · exact Nat.le_add_right _ _
        · exact Nat.add_lt_add_left hline _
      · refine .inr (.inr ⟨hbyte, .inl ?_⟩)
        rw [hlast, ← hlength, List.getElem?_append_right (Nat.le_refl _), Nat.sub_self]
        rfl
    · rw [← hlength, List.getElem?_append_right (Nat.le_refl _), Nat.sub_self] at h
      exact .inr (.inl (Option.some.inj h).symm)
    · -- past the line feed, places are counted from right after it
      obtain ⟨m, rfl⟩ := Nat.exists_eq_add_of_lt hafter
      have hlater : ∀ i, (piece.utf8 ++ '\n'.toUInt8 :: rest.utf8)[piece.bytes + i + 1]? =
          rest.utf8[i]? := by
        intro i
        have hindex : piece.bytes + i + 1 - piece.utf8.length = i + 1 := by omega
        rw [List.getElem?_append_right (by omega), hindex, List.getElem?_cons_succ]
      rw [hlater] at h
      rcases ih (number + 1) (start + piece.bytes + 1) h with
        ⟨line, hline, hstart, hstop⟩ | hfeed | ⟨hbyte, hnext⟩
      · exact .inl ⟨line, List.mem_cons_of_mem _ hline, by omega, by omega⟩
      · exact .inr (.inl hfeed)
      · refine .inr (.inr ⟨hbyte, ?_⟩)
        rcases hnext with hnext | hlast
        · exact .inl (by rw [Nat.add_assoc piece.bytes, hlater, hnext])
        · right
          have hbytes : Text.bytes (piece ++ '\n' :: rest) = piece.bytes + (1 + rest.bytes) :=
            Text.bytes_append _ _
          omega

/-! ## All lines -/

theorem map_number_numberFrom (number start : Nat) (pieces : List Text) :
    (numberFrom number start pieces).map Line.number = List.range' number pieces.length := by
  induction pieces generalizing number start with
  | nil => rfl
  | cons piece rest ih => rw [numberFrom, List.map_cons, ih, List.length_cons, List.range'_succ]

theorem map_text_numberFrom (number start : Nat) (pieces : List Text) :
    (numberFrom number start pieces).map Line.text = pieces.map Text.chomp := by
  induction pieces generalizing number start with
  | nil => rfl
  | cons piece rest ih => rw [numberFrom, List.map_cons, ih, List.map_cons]

/-- **No line is lost.** In a text shorter than 2^32 bytes, the lines that are cut out of it are all
of its lines: as many as the table has starts, numbered from 0 on, with the pieces of the text
between line feeds as their texts, each without a carriage return at its end. Each text is what its
span covers, the spans follow each other without overlap, and a byte outside of them is a line feed,
or a carriage return right before one or at the end of the text. -/
theorem readLines_complete (text : Text) (hsize : text.bytes < UInt32.size) :
    let index := ofText text
    let lines := index.readLines text
    lines = index.lines ∧
    lines.length = index.lineCount ∧
    lines.map Line.number = List.range index.lineCount ∧
    lines.map Line.text = (text.splitOn '\n').map Text.chomp ∧
    (∀ line ∈ lines, index.lineSpan? line.number text = some line.span ∧
      line.span.slice? text = some line.text) ∧
    (∀ line ∈ lines, line.span.start ≤ line.span.stop) ∧
    lines.Pairwise (fun a b => a.span.stop < b.span.start) ∧
    ∀ (n : Nat) (byte : UInt8), text.utf8[n]? = some byte →
      (∀ line ∈ lines, ¬ (line.span.start.toNat ≤ n ∧ n < line.span.stop.toNat)) →
      byte = '\n'.toUInt8 ∨
      byte = '\r'.toUInt8 ∧ (text.utf8[n + 1]? = some '\n'.toUInt8 ∨ n + 1 = text.bytes) := by
  intro index lines
  have hlines : lines = index.lines := readLines_eq hsize
  have hcount : lines.length = index.lineCount := by
    rw [hlines, lineCount, size_starts]
  have hspan : ∀ line ∈ lines, line.span.start.toNat = line.start ∧
      line.span.stop.toNat = line.start + line.text.bytes ∧ line.span.Marks text line.text := by
    intro line hline
    rw [hlines] at hline
    exact span_marks hsize (standsIn_of_mem_lines hline)
  refine ⟨hlines, hcount, ?_, ?_, ?_, fun line hline => (hspan line hline).2.2.ordered, ?_, ?_⟩
  · rw [← hcount, hlines]
    show (numberFrom 0 0 _).map Line.number = List.range (numberFrom 0 0 _).length
    rw [map_number_numberFrom, length_numberFrom, List.range_eq_range']
  · rw [hlines, ← Text.pieces_eq_splitOn]
    exact map_text_numberFrom 0 0 _
  · intro line hline
    refine ⟨?_, (hspan line hline).2.2.covers⟩
    rw [hlines] at hline
    obtain ⟨number, hnumber⟩ := List.mem_iff_getElem?.mp hline
    obtain ⟨earlier, piece, later, -, -, rfl⟩ := exists_piece_of_getElem? hnumber
    rw [lineSpan?_eq hsize, hnumber]
    rfl
  · rw [hlines]
    refine (lines_ordered text).imp_of_mem fun {a b} ha hb hab => ?_
    rw [← hlines] at ha hb
    rw [UInt32.lt_iff_toNat_lt, (hspan a ha).2.1, (hspan b hb).1]
    exact hab
  · intro n byte hbyte hout
    rcases exists_line_or_break 0 0 hbyte with
      ⟨line, hline, hstart, hstop⟩ | hbreak
    · have hmem : line ∈ lines := hlines ▸ hline
      obtain ⟨hfirst, hlast, -⟩ := hspan line hmem
      exact absurd ⟨by omega, by omega⟩ (hout line hmem)
    · exact hbreak

/-- Lines with both kinds of breaks, an empty one, and a carriage return at the end of the text: the
byte before the first line feed is a carriage return and on no line. -/
theorem readLines_complete_returns :
    let text : Text := ['é', '\r', '\n', '\n', '\r', 'b', '\r']
    let lines := (ofText text).readLines text
    text.bytes < UInt32.size ∧
    lines.map Line.text = (text.splitOn '\n').map Text.chomp ∧
    ('\r'.toUInt8 = '\n'.toUInt8 ∨ '\r'.toUInt8 = '\r'.toUInt8 ∧
      (text.utf8[3]? = some '\n'.toUInt8 ∨ 3 = text.bytes)) := by
  intro text lines
  have hsize : text.bytes < UInt32.size := by decide
  obtain ⟨hlines, -, -, htexts, -, -, -, houtside⟩ := readLines_complete text hsize
  refine ⟨hsize, htexts, houtside 2 _ rfl ?_⟩
  rw [hlines]
  decide

end LineIndex

end StyleAudit
