import StyleAudit.Source.Line
import StyleAudit.Proofs.Words

/-!
# Places in a source

A line knows the byte at which it starts, and places on it are counted from there. So a place on a
line is a place in the source, as long as all offsets fit into a word.

- `Span.Marks`: a span lies in a source, cuts no character and covers a given text.
- `Span.marks_of_split`: the span of a part that stands between two others.
- `Line.StandsIn`, `standsIn_of_mem_lines`: the lines of a source are parts of it, at their starts.
- `Line.StandsIn.spanAt_marks`: a part of a line is covered by its span there.
- `LineIndex.lines_append`, `LineIndex.lines_ordered`: lines after a break, and the order of lines.
-/

namespace StyleAudit

/-! ## Spans of parts -/

/-- A span lies in a source, has a character boundary at either end, and covers `part`. -/
structure Span.Marks (span : Span) (source part : Text) : Prop where
  ordered : span.start ≤ span.stop
  within : span.stop.toNat ≤ source.bytes
  startsBetween : (source.dropBytes? span.start.toNat).isSome
  stopsBetween : (source.dropBytes? span.stop.toNat).isSome
  covers : span.slice? source = some part

/-- The span of a part covers it, in a source whose offsets fit into a word. -/
theorem Span.marks_of_split {source before part after : Text} (hsize : source.bytes < UInt32.size)
    (hsource : source = before ++ part ++ after) :
    (Span.ofOffsets before.bytes (before.bytes + part.bytes)).Marks source part := by
  have hbytes : source.bytes = before.bytes + part.bytes + after.bytes := by
    rw [hsource, Text.bytes_append, Text.bytes_append]
  have hstart : (Span.ofOffsets before.bytes (before.bytes + part.bytes)).start.toNat =
      before.bytes := UInt32.toNat_ofNat_of_lt (by omega)
  have hstop : (Span.ofOffsets before.bytes (before.bytes + part.bytes)).stop.toNat =
      before.bytes + part.bytes := UInt32.toNat_ofNat_of_lt (by omega)
  refine ⟨?_, ?_, ?_, ?_, ?_⟩
  · rw [UInt32.le_iff_toNat_le, hstart, hstop]
    exact Nat.le_add_right _ _
  · omega
  · rw [hstart, hsource, List.append_assoc, Text.dropBytes?_append]
    rfl
  · rw [hstop, hsource, ← Text.bytes_append, Text.dropBytes?_append]
    rfl
  · rw [Span.slice?, hstart, hstop, hsource]
    exact Text.slice?_append before part after

/-- The span at the start of a source covers nothing. -/
theorem Span.origin_marks (source : Text) : Span.origin.Marks source [] where
  ordered := UInt32.le_refl _
  within := Nat.zero_le _
  startsBetween := by
    show (Text.dropBytes? 0 source).isSome
    rw [Text.dropBytes?]
    rfl
  stopsBetween := by
    show (Text.dropBytes? 0 source).isSome
    rw [Text.dropBytes?]
    rfl
  covers := Text.slice?_append [] [] source

/-! ## Lines -/

theorem Text.chomp_lead (text : Text) : text.chomp <+: text := by
  unfold chomp
  split
  · rename_i rest hreverse
    exact ⟨['\r'], by rw [← text.reverse_reverse, hreverse, List.reverse_cons]⟩
  · exact List.prefix_rfl

/-- A line is a part of a source, at the byte at which it starts. -/
def Line.StandsIn (line : Line) (source : Text) : Prop :=
  ∃ before after, source = before ++ line.text ++ after ∧ line.start = before.bytes

/-- The lines that are numbered from an offset on stand that much further in the text. -/
theorem LineIndex.exists_split_of_mem_numberFrom {text : Text} {number start : Nat} {line : Line}
    (h : line ∈ numberFrom number start (text.pieces (· == '\n'))) :
    ∃ before after, text = before ++ line.text ++ after ∧ line.start = start + before.bytes := by
  induction text using Text.separated_induction (· == '\n') generalizing number start with
  | free piece hfree =>
    rw [Text.pieces_of_free hfree, numberFrom, numberFrom, List.mem_singleton] at h
    subst h
    obtain ⟨after, hafter⟩ := piece.chomp_lead
    exact ⟨[], after, hafter.symm, rfl⟩
  | separated piece c rest hfree hc ih =>
    have hpieces : (piece ++ c :: rest).pieces (· == '\n') = piece :: rest.pieces (· == '\n') := by
      apply Text.pieces_of_free_append
      · exact hc
      · exact hfree
    rw [hpieces, numberFrom, List.mem_cons] at h
    rcases h with rfl | hlater
    · obtain ⟨after, hafter⟩ := piece.chomp_lead
      refine ⟨[], after ++ c :: rest, ?_, rfl⟩
      rw [List.nil_append, ← List.append_assoc, hafter]
    · obtain ⟨before, after, hrest, hstart⟩ := ih hlater
      refine ⟨piece ++ c :: before, after, by simp [hrest], ?_⟩
      -- the break between the two lines is one byte long
      have hbreak : c.utf8Size = 1 := by
        rw [beq_iff_eq.mp hc]
        rfl
      rw [hstart, Text.bytes_append, Text.bytes_cons, hbreak]
      omega

/-- A line is a piece without the carriage return at its end. -/
theorem LineIndex.exists_piece_of_mem_numberFrom {pieces : List Text} {number start : Nat}
    {line : Line} (h : line ∈ numberFrom number start pieces) :
    ∃ piece ∈ pieces, line.text = piece.chomp := by
  induction pieces generalizing number start with
  | nil => cases h
  | cons piece rest ih =>
    rcases List.mem_cons.mp h with rfl | hlater
    · exact ⟨piece, List.mem_cons_self, rfl⟩
    · obtain ⟨other, hother, hline⟩ := ih hlater
      exact ⟨other, List.mem_cons_of_mem piece hother, hline⟩

/-- **The lines of a source are parts of it**, each at the byte at which it starts. -/
theorem standsIn_of_mem_lines {source : Text} {line : Line}
    (h : line ∈ (LineIndex.ofText source).lines) : line.StandsIn source := by
  obtain ⟨before, after, hsource, hstart⟩ := LineIndex.exists_split_of_mem_numberFrom h
  exact ⟨before, after, hsource, by rw [hstart, Nat.zero_add]⟩

/-- Where a part stands on a line, its span there covers it. -/
theorem Line.StandsIn.spanAt_marks {line : Line} {source : Text} (h : line.StandsIn source)
    (hsize : source.bytes < UInt32.size) {front part back : Text}
    (htext : line.text = front ++ part ++ back) :
    (line.spanAt front.bytes part.bytes).Marks source part := by
  obtain ⟨before, after, hsource, hstart⟩ := h
  have hsplit : source = (before ++ front) ++ part ++ (back ++ after) := by
    rw [hsource, htext]
    simp
  have hbytes : source.bytes = before.bytes + line.text.bytes + after.bytes := by
    rw [hsource, Text.bytes_append, Text.bytes_append]
  have hline : line.span.start.toNat = before.bytes := by
    rw [← hstart]
    exact UInt32.toNat_ofNat_of_lt (by omega)
  rw [Line.spanAt, hline, ← Text.bytes_append]
  exact Span.marks_of_split hsize hsplit

/-! ## Lines of texts one after the other -/

/-- A line further along in a text, with some lines and bytes put before it. -/
def Line.moved (count bytes : Nat) (line : Line) : Line :=
  { line with number := line.number + count, start := line.start + bytes }

theorem LineIndex.numberFrom_moved (count bytes number start : Nat) (pieces : List Text) :
    numberFrom (number + count) (start + bytes) pieces =
      (numberFrom number start pieces).map (Line.moved count bytes) := by
  induction pieces generalizing number start with
  | nil => rfl
  | cons piece rest ih =>
    have hnumber : number + count + 1 = number + 1 + count := by omega
    have hstart : start + bytes + piece.bytes + 1 = start + piece.bytes + 1 + bytes := by omega
    rw [numberFrom, numberFrom, hnumber, hstart, ih]
    rfl

/-- The bytes of pieces, each with the break after it. -/
def Text.bytesOfPieces : List Text → Nat
  | [] => 0
  | piece :: rest => piece.bytes + 1 + bytesOfPieces rest

theorem LineIndex.numberFrom_append (number start : Nat) (front rest : List Text) :
    numberFrom number start (front ++ rest) =
      numberFrom number start front ++
        numberFrom (number + front.length) (start + Text.bytesOfPieces front) rest := by
  induction front generalizing number start with
  | nil => rfl
  | cons piece front ih =>
    rw [List.cons_append, numberFrom, numberFrom, ih, List.cons_append]
    congr 3
    · rw [List.length_cons]
      omega
    · rw [Text.bytesOfPieces]
      omega

theorem LineIndex.length_numberFrom (number start : Nat) (pieces : List Text) :
    (numberFrom number start pieces).length = pieces.length := by
  induction pieces generalizing number start with
  | nil => rfl
  | cons piece rest ih => rw [numberFrom, List.length_cons, List.length_cons, ih]

theorem Text.bytesOfPieces_pieces (text : Text) :
    bytesOfPieces (text.pieces (· == '\n')) = text.bytes + 1 := by
  induction text using separated_induction (· == '\n') with
  | free piece hfree =>
    rw [pieces_of_free hfree]
    rfl
  | separated piece c rest hfree hc ih =>
    have hpieces : (piece ++ c :: rest).pieces (· == '\n') = piece :: rest.pieces (· == '\n') := by
      apply pieces_of_free_append
      · exact hc
      · exact hfree
    have hbreak : c.utf8Size = 1 := by
      rw [beq_iff_eq.mp hc]
      rfl
    rw [hpieces, bytes_append, bytes_cons, hbreak]
    show piece.bytes + 1 + bytesOfPieces (rest.pieces (· == '\n')) = _
    rw [ih]
    omega

/-- **The lines of two texts with a break between them** are those of both, the second ones moved
along. -/
theorem LineIndex.lines_append (front source : Text) :
    (ofText (front ++ '\n' :: source)).lines =
      (ofText front).lines ++ (ofText source).lines.map
        (Line.moved (ofText front).lines.length (front.bytes + 1)) := by
  have hpieces : (front ++ '\n' :: source).pieces (· == '\n') =
      front.pieces (· == '\n') ++ source.pieces (· == '\n') := by
    apply Text.pieces_append
    rfl
  show numberFrom 0 0 _ = numberFrom 0 0 _ ++ _
  rw [hpieces, numberFrom_append, Text.bytesOfPieces_pieces, numberFrom_moved]
  show _ = _ ++ (numberFrom 0 0 _).map (Line.moved (numberFrom 0 0 _).length _)
  rw [length_numberFrom]

theorem LineIndex.le_start_of_mem_numberFrom {number start : Nat} {pieces : List Text} {line : Line}
    (h : line ∈ numberFrom number start pieces) : start ≤ line.start := by
  induction pieces generalizing number start with
  | nil => cases h
  | cons piece rest ih =>
    rcases List.mem_cons.mp h with rfl | hlater
    · exact Nat.le_refl _
    · have hle := ih hlater
      omega

/-- Each line ends before the next one starts. -/
theorem LineIndex.lines_ordered (source : Text) :
    (ofText source).lines.Pairwise fun a b => a.start + a.text.bytes < b.start := by
  have hnumbered : ∀ (number start : Nat) (pieces : List Text),
      (numberFrom number start pieces).Pairwise fun a b => a.start + a.text.bytes < b.start := by
    intro number start pieces
    induction pieces generalizing number start with
    | nil => exact .nil
    | cons piece rest ih =>
      refine List.pairwise_cons.mpr ⟨?_, ih _ _⟩
      intro line hline
      have hle := le_start_of_mem_numberFrom hline
      obtain ⟨tail, htail⟩ := piece.chomp_lead
      have hbytes := congrArg Text.bytes htail
      rw [Text.bytes_append] at hbytes
      show start + piece.chomp.bytes < line.start
      omega
  exact hnumbered 0 0 _

end StyleAudit
