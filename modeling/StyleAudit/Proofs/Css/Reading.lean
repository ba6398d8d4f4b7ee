import StyleAudit.Proofs.Css.Relocation
import StyleAudit.Proofs.Css.Rendering
import StyleAudit.Proofs.Css.Seam
import StyleAudit.Proofs.Text
import Mathlib.Data.List.TakeWhile

/-!
# Reading a text piece by piece

Places aside, reading is a function of the tokens' kinds and texts. Blanks only ever lengthen the
text that is being read, so it does not matter how they fall into tokens, and a text that is put
together from pieces with blanks between them is read piece by piece.

- `Reader.read`: reading a text, places aside; `parse_relocate` says how `parse` follows from it.
- `Reader.blank`: what a run of blanks does.
- `Reader.read_spaced`: reading pieces with a blank after each is reading one after the other.
-/

namespace StyleAudit.Css

/-! ## Reading, places aside -/

/-- A token at no place. -/
abbrev Lexeme.unplaced (lexeme : Lexeme) : Token := ⟨lexeme.kind, lexeme.text, .origin⟩

/-- Read a text, places aside. -/
def Reader.read (reader : Reader) (text : Text) : Except ParseError Reader :=
  reader.run ((lexemes text).map Lexeme.unplaced)

/-- Tokens are at no place when all offsets are taken to 0. -/
theorem placeFrom_relocate (offset : Nat) (lexemes : List Lexeme) :
    (placeFrom offset lexemes).map (Token.relocate fun _ => 0) = lexemes.map Lexeme.unplaced := by
  induction lexemes generalizing offset with
  | nil => rfl
  | cons lexeme rest ih =>
    rw [placeFrom, List.map_cons, List.map_cons, ih]
    rfl

/-- What is read from a source, all places taken to 0. -/
theorem parse_relocate (source : Text) :
    relocateOutcome (fun _ => 0) (Stylesheet.relocate fun _ => 0) (parse source) =
      match Reader.start.read source with
      | .ok reader => reader.finish 0
      | .error error => .error error := by
  have hrun : Reader.start.read source =
      relocateOutcome (fun _ => 0) (Reader.relocate fun _ => 0)
        (Reader.start.run (body source)) := by
    rw [← (Reader.relocate_carries _).run, body, placeFrom_relocate]
    rfl
  rw [hrun, parse]
  cases Reader.start.run (body source) with
  | ok reader => exact ((Reader.relocate_carries fun _ => 0).finish reader _).symm
  | error error => rfl

namespace Reader

/-- One token that is taken, then the rest. -/
theorem run_cons {reader next : Reader} {token : Token} (h : reader.step token = .ok next)
    (rest : List Token) : reader.run (token :: rest) = next.run rest := by
  rw [run, h]

/-- Some tokens, then the others. -/
theorem run_append (reader : Reader) (xs ys : List Token) :
    reader.run (xs ++ ys) = reader.run xs >>= fun next => next.run ys := by
  induction xs generalizing reader with
  | nil => rfl
  | cons token rest ih =>
    rw [List.cons_append, run, run]
    cases reader.step token with
    | ok next => exact ih next
    | error error => rfl

/-- A reader gets past no broken token. -/
theorem run_readable {reader next : Reader} {tokens : List Token}
    (h : reader.run tokens = .ok next) : ∀ token ∈ tokens, token.kind ≠ .broken := by
  induction tokens generalizing reader with
  | nil => exact List.forall_mem_nil _
  | cons token rest ih =>
    rw [run] at h
    by_cases hbroken : token.kind = .broken
    · rw [step, if_pos hbroken] at h
      cases h
    · cases hstep : reader.step token with
      | ok middle =>
        rw [hstep] at h
        exact List.forall_mem_cons.mpr ⟨hbroken, ih h⟩
      | error error =>
        rw [hstep] at h
        cases h

@[simp] theorem read_nil (reader : Reader) : reader.read [] = .ok reader := by
  rw [read, lexemes]
  rfl

/-- One token, then the rest. -/
theorem read_cons (reader : Reader) (c : Char) (cs : Text) :
    reader.read (c :: cs) =
      reader.step ⟨(scan c cs).kind, (scan c cs).taken, .origin⟩ >>=
        fun next => next.read (scan c cs).rest := by
  rw [read, lexemes, List.map_cons, run]
  show (match reader.step ⟨(scan c cs).kind, (scan c cs).taken, .origin⟩ with
    | .ok next => next.read (scan c cs).rest
    | .error error => .error error) = _
  cases reader.step ⟨(scan c cs).kind, (scan c cs).taken, .origin⟩ <;> rfl

/-! ## Blanks -/

/-- What a run of blanks does: it lengthens the text that is being read. -/
def blank (reader : Reader) (blanks : Text) : Reader :=
  { reader with
    phase :=
      match reader.phase with
      | .selectors start depth done current => .selectors start depth done (current ++ blanks)
      | .property rule start text => .property rule start (text ++ blanks)
      | .value rule start property depth text => .value rule start property depth (text ++ blanks)
      | .preface start name depth text => .preface start name depth (text ++ blanks)
      | phase => phase }

theorem step_whitespace (reader : Reader) (blanks : Text) (span : Span) :
    reader.step ⟨.whitespace, blanks, span⟩ = .ok (reader.blank blanks) := by
  obtain ⟨frames, rules, phase⟩ := reader
  cases phase with
  | selectors start depth done current =>
    simp [step, stepSelectors, blank, Kind.depthAfter, Kind.opensGroup, Kind.closesGroup]
  | value rule start property depth text =>
    simp [step, stepValue, blank, Kind.depthAfter, Kind.opensGroup, Kind.closesGroup]
  | preface start name depth text =>
    simp [step, stepPreface, blank, Kind.depthAfter, Kind.opensGroup, Kind.closesGroup]
  | _ => rfl

theorem blank_nil (reader : Reader) : reader.blank [] = reader := by
  obtain ⟨frames, rules, phase⟩ := reader
  cases phase <;> simp only [blank, List.append_nil]

theorem blank_append (reader : Reader) (a b : Text) :
    (reader.blank a).blank b = reader.blank (a ++ b) := by
  obtain ⟨frames, rules, phase⟩ := reader
  cases phase <;> simp only [blank, List.append_assoc]

theorem scan_of_isSpace {c : Char} (h : Text.isSpace c = true) (cs : Text) :
    scan c cs = ⟨.whitespace, c :: cs.takeWhile Text.isSpace, cs.dropWhile Text.isSpace⟩ := by
  simp only [Text.isSpace, Bool.or_eq_true, beq_iff_eq] at h
  rcases h with (((rfl | rfl) | rfl) | rfl) | rfl <;> rfl

/-- Leading blanks may be read apart from the rest. -/
theorem read_eq_blank_read (reader : Reader) (text : Text) :
    reader.read text =
      (reader.blank (text.takeWhile Text.isSpace)).read (text.dropWhile Text.isSpace) := by
  cases text with
  | nil => rw [List.takeWhile_nil, blank_nil, List.dropWhile_nil]
  | cons c cs =>
    by_cases hc : Text.isSpace c = true
    · rw [read_cons, scan_of_isSpace hc, step_whitespace, List.takeWhile_cons_of_pos hc,
        List.dropWhile_cons_of_pos hc]
      rfl
    · rw [List.takeWhile_cons_of_neg hc, blank_nil, List.dropWhile_cons_of_neg hc]

/-- A run of blanks may be read apart from the rest, even if that starts with a blank. -/
theorem read_blanks_append (reader : Reader) {blanks : Text}
    (h : ∀ c ∈ blanks, Text.isSpace c = true) (text : Text) :
    reader.read (blanks ++ text) = (reader.blank blanks).read text := by
  rw [read_eq_blank_read reader, read_eq_blank_read (reader.blank blanks), blank_append,
    List.takeWhile_append_of_pos h, List.dropWhile_append_of_pos h]

/-! ## Pieces -/

theorem endsBefore_blank {kind : Kind} (h : kind ≠ .whitespace) (rest : Text) :
    kind.EndsBefore (' ' :: rest) := by
  intro c hc
  cases hc
  cases kind <;> first | rfl | exact absurd rfl h

theorem isSpace_of_scan {c : Char} {cs : Text} (h : (scan c cs).kind = .whitespace) :
    Text.isSpace c = true := by
  by_cases hspace : Text.isSpace c = true
  · exact hspace
  exfalso
  unfold scan at h
  cases hpunct : punctuation? c with
  | some kind =>
    simp only [hpunct] at h
    subst h
    unfold punctuation? at hpunct
    split at hpunct <;> cases hpunct
  | none =>
    simp only [hpunct, if_neg hspace] at h
    split at h
    · simp only [stringToken] at h
      split at h <;> cases h
    split at h
    · unfold atToken at h
      split at h
      · split at h <;> cases h
      · cases h
    split at h
    · unfold slashToken at h
      split at h
      · split at h <;> cases h
      · cases h
    cases h

end Reader

theorem isReadable_cons {c : Char} {cs : Text} (h : IsReadable (c :: cs)) :
    (scan c cs).kind ≠ .broken ∧ IsReadable (scan c cs).rest := by
  rw [IsReadable, lexemes, List.forall_mem_cons] at h
  exact h

namespace Reader

/-- A piece with a blank after it may be read apart from the rest. -/
theorem read_piece (reader : Reader) {piece : Text} (h : IsReadable piece) (rest : Text) :
    reader.read (piece ++ ' ' :: rest) =
      reader.read piece >>= fun next => (next.blank [' ']).read rest := by
  have hblank : ∀ c ∈ [' '], Text.isSpace c = true := by simp [Text.isSpace]
  induction piece using lexemes.induct generalizing reader with
  | case1 =>
    rw [read_nil]
    exact read_blanks_append reader hblank rest
  | case2 c cs ih =>
    obtain ⟨hbroken, hrest⟩ := isReadable_cons h
    by_cases hlast : (scan c cs).rest = [] ∧ (scan c cs).kind = .whitespace
    · -- the piece is nothing but blanks, and the one after it joins them
      have hc := isSpace_of_scan hlast.2
      have hall : ∀ d ∈ c :: cs, Text.isSpace d = true := by
        rw [scan_of_isSpace hc] at hlast
        exact List.forall_mem_cons.mpr ⟨hc, List.dropWhile_eq_nil_iff.mp hlast.1⟩
      have hpiece := read_blanks_append reader hall []
      rw [List.append_nil, read_nil] at hpiece
      rw [hpiece, read_blanks_append reader hall]
      exact read_blanks_append _ hblank rest
    · -- the first token ends where it ended before
      have hends : (scan c cs).kind.EndsBefore ((scan c cs).rest ++ ' ' :: rest) := by
        by_cases hne : (scan c cs).rest = []
        · rw [hne]
          exact endsBefore_blank (fun hkind => hlast ⟨hne, hkind⟩) rest
        · exact (scan_endsBefore c cs).append hne
      rw [List.cons_append, read_cons, read_cons, scan_followed hbroken hends, bind_assoc]
      congr 1
      funext next
      exact ih next hrest

/-- Read pieces one after the other, with a blank after each. -/
def readPieces (reader : Reader) (pieces : List Text) : Except ParseError Reader :=
  pieces.foldlM (fun reader piece => (fun next => next.blank [' ']) <$> reader.read piece) reader

/-- One piece that is read, then the rest. -/
theorem readPieces_cons {reader next : Reader} {piece : Text} (h : reader.read piece = .ok next)
    (rest : List Text) :
    reader.readPieces (piece :: rest) = (next.blank [' ']).readPieces rest := by
  rw [readPieces, List.foldlM_cons, h]
  rfl

/-- Some pieces that are read, then the rest. -/
theorem readPieces_append {reader next : Reader} {xs : List Text}
    (h : reader.readPieces xs = .ok next) (ys : List Text) :
    reader.readPieces (xs ++ ys) = next.readPieces ys := by
  rw [readPieces] at h
  rw [readPieces, List.foldlM_append, h]
  rfl

/-- A text that is read has no broken token. -/
theorem isReadable_of_read {reader next : Reader} {text : Text} (h : reader.read text = .ok next) :
    IsReadable text :=
  fun _ hlexeme => run_readable h _ (List.mem_map_of_mem hlexeme)

/-- **Pieces that are read one after the other are read when written with blanks between them.** -/
theorem read_spaced {reader next : Reader} {pieces : List Text}
    (h : reader.readPieces pieces = .ok next) : reader.read (spaced pieces) = .ok next := by
  induction pieces generalizing reader with
  | nil =>
    rw [← h]
    exact read_nil reader
  | cons piece rest ih =>
    cases hpiece : reader.read piece with
    | ok middle =>
      rw [readPieces_cons hpiece] at h
      rw [spaced, List.flatMap_cons, List.append_assoc, List.singleton_append,
        read_piece reader (isReadable_of_read hpiece), hpiece]
      exact ih h
    | error error =>
      rw [readPieces, List.foldlM_cons, hpiece] at h
      cases h

end Reader

end StyleAudit.Css
