import StyleAudit.Proofs.Locate.Exactness
import Mathlib.Data.List.Forall2
import Mathlib.Data.List.Infix

/-!
# Which lines are flagged

The check of declaration lines carries three flags from line to line: whether the style element is
open, whether a rule is, and whether a comment is. What each of them says can be read off the lines
before: the first asks for any line with the opening, the other two for the last line that bears on
them.

- `LastHas`: the last text with one property has another.
- `RuleOpen`, `CommentOpen`: what the lines before leave open.
- `LineState.Tracks`: a state says what the lines before do; `LineState.Tracks.step`: so does the
  state after one more line. So it can be computed what lines leave open.
- `Suspect`, `FlaggedAfter`: a line that is flagged, by its text and by the lines before it.
- `lineDiagnosticsFrom_flagged`: the lines that a check flags are those.
- `lineDiagnostics_flagged`: all of it for a source.
-/

namespace StyleAudit.Locate

/-! ## The last text that has something -/

/-- The last of some texts that has `P` has `Q` too; at least one of them has `P`. -/
def LastHas (P Q : Text → Prop) (texts : List Text) : Prop :=
  ∃ front text rest, texts = front ++ text :: rest ∧ P text ∧ (∀ later ∈ rest, ¬ P later) ∧ Q text

section

variable {P Q : Text → Prop}

theorem not_lastHas_nil : ¬ LastHas P Q [] := by
  rintro ⟨front, text, rest, h, -⟩
  simp at h

/-- What comes last decides; what comes before only counts where nothing later has `P`. -/
theorem lastHas_append (xs ys : List Text) :
    LastHas P Q (xs ++ ys) ↔ LastHas P Q ys ∨ (LastHas P Q xs ∧ ∀ y ∈ ys, ¬ P y) := by
  constructor
  · rintro ⟨front, text, rest, h, hP, hlater, hQ⟩
    rcases List.append_eq_append_iff.mp h with ⟨gap, rfl, hys⟩ | ⟨gap, rfl, hrest⟩
    · exact .inl ⟨gap, text, rest, hys, hP, hlater, hQ⟩
    · cases gap with
      | nil =>
        exact .inl ⟨[], text, rest, hrest.symm, hP, hlater, hQ⟩
      | cons first gap =>
        obtain ⟨rfl, rfl⟩ := List.cons.inj hrest
        refine .inr ⟨⟨front, text, gap, rfl, hP, ?_, hQ⟩, ?_⟩
        · exact fun later h => hlater later (List.mem_append_left ys h)
        · exact fun y h => hlater y (List.mem_append_right gap h)
  · rintro (⟨front, text, rest, rfl, hP, hlater, hQ⟩ | ⟨hlast, hnone⟩)
    · exact ⟨xs ++ front, text, rest, by simp, hP, hlater, hQ⟩
    · obtain ⟨front, text, rest, rfl, hP, hlater, hQ⟩ := hlast
      refine ⟨front, text, rest ++ ys, by simp, hP, ?_, hQ⟩
      intro later h
      rcases List.mem_append.mp h with hrest | hys
      · exact hlater later hrest
      · exact hnone later hys

theorem lastHas_singleton (text : Text) : LastHas P Q [text] ↔ P text ∧ Q text := by
  constructor
  · rintro ⟨front, other, rest, h, hP, -, hQ⟩
    cases front with
    | nil =>
      obtain ⟨rfl, rfl⟩ := List.cons.inj h
      exact ⟨hP, hQ⟩
    | cons first front => simp at h
  · rintro ⟨hP, hQ⟩
    exact ⟨[], text, [], rfl, hP, by simp, hQ⟩

theorem lastHas_concat (texts : List Text) (text : Text) :
    LastHas P Q (texts ++ [text]) ↔ (P text ∧ Q text) ∨ (LastHas P Q texts ∧ ¬ P text) := by
  rw [lastHas_append, lastHas_singleton]
  simp only [List.forall_mem_singleton]

end

/-! ## What the lines before leave open -/

/-- A text with a brace. -/
def HasBrace (text : Text) : Prop := '{' ∈ text ∨ '}' ∈ text

/-- A text with the start or the end of a comment. -/
def HasMark (text : Text) : Prop := ['/', '*'] <:+: text ∨ ['*', '/'] <:+: text

/-- The last of some lines that has a brace opens a block and closes none. -/
def RuleOpen (lines : List Text) : Prop :=
  LastHas HasBrace (fun text => '{' ∈ text ∧ '}' ∉ text) lines

/-- The last of some lines that has the start or the end of a comment does not have its end. -/
def CommentOpen (lines : List Text) : Prop :=
  LastHas HasMark (fun text => ¬ ['*', '/'] <:+: text) lines

theorem ruleOpen_concat (lines : List Text) (text : Text) :
    RuleOpen (lines ++ [text]) ↔
      ('{' ∈ text ∧ '}' ∉ text) ∨ (RuleOpen lines ∧ ¬ HasBrace text) := by
  unfold RuleOpen
  rw [lastHas_concat]
  unfold HasBrace
  tauto

theorem commentOpen_concat (lines : List Text) (text : Text) :
    CommentOpen (lines ++ [text]) ↔
      (CommentOpen lines ∨ ['/', '*'] <:+: text) ∧ ¬ ['*', '/'] <:+: text := by
  unfold CommentOpen
  rw [lastHas_concat]
  unfold HasMark
  tauto

/-- A state says what the lines before it do. -/
structure LineState.Tracks (state : LineState) (earlier : List Text) : Prop where
  inStyle : state.inStyle = true ↔ ∃ text ∈ earlier, styleOpen <:+: text
  inRule : state.inRule = true ↔ RuleOpen earlier
  inComment : state.inComment = true ↔ CommentOpen earlier

theorem LineState.tracks_start : LineState.start.Tracks [] where
  inStyle := by simp [start]
  inRule := ⟨fun h => (by cases h), fun h => absurd h not_lastHas_nil⟩
  inComment := ⟨fun h => (by cases h), fun h => absurd h not_lastHas_nil⟩

theorem contains_char {c : Char} {text : Text} : Text.contains [c] text = true ↔ c ∈ text := by
  rw [Text.contains_iff, List.singleton_infix_iff]

/-- **One more line.** -/
theorem LineState.Tracks.step {state : LineState} {earlier : List Text} (h : state.Tracks earlier)
    (text : Text) : ((state.enter text).leave text).Tracks (earlier ++ [text]) where
  inStyle := by
    simp only [enter, leave, Bool.or_eq_true, h.inStyle, Text.contains_iff, List.mem_append,
      List.mem_singleton, or_and_right, exists_or, exists_eq_left]
  inRule := by
    rw [ruleOpen_concat, ← h.inRule]
    show (if Text.contains ['{'] text = true then !Text.contains ['}'] text
      else state.inRule && !Text.contains ['}'] text) = true ↔ _
    unfold HasBrace
    by_cases hopen : '{' ∈ text
    · rw [if_pos (contains_char.mpr hopen), Bool.not_eq_true', ← Bool.not_eq_true, contains_char]
      tauto
    · rw [if_neg (mt contains_char.mp hopen), Bool.and_eq_true, Bool.not_eq_true',
        ← Bool.not_eq_true, contains_char]
      tauto
  inComment := by
    rw [commentOpen_concat, ← h.inComment]
    simp only [enter, leave, Bool.and_eq_true, Bool.or_eq_true, Text.contains_iff,
      Bool.not_eq_true', ← Bool.not_eq_true]

/-- The state after some lines. -/
def LineState.after (texts : List Text) : LineState :=
  texts.foldl (fun state text => (state.enter text).leave text) .start

theorem LineState.tracks_after (texts : List Text) : (LineState.after texts).Tracks texts := by
  induction texts using List.reverseRecOn with
  | nil => exact tracks_start
  | append_singleton texts text ih =>
    rw [after, List.foldl_append]
    exact ih.step text

instance (lines : List Text) : Decidable (RuleOpen lines) :=
  decidable_of_iff _ (LineState.tracks_after lines).inRule

instance (lines : List Text) : Decidable (CommentOpen lines) :=
  decidable_of_iff _ (LineState.tracks_after lines).inComment

/-! ## Lines that are flagged -/

/-- A text with a colon that has something before it, and a semicolon after something more. -/
def ReadsAsDeclaration (text : Text) : Prop :=
  ∃ name value rest, text = name ++ ':' :: (value ++ ';' :: rest) ∧ name ≠ [] ∧ value ≠ []

/-- A line that is flagged inside a rule: it is not blank, has no brace, no at-sign and no start of
a comment, and does not read as a declaration. -/
structure Suspect (text : Text) : Prop where
  notBlank : text.trim ≠ []
  noBrace : ¬ HasBrace text
  noAt : '@' ∉ text
  noComment : ¬ ['/', '*'] <:+: text
  noDeclaration : ¬ ReadsAsDeclaration text

/-- A line that is flagged after some others: a style element is opened no later than on this line
and not closed, a rule was left open, and no comment was. -/
structure FlaggedAfter (earlier : List Text) (text : Text) : Prop where
  inStyle : ∃ line ∈ earlier ++ [text], styleOpen <:+: line
  unclosed : ∀ line ∈ earlier ++ [text], ¬ styleClose <:+: line
  inRule : RuleOpen earlier
  noComment : ¬ CommentOpen earlier
  suspect : Suspect text

/-- What follows the first of some characters is at least what follows any of them. -/
theorem exists_dropWhile_ne (c : Char) (front rest : Text) :
    ∃ more, (front ++ c :: rest).dropWhile (· != c) = c :: (more ++ rest) := by
  induction front with
  | nil => exact ⟨[], by simp⟩
  | cons d ds ih =>
    by_cases hd : d = c
    · exact ⟨ds ++ [c], by simp [hd]⟩
    · obtain ⟨more, hmore⟩ := ih
      exact ⟨more, by rw [List.cons_append, List.dropWhile_cons_of_pos (by simpa using hd), hmore]⟩

theorem exists_split_of_dropWhile_ne {c d : Char} {text rest : Text}
    (h : text.dropWhile (· != c) = d :: rest) : ∃ front, text = front ++ c :: rest := by
  have hstop := List.head?_dropWhile_not (· != c) text
  rw [h] at hstop
  obtain rfl : d = c := by simpa using hstop
  have hsplit := List.takeWhile_append_dropWhile (p := (· != d)) (l := text)
  rw [h] at hsplit
  exact ⟨_, hsplit.symm⟩

/-- **Looking at the first colon is enough.** -/
theorem isDeclarationLine_iff {text : Text} :
    isDeclarationLine text = true ↔ ReadsAsDeclaration text := by
  unfold isDeclarationLine
  constructor
  · intro h
    cases text with
    | nil => cases h
    | cons a cs =>
      cases hcolon : cs.dropWhile (· != ':') with
      | nil => simp [hcolon] at h
      | cons c rest =>
        have hsemicolon : ';' ∈ rest.drop 1 := by simpa [hcolon] using h
        obtain ⟨front, rfl⟩ := exists_split_of_dropWhile_ne hcolon
        cases rest with
        | nil => simp at hsemicolon
        | cons d ds =>
          obtain ⟨value, more, hds⟩ := List.append_of_mem hsemicolon
          have hds : ds = value ++ ';' :: more := hds
          exact ⟨a :: front, d :: value, more, by simp [hds], by simp, by simp⟩
  · rintro ⟨name, value, rest, rfl, hname, hvalue⟩
    obtain ⟨a, name, rfl⟩ := List.exists_cons_of_ne_nil hname
    obtain ⟨d, value, rfl⟩ := List.exists_cons_of_ne_nil hvalue
    obtain ⟨more, hmore⟩ := exists_dropWhile_ne ':' name (d :: value ++ ';' :: rest)
    rw [List.cons_append, List.drop_one, List.tail_cons, hmore]
    show ((more ++ (d :: value ++ ';' :: rest)).drop 1).contains ';' = true
    rw [List.contains_iff_mem]
    cases more <;> simp

/-- **A line is flagged by its text and by the lines before it**, as long as none of these closes
the style element. -/
theorem LineState.Tracks.isFlagged_iff {state : LineState} {earlier : List Text}
    (h : state.Tracks earlier) {text : Text}
    (hclose : ∀ line ∈ earlier ++ [text], ¬ styleClose <:+: line) :
    isFlagged (state.enter text) text = true ↔ FlaggedAfter earlier text := by
  have hflags : isFlagged (state.enter text) text = true ↔
      (state.inStyle = true ∨ styleOpen <:+: text) ∧ (state.inRule = true ∧ '}' ∉ text) ∧
        ¬ (state.inComment = true ∨ ['/', '*'] <:+: text) ∧ text.trim ≠ [] ∧ '{' ∉ text ∧
        '@' ∉ text ∧ ¬ ReadsAsDeclaration text := by
    simp only [isFlagged, enter, Bool.and_eq_true, Bool.or_eq_true, Bool.not_eq_true',
      ← Bool.not_eq_true, Text.contains_iff, List.singleton_infix_iff, isDeclarationLine_iff,
      List.isEmpty_iff, and_assoc, ne_eq]
  rw [hflags, h.inStyle, h.inRule, h.inComment]
  constructor
  · rintro ⟨hstyle, ⟨hrule, hcloses⟩, hcomment, hblank, hopens, hat, hreads⟩
    refine ⟨?_, hclose, hrule, fun hopen => hcomment (.inl hopen), ⟨hblank, ?_, hat, ?_, hreads⟩⟩
    · rcases hstyle with ⟨line, hline, hstyle⟩ | hstyle
      · exact ⟨line, List.mem_append_left _ hline, hstyle⟩
      · exact ⟨text, by simp, hstyle⟩
    · rintro (hbrace | hbrace)
      · exact hopens hbrace
      · exact hcloses hbrace
    · exact fun hstart => hcomment (.inr hstart)
  · rintro ⟨⟨line, hline, hstyle⟩, -, hrule, hcomment, ⟨hblank, hbrace, hat, hstart, hreads⟩⟩
    refine ⟨?_, ⟨hrule, fun h => hbrace (.inr h)⟩, not_or.mpr ⟨hcomment, hstart⟩, hblank,
      fun h => hbrace (.inl h), hat, hreads⟩
    rcases List.mem_append.mp hline with hearlier | hhere
    · exact .inl ⟨line, hearlier, hstyle⟩
    · rw [List.mem_singleton.mp hhere] at hstyle
      exact .inr hstyle

/-! ## The run -/

/-- Text `i` of some texts is flagged after the ones before it and some earlier ones. -/
def Flagged (earlier texts : List Text) (i : Nat) : Prop :=
  ∃ text, texts[i]? = some text ∧ FlaggedAfter (earlier ++ texts.take i) text

theorem flagged_zero {earlier rest : List Text} {text : Text} :
    Flagged earlier (text :: rest) 0 ↔ FlaggedAfter earlier text := by
  simp [Flagged]

theorem flagged_succ {earlier rest : List Text} {text : Text} {i : Nat} :
    Flagged earlier (text :: rest) (i + 1) ↔ Flagged (earlier ++ [text]) rest i := by
  simp [Flagged]

/-- No line is flagged from the one on that closes the style element. -/
theorem not_flagged_of_close {earlier rest : List Text} {text : Text} (h : styleClose <:+: text)
    (i : Nat) : ¬ Flagged earlier (text :: rest) i := by
  rintro ⟨other, hother, hflagged⟩
  refine hflagged.unclosed text ?_ h
  cases i with
  | zero =>
    obtain rfl : text = other := by simpa using hother
    simp
  | succ i => simp

/-- One finding for each of some lines, given by their positions. -/
def Reported (lines : List Line) (positions : List Nat) (findings : List Diagnostic) : Prop :=
  List.Forall₂ (fun i finding => ∃ line, lines[i]? = some line ∧ line.text.trim ≠ [] ∧
    finding = lineDiagnostic line) positions findings

theorem Reported.cons {lines : List Line} {positions : List Nat} {findings : List Diagnostic}
    (h : Reported lines positions findings) (line : Line) :
    Reported (line :: lines) (positions.map (· + 1)) findings := by
  rw [Reported, List.forall₂_map_left_iff]
  exact h

/-- **The run.** After lines that leave the check in some state, it reports the lines that are
flagged after those. -/
theorem lineDiagnosticsFrom_flagged {state : LineState} {earlier : List Text}
    (h : state.Tracks earlier) (hclose : ∀ text ∈ earlier, ¬ styleClose <:+: text)
    (lines : List Line) :
    ∃ positions : List Nat, positions.Pairwise (· < ·) ∧
      (∀ i, i ∈ positions ↔ Flagged earlier (lines.map Line.text) i) ∧
      Reported lines positions (lineDiagnosticsFrom state lines) := by
  induction lines generalizing state earlier with
  | nil => exact ⟨[], .nil, by simp [Flagged], .nil⟩
  | cons line rest ih =>
    rw [lineDiagnosticsFrom, List.map_cons]
    by_cases hcloses : Text.contains styleClose line.text = true
    · rw [if_pos hcloses]
      refine ⟨[], .nil, fun i => ?_, .nil⟩
      simpa using not_flagged_of_close (Text.contains_iff.mp hcloses) i
    · rw [if_neg hcloses]
      have hunclosed : ∀ text ∈ earlier ++ [line.text], ¬ styleClose <:+: text := by
        intro text htext
        rcases List.mem_append.mp htext with hearlier | hhere
        · exact hclose text hearlier
        · rw [List.mem_singleton.mp hhere]
          exact mt Text.contains_iff.mpr hcloses
      obtain ⟨later, hordered, hlater, hfindings⟩ := ih (h.step line.text) hunclosed
      have hsucc : (later.map (· + 1)).Pairwise (· < ·) := by
        rw [List.pairwise_map]
        exact hordered.imp (by omega)
      have hhere := h.isFlagged_iff hunclosed
      by_cases hflagged : isFlagged (state.enter line.text) line.text = true
      · rw [if_pos hflagged]
        have hfirst := hhere.mp hflagged
        refine ⟨0 :: later.map (· + 1), ?_, ?_, ?_⟩
        · exact List.pairwise_cons.mpr ⟨by simp, hsucc⟩
        · intro i
          cases i with
          | zero => simpa [flagged_zero] using hfirst
          | succ i => simp [flagged_succ, hlater]
        · exact List.Forall₂.cons ⟨line, rfl, hfirst.suspect.notBlank, rfl⟩ (hfindings.cons line)
      · rw [if_neg hflagged]
        refine ⟨later.map (· + 1), hsucc, ?_, hfindings.cons line⟩
        intro i
        cases i with
        | zero => simpa [flagged_zero] using mt hhere.mpr hflagged
        | succ i => simp [flagged_succ, hlater]

/-! ## The region -/

theorem mem_throughClose {front : List Line} (hclose : ∀ line ∈ front, ¬ styleClose <:+: line.text)
    (line : Line) (rest : List Line) : line ∈ throughClose (front ++ line :: rest) := by
  induction front with
  | nil =>
    rw [List.nil_append, throughClose]
    split <;> simp
  | cons first front ih =>
    obtain ⟨hfirst, hfront⟩ := List.forall_mem_cons.mp hclose
    rw [List.cons_append, throughClose, if_neg (mt Text.contains_iff.mp hfirst)]
    exact List.mem_cons_of_mem first (ih hfront)

/-- **A line that is flagged is in the region.** -/
theorem mem_region_of_flagged {lines : List Line} {i : Nat} {line : Line}
    (hline : lines[i]? = some line)
    (hflagged : FlaggedAfter ((lines.take i).map Line.text) line.text) :
    line ∈ (Region.ofLines lines).lines := by
  obtain ⟨hi, hget⟩ := List.getElem?_eq_some_iff.mp hline
  have hsplit : lines = lines.take i ++ line :: lines.drop (i + 1) := by
    rw [← hget, ← List.drop_eq_getElem_cons hi, List.take_append_drop]
  have hclose : ∀ other ∈ lines.take i, ¬ styleClose <:+: other.text := by
    intro other hother
    exact hflagged.unclosed other.text (List.mem_append_left _ (List.mem_map_of_mem hother))
  show line ∈ throughClose (lines.dropWhile fun line => !Text.contains styleOpen line.text)
  rw [hsplit, List.dropWhile_append]
  split
  · -- no line before opens the style element, so this one does
    rename_i hnone
    have hhere : styleOpen <:+: line.text := by
      obtain ⟨text, htext, hopen⟩ := hflagged.inStyle
      rcases List.mem_append.mp htext with hearlier | hhere
      · obtain ⟨other, hother, rfl⟩ := List.mem_map.mp hearlier
        have hunopened := List.dropWhile_eq_nil_iff.mp (List.isEmpty_iff.mp hnone) other hother
        rw [Text.contains_iff.mpr hopen] at hunopened
        cases hunopened
      · rwa [List.mem_singleton.mp hhere] at hopen
    rw [List.dropWhile_cons_of_neg (by simpa using Text.contains_iff.mpr hhere)]
    exact @mem_throughClose [] (by simp) line _
  · refine mem_throughClose ?_ line _
    intro other hother
    exact hclose other ((List.dropWhile_suffix _).subset hother)

/-! ## The findings of a source -/

/-- The texts of the lines of a source. -/
def lineTexts (source : Text) : List Text := (LineIndex.ofText source).lines.map Line.text

/-- **Which lines are flagged.** In a source shorter than 2^32 bytes there is one finding for each
line that is flagged by its text and the lines before it, in the order of these lines, and it covers
the line without its outer blanks. Each such line is in the style region. -/
theorem lineDiagnostics_flagged {source : Text} (hsize : source.bytes < UInt32.size) :
    ∃ positions : List Nat, positions.Pairwise (· < ·) ∧
      (∀ i, i ∈ positions ↔
        ∃ text, (lineTexts source)[i]? = some text ∧
          FlaggedAfter ((lineTexts source).take i) text) ∧
      List.Forall₂ (fun i finding => ∃ line, (LineIndex.ofText source).lines[i]? = some line ∧
        finding = lineDiagnostic line ∧ finding.span.Marks source line.text.trim ∧
        line ∈ (Region.ofSource source).lines) positions (lineDiagnostics source) := by
  obtain ⟨positions, hordered, hflagged, hfindings⟩ := lineDiagnosticsFrom_flagged
    LineState.tracks_start (by simp) (LineIndex.ofText source).lines
  refine ⟨positions, hordered, hflagged, ?_⟩
  have hregion : ∀ i ∈ positions, ∀ line, (LineIndex.ofText source).lines[i]? = some line →
      line ∈ (Region.ofSource source).lines := by
    intro i hi line hline
    obtain ⟨text, htext, hafter⟩ := (hflagged i).mp hi
    rw [List.getElem?_map, hline] at htext
    cases htext
    rw [List.nil_append, ← List.map_take] at hafter
    exact mem_region_of_flagged hline hafter
  have hboth := (List.forall₂_and_left _ _).mpr ⟨hregion, hfindings⟩
  refine hboth.imp ?_
  rintro i finding ⟨hin, line, hline, -, rfl⟩
  have hstands := standsIn_of_mem_lines (List.mem_of_getElem? hline)
  exact ⟨line, hline, rfl, lineDiagnostic_marks hsize hstands, hin line hline⟩

/-- A line after a comment that ends on a line of its own, and before one that reads well. -/
theorem lineDiagnostics_flagged_comment :
    let source : Text :=
      "<style>\n.a \x7b\n/* x\n*/ y: 1;\n  top\n  top: 0;\n\x7d\n</style>".toList
    source.bytes < UInt32.size ∧
      ∃ i text, (lineTexts source)[i]? = some text ∧
        FlaggedAfter ((lineTexts source).take i) text ∧
        (⟨29, 32⟩ : Span).Marks source text.trim := by
  intro source
  have hsize : source.bytes < UInt32.size := by decide
  have hspans : (lineDiagnostics source).map Diagnostic.span = [⟨29, 32⟩] := by decide +kernel
  obtain ⟨finding, hfinding⟩ : ∃ finding, lineDiagnostics source = [finding] :=
    List.length_eq_one_iff.mp (by simpa using congrArg List.length hspans)
  obtain ⟨positions, -, hflagged, hfindings⟩ := lineDiagnostics_flagged hsize
  rw [hfinding] at hfindings hspans
  cases hfindings with
  | @cons i _ rest _ hfirst hrest =>
    obtain ⟨line, hline, -, hmarks, -⟩ := hfirst
    obtain ⟨text, htext, hafter⟩ := (hflagged i).mp List.mem_cons_self
    have hsame : line.text = text := by
      rw [lineTexts, List.getElem?_map, hline] at htext
      exact Option.some.inj htext
    have hspan : finding.span = ⟨29, 32⟩ := by simpa using hspans
    rw [hspan, hsame] at hmarks
    exact ⟨hsize, i, text, htext, hafter, hmarks⟩

end StyleAudit.Locate
