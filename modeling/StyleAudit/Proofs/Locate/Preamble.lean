import StyleAudit.Proofs.Css.Concatenation
import StyleAudit.Proofs.Locate.FlaggedLines

/-!
# What precedes the style element

The check of declaration lines starts with the first line of a source, not with the style element.
So a rule or a comment that seems to be open in the markup before it is taken to be open inside it,
up to the first line there that bears on it.

- `Line.spanAt_moved`, `lineDiagnostic_moved`: the finding for a line further along.
- `Reported.eq_iff`: findings tell their lines apart.
- `flaggedAfter_append_iff`, `flagged_preceded_iff`: when lines are flagged alike with and without
  what precedes.
- `lineDiagnostics_preceded`: when the findings of a source are those of its style element alone.
-/

namespace StyleAudit

/-- A diagnostic at another place. -/
def Diagnostic.relocate (f : UInt32 → UInt32) (diagnostic : Diagnostic) : Diagnostic :=
  { diagnostic with span := diagnostic.span.relocate f }

/-- A place on a line moves along with the line. -/
theorem Line.spanAt_moved (count bytes : Nat) (line : Line) (column length : Nat) :
    (line.moved count bytes).spanAt column length =
      (line.spanAt column length).relocate (Css.shift bytes) := by
  have hoffset : ∀ n : Nat, ((line.start + bytes).toUInt32.toNat + n).toUInt32 =
      Css.shift bytes (line.start.toUInt32.toNat + n).toUInt32 := by
    intro n
    show UInt32.ofNat ((UInt32.ofNat (line.start + bytes)).toNat + n) =
      UInt32.ofNat ((UInt32.ofNat line.start).toNat + n) + UInt32.ofNat bytes
    simp only [UInt32.ofNat_add, UInt32.ofNat_toNat]
    ac_rfl
  show (⟨_, _⟩ : Span) = ⟨_, _⟩
  rw [Span.mk.injEq]
  have hstop := hoffset (column + length)
  rw [← Nat.add_assoc, ← Nat.add_assoc] at hstop
  exact ⟨hoffset column, hstop⟩

namespace Locate

theorem lineDiagnostic_moved (count bytes : Nat) (line : Line) :
    lineDiagnostic (line.moved count bytes) =
      (lineDiagnostic line).relocate (Css.shift bytes) := by
  show (⟨_, _, _, (line.moved count bytes).spanAt _ _⟩ : Diagnostic) = _
  rw [Line.spanAt_moved]
  rfl

/-! ## Findings tell their lines apart -/

/-- The finding for a line starts on the line. -/
theorem lineDiagnostic_start {source : Text} (hsize : source.bytes < UInt32.size) {line : Line}
    (hline : line.StandsIn source) (hblank : line.text.trim ≠ []) :
    line.start ≤ (lineDiagnostic line).span.start.toNat ∧
      (lineDiagnostic line).span.start.toNat < line.start + line.text.bytes := by
  obtain ⟨before, after, hsource, hstart⟩ := hline
  have hbytes : source.bytes = before.bytes + line.text.bytes + after.bytes := by
    rw [hsource, Text.bytes_append, Text.bytes_append]
  have hpos : 0 < line.text.trimStart.bytes := by
    apply Text.bytes_pos
    intro hnil
    exact hblank (by rw [Text.trim, hnil]; rfl)
  have hle : line.text.trimStart.bytes ≤ line.text.bytes := by
    obtain ⟨front, hfront⟩ := Text.trimStart_suffix line.text
    have hsum := congrArg Text.bytes hfront
    rw [Text.bytes_append] at hsum
    omega
  have hfirst : line.span.start.toNat = line.start := UInt32.toNat_ofNat_of_lt (by omega)
  have hspan : (lineDiagnostic line).span.start.toNat =
      line.start + (line.text.bytes - line.text.trimStart.bytes) := by
    show (UInt32.ofNat (line.span.start.toNat + _)).toNat = _
    rw [hfirst]
    exact UInt32.toNat_ofNat_of_lt (by omega)
  omega

/-- Findings for two lines of a source are different. -/
theorem lineDiagnostic_ne {source : Text} (hsize : source.bytes < UInt32.size) {lines : List Line}
    (hlines : lines <:+ (LineIndex.ofText source).lines) {i j : Nat} {line other : Line}
    (hlt : i < j) (hline : lines[i]? = some line) (hother : lines[j]? = some other)
    (hblank : line.text.trim ≠ []) (hblank' : other.text.trim ≠ []) :
    lineDiagnostic line ≠ lineDiagnostic other := by
  intro hsame
  have hstands : ∀ {k : Nat} {line : Line}, lines[k]? = some line → line.StandsIn source :=
    fun hget => standsIn_of_mem_lines (hlines.subset (List.mem_of_getElem? hget))
  have hfirst := lineDiagnostic_start hsize (hstands hline) hblank
  have hsecond := lineDiagnostic_start hsize (hstands hother) hblank'
  rw [← hsame] at hsecond
  -- the first line ends before the second one starts
  have hordered := (LineIndex.lines_ordered source).sublist hlines.sublist
  obtain ⟨hi, rfl⟩ := List.getElem?_eq_some_iff.mp hline
  obtain ⟨hj, rfl⟩ := List.getElem?_eq_some_iff.mp hother
  have hends := List.pairwise_iff_getElem.mp hordered i j hi hj hlt
  omega

/-- **Findings tell their lines apart.** -/
theorem Reported.positions_eq {source : Text} (hsize : source.bytes < UInt32.size)
    {lines : List Line} (hlines : lines <:+ (LineIndex.ofText source).lines)
    {positions others : List Nat} {findings : List Diagnostic} (h : Reported lines positions findings)
    (h' : Reported lines others findings) : positions = others := by
  refine List.left_unique_forall₂' ?_ h h'
  rintro i j finding ⟨line, hi, hblank, rfl⟩ ⟨other, hj, hblank', hsame⟩
  rcases Nat.lt_trichotomy i j with hlt | heq | hlt
  · exact absurd hsame (lineDiagnostic_ne hsize hlines hlt hi hj hblank hblank')
  · exact heq
  · exact absurd hsame.symm (lineDiagnostic_ne hsize hlines hlt hj hi hblank' hblank)

theorem Reported.findings_eq {lines : List Line} {positions : List Nat}
    {findings others : List Diagnostic} (h : Reported lines positions findings)
    (h' : Reported lines positions others) : findings = others := by
  refine List.right_unique_forall₂' ?_ h h'
  rintro i finding other ⟨line, hline, -, rfl⟩ ⟨line', hline', -, rfl⟩
  rw [hline] at hline'
  cases hline'
  rfl

/-- Findings for some lines of a source are the same iff the lines are. -/
theorem Reported.eq_iff {source : Text} (hsize : source.bytes < UInt32.size) {lines : List Line}
    (hlines : lines <:+ (LineIndex.ofText source).lines) {positions others : List Nat}
    {findings findings' : List Diagnostic} (h : Reported lines positions findings)
    (h' : Reported lines others findings') (hordered : positions.Pairwise (· < ·))
    (hordered' : others.Pairwise (· < ·)) :
    findings = findings' ↔ ∀ i, i ∈ positions ↔ i ∈ others := by
  constructor
  · rintro rfl i
    rw [h.positions_eq hsize hlines h']
  · intro hiff
    have hpositions : positions = others := hordered.eq_of_mem_iff hordered' hiff
    subst hpositions
    exact h.findings_eq h'

/-- Findings move along with their lines. -/
theorem Reported.moved {lines : List Line} {positions : List Nat} {findings : List Diagnostic}
    (h : Reported lines positions findings) (count bytes : Nat) :
    Reported (lines.map (Line.moved count bytes)) positions
      (findings.map (Diagnostic.relocate (Css.shift bytes))) := by
  unfold Reported
  rw [List.forall₂_map_right_iff]
  refine List.Forall₂.imp ?_ h
  rintro i finding ⟨line, hline, hblank, rfl⟩
  refine ⟨line.moved count bytes, ?_, hblank, (lineDiagnostic_moved count bytes line).symm⟩
  rw [List.getElem?_map, hline]
  rfl

/-! ## The lines before the style element -/

/-- Nothing is reported before the style element. -/
theorem exists_state_after {earlier : List Line}
    (hplain : ∀ line ∈ earlier, ¬ styleOpen <:+: line.text ∧ ¬ styleClose <:+: line.text)
    {state : LineState} {before : List Text} (h : state.Tracks before)
    (hunopened : ∀ text ∈ before, ¬ styleOpen <:+: text) (lines : List Line) :
    ∃ later : LineState, later.Tracks (before ++ earlier.map Line.text) ∧
      lineDiagnosticsFrom state (earlier ++ lines) = lineDiagnosticsFrom later lines := by
  induction earlier generalizing state before with
  | nil => exact ⟨state, by simpa using h, rfl⟩
  | cons line rest ih =>
    obtain ⟨⟨hopen, hclose⟩, hrest⟩ := List.forall_mem_cons.mp hplain
    have hunopened' : ∀ text ∈ before ++ [line.text], ¬ styleOpen <:+: text := by
      intro text htext
      rcases List.mem_append.mp htext with hbefore | hhere
      · exact hunopened text hbefore
      · rwa [List.mem_singleton.mp hhere]
    obtain ⟨later, htracks, hlater⟩ := ih hrest (h.step line.text) hunopened'
    refine ⟨later, by simpa using htracks, ?_⟩
    have hflagged : ¬ isFlagged (state.enter line.text) line.text = true := by
      intro hflagged
      have hstyle : state.inStyle = true ∨ styleOpen <:+: line.text := by
        simp only [isFlagged, LineState.enter, Bool.and_eq_true, Bool.or_eq_true,
          Text.contains_iff] at hflagged
        tauto
      rcases hstyle with hbefore | hhere
      · obtain ⟨text, htext, hstyle⟩ := h.inStyle.mp hbefore
        exact hunopened text htext hstyle
      · exact hopen hhere
    rw [List.cons_append, lineDiagnosticsFrom, if_neg (mt Text.contains_iff.mp hclose)]
    simp only [if_neg hflagged]
    exact hlater

/-! ## What they leave open -/

/-- Lines before the style element: none of them opens or closes one. -/
def BeforeStyle (texts : List Text) : Prop :=
  ∀ text ∈ texts, ¬ styleOpen <:+: text ∧ ¬ styleClose <:+: text

instance (texts : List Text) : Decidable (BeforeStyle texts) :=
  inferInstanceAs (Decidable (∀ text ∈ texts, ¬ styleOpen <:+: text ∧ ¬ styleClose <:+: text))

/-- A line in the style element is flagged alike with and without the lines before the element, if
two things hold: a rule left open before it is closed there, or the line is no suspect or in a
comment; and a comment left open before it is closed there, or the line is not flagged anyway. -/
theorem flaggedAfter_append_iff {before earlier : List Text} (hbefore : BeforeStyle before)
    {text : Text} (hstyle : ∃ line ∈ earlier ++ [text], styleOpen <:+: line) :
    (FlaggedAfter (before ++ earlier) text ↔ FlaggedAfter earlier text) ↔
      (RuleOpen before → Suspect text → (∀ line ∈ earlier, ¬ HasBrace line) →
        (∀ line ∈ earlier ++ [text], ¬ styleClose <:+: line) → CommentOpen (before ++ earlier)) ∧
      (CommentOpen before → FlaggedAfter earlier text → ∃ line ∈ earlier, HasMark line) := by
  have hunclosed : (∀ line ∈ before ++ earlier ++ [text], ¬ styleClose <:+: line) ↔
      ∀ line ∈ earlier ++ [text], ¬ styleClose <:+: line := by
    rw [List.append_assoc, List.forall_mem_append]
    exact and_iff_right fun line hline => (hbefore line hline).2
  have hopened : ∃ line ∈ before ++ earlier ++ [text], styleOpen <:+: line := by
    obtain ⟨line, hline, hopen⟩ := hstyle
    exact ⟨line, by rw [List.append_assoc]; exact List.mem_append_right before hline, hopen⟩
  have hrule : RuleOpen (before ++ earlier) ↔
      RuleOpen earlier ∨ (RuleOpen before ∧ ∀ line ∈ earlier, ¬ HasBrace line) :=
    lastHas_append before earlier
  have hcomment : CommentOpen (before ++ earlier) ↔
      CommentOpen earlier ∨ (CommentOpen before ∧ ∀ line ∈ earlier, ¬ HasMark line) :=
    lastHas_append before earlier
  constructor
  · intro hiff
    constructor
    · intro hopen hsuspect hnone hclose
      by_contra hout
      have hflagged : FlaggedAfter (before ++ earlier) text :=
        ⟨hopened, hunclosed.mpr hclose, hrule.mpr (.inr ⟨hopen, hnone⟩), hout, hsuspect⟩
      obtain ⟨front, line, rest, rfl, hbrace, -⟩ := (hiff.mp hflagged).inRule
      exact hnone line (by simp) hbrace
    · intro hopen hflagged
      by_contra hnone
      refine (hiff.mpr hflagged).noComment (hcomment.mpr (.inr ⟨hopen, ?_⟩))
      exact fun line hline hmark => hnone ⟨line, hline, hmark⟩
  · rintro ⟨hcover, hclosed⟩
    constructor
    · intro hflagged
      have hclose := hunclosed.mp hflagged.unclosed
      refine ⟨hstyle, hclose, ?_, fun h => hflagged.noComment (hcomment.mpr (.inl h)),
        hflagged.suspect⟩
      rcases hrule.mp hflagged.inRule with hhere | ⟨hopen, hnone⟩
      · exact hhere
      · exact absurd (hcover hopen hflagged.suspect hnone hclose) hflagged.noComment
    · intro hflagged
      refine ⟨hopened, hunclosed.mpr hflagged.unclosed, hrule.mpr (.inl hflagged.inRule), ?_,
        hflagged.suspect⟩
      intro hopen
      rcases hcomment.mp hopen with hhere | ⟨hleft, hnone⟩
      · exact hflagged.noComment hhere
      · obtain ⟨line, hline, hmark⟩ := hclosed hleft hflagged
        exact hnone line hline hmark

/-! ## Findings with and without what precedes -/

/-- The lines of a source after a text that ends with its last line. -/
theorem exists_lines_after {front : Text} (hfront : ∀ c ∈ front.getLast?, c = '\n')
    (source : Text) :
    ∃ earlier : List Line, (LineIndex.ofText (front ++ source)).lines =
        earlier ++ (LineIndex.ofText source).lines.map (Line.moved earlier.length front.bytes) ∧
      lineTexts front = earlier.map Line.text ++ [[]] := by
  rcases List.eq_nil_or_concat' front with rfl | ⟨body, c, rfl⟩
  · refine ⟨[], ?_, rfl⟩
    have hmoved : Line.moved 0 0 = id := rfl
    show _ = (LineIndex.ofText source).lines.map (Line.moved 0 0)
    rw [hmoved, List.map_id]
    rfl
  · obtain rfl : c = '\n' := hfront c (by simp)
    refine ⟨(LineIndex.ofText body).lines, ?_, ?_⟩
    · have hbytes : Text.bytes (body ++ ['\n']) = Text.bytes body + 1 := by
        rw [Text.bytes_append]
        rfl
      rw [List.append_assoc, List.singleton_append, LineIndex.lines_append, hbytes]
    · rw [lineTexts, LineIndex.lines_append, List.map_append]
      rfl

theorem LineState.Tracks.blank {state : LineState} {earlier : List Text}
    (h : state.Tracks earlier) : state.Tracks (earlier ++ [[]]) := by
  have hsame : (state.enter []).leave [] = state := by
    obtain ⟨inStyle, inRule, inComment⟩ := state
    cases inStyle <;> cases inRule <;> cases inComment <;> rfl
  rw [← hsame]
  exact h.step []

/-- Whether the lines before are there or not, the same lines are flagged. -/
theorem flagged_preceded_iff {before texts : List Text} (hbefore : BeforeStyle before)
    (hopen : ∀ text ∈ texts.head?, styleOpen <:+: text) :
    (∀ i, Flagged before texts i ↔ Flagged [] texts i) ↔
      (RuleOpen before → ∀ i text, texts[i]? = some text → Suspect text →
        (∀ line ∈ texts.take i, ¬ HasBrace line) →
        (∀ line ∈ texts.take i ++ [text], ¬ styleClose <:+: line) →
        CommentOpen (before ++ texts.take i)) ∧
      (CommentOpen before → ∀ i text, texts[i]? = some text →
        FlaggedAfter (texts.take i) text → ∃ line ∈ texts.take i, HasMark line) := by
  have hflagged : ∀ {earlier : List Text} {i : Nat} {text : Text}, texts[i]? = some text →
      (Flagged earlier texts i ↔ FlaggedAfter (earlier ++ texts.take i) text) := by
    intro earlier i text htext
    simp [Flagged, htext]
  have hpoint : ∀ i text, texts[i]? = some text →
      ((Flagged before texts i ↔ Flagged [] texts i) ↔
        (FlaggedAfter (before ++ texts.take i) text ↔ FlaggedAfter (texts.take i) text)) := by
    intro i text htext
    rw [hflagged htext, hflagged htext, List.nil_append]
  have hstyle : ∀ i text, texts[i]? = some text →
      ∃ line ∈ texts.take i ++ [text], styleOpen <:+: line := by
    intro i text htext
    cases texts with
    | nil => simp at htext
    | cons first rest =>
      refine ⟨first, ?_, hopen first rfl⟩
      cases i with
      | zero =>
        obtain rfl : first = text := by simpa using htext
        simp
      | succ i => simp
  constructor
  · intro hiff
    have hboth := fun i text htext =>
      (flaggedAfter_append_iff hbefore (hstyle i text htext)).mp ((hpoint i text htext).mp (hiff i))
    exact ⟨fun hrule i text htext => (hboth i text htext).1 hrule,
      fun hcomment i text htext => (hboth i text htext).2 hcomment⟩
  · rintro ⟨hcover, hclosed⟩ i
    cases htext : texts[i]? with
    | none => simp [Flagged, htext]
    | some text =>
      refine (hpoint i text htext).mpr ?_
      refine (flaggedAfter_append_iff hbefore (hstyle i text htext)).mpr ?_
      exact ⟨fun hrule => hcover hrule i text htext, fun hcomment => hclosed hcomment i text htext⟩

/-- After lines that open and close no style element, the lines of a source are flagged as they are
after these lines. -/
theorem exists_reported_preceded {front source : Text} (hfront : ∀ c ∈ front.getLast?, c = '\n')
    (hbefore : BeforeStyle (lineTexts front)) :
    ∃ (count : Nat) (positions : List Nat),
      (LineIndex.ofText source).lines.map (Line.moved count front.bytes) <:+
        (LineIndex.ofText (front ++ source)).lines ∧
      positions.Pairwise (· < ·) ∧
      (∀ i, i ∈ positions ↔ Flagged (lineTexts front) (lineTexts source) i) ∧
      Reported ((LineIndex.ofText source).lines.map (Line.moved count front.bytes)) positions
        (lineDiagnostics (front ++ source)) := by
  obtain ⟨earlier, hlines, htexts⟩ := exists_lines_after hfront source
  have hplain : ∀ line ∈ earlier, ¬ styleOpen <:+: line.text ∧ ¬ styleClose <:+: line.text := by
    intro line hline
    refine hbefore line.text ?_
    rw [htexts]
    exact List.mem_append_left _ (List.mem_map_of_mem hline)
  obtain ⟨state, htracks, hrun⟩ := exists_state_after hplain LineState.tracks_start (by simp)
    ((LineIndex.ofText source).lines.map (Line.moved earlier.length front.bytes))
  have htracks : state.Tracks (lineTexts front) := by
    rw [htexts]
    exact htracks.blank
  obtain ⟨positions, hordered, hflagged, hfindings⟩ := lineDiagnosticsFrom_flagged htracks
    (fun text htext => (hbefore text htext).2)
    ((LineIndex.ofText source).lines.map (Line.moved earlier.length front.bytes))
  have hsame : ((LineIndex.ofText source).lines.map
      (Line.moved earlier.length front.bytes)).map Line.text = lineTexts source := by
    rw [List.map_map]
    rfl
  rw [hsame] at hflagged
  rw [← hrun, ← hlines] at hfindings
  refine ⟨earlier.length, positions, ?_, hordered, hflagged, hfindings⟩
  rw [hlines]
  exact List.suffix_append _ _

/-- **When what precedes the style element does not matter.** Let a source start with the line that
opens the style element, and let lines precede it that open and close none. The findings are then
those of the source alone, moved along, iff two things hold. If the lines before leave a rule open,
then each suspect line before the first brace of the source, and before the end of the element, is
in a comment. If they leave a comment open, then each line that is flagged in the source alone comes
after a line there with the start or the end of a comment. -/
theorem lineDiagnostics_preceded {front source : Text} (hfront : ∀ c ∈ front.getLast?, c = '\n')
    (hbefore : BeforeStyle (lineTexts front))
    (hopen : ∀ text ∈ (lineTexts source).head?, styleOpen <:+: text)
    (hsize : front.bytes + source.bytes < UInt32.size) :
    lineDiagnostics (front ++ source) =
        (lineDiagnostics source).map (Diagnostic.relocate (Css.shift front.bytes)) ↔
      (RuleOpen (lineTexts front) → ∀ i text, (lineTexts source)[i]? = some text → Suspect text →
        (∀ line ∈ (lineTexts source).take i, ¬ HasBrace line) →
        (∀ line ∈ (lineTexts source).take i ++ [text], ¬ styleClose <:+: line) →
        CommentOpen (lineTexts front ++ (lineTexts source).take i)) ∧
      (CommentOpen (lineTexts front) → ∀ i text, (lineTexts source)[i]? = some text →
        FlaggedAfter ((lineTexts source).take i) text →
        ∃ line ∈ (lineTexts source).take i, HasMark line) := by
  obtain ⟨count, positions, hsuffix, hordered, hflagged, hfindings⟩ :=
    @exists_reported_preceded front source hfront hbefore
  obtain ⟨others, hordered', hflagged', hfindings'⟩ := lineDiagnosticsFrom_flagged
    LineState.tracks_start (by simp) (LineIndex.ofText source).lines
  have hsize' : Text.bytes (front ++ source) < UInt32.size := by rwa [Text.bytes_append]
  -- the same lines, with what precedes them and without, but moved along
  have hmoved := hfindings'.moved count front.bytes
  have hequal := hfindings.eq_iff hsize' hsuffix hmoved hordered hordered'
  simp only [hflagged, hflagged'] at hequal
  rw [← flagged_preceded_iff hbefore hopen]
  exact hequal

/-- A rule is left open before the element, but its first line has a brace of its own. -/
theorem lineDiagnostics_preceded_braced :
    let front : Text := "<p>\x7b</p>\n".toList
    let source : Text := "<style>.a \x7b\n  top\n\x7d\n</style>".toList
    (∀ c ∈ front.getLast?, c = '\n') ∧ BeforeStyle (lineTexts front) ∧
      (∀ text ∈ (lineTexts source).head?, styleOpen <:+: text) ∧
      front.bytes + source.bytes < UInt32.size ∧ RuleOpen (lineTexts front) ∧
      lineDiagnostics (front ++ source) =
        (lineDiagnostics source).map (Diagnostic.relocate (Css.shift front.bytes)) ∧
      (lineDiagnostics (front ++ source)).map Diagnostic.span = [⟨23, 26⟩] := by
  intro front source
  have hlast : front.getLast? = some '\n' := by decide +kernel
  have hbefore : BeforeStyle (lineTexts front) := by decide +kernel
  have hsize : front.bytes + source.bytes < UInt32.size := by decide +kernel
  have hlines : lineTexts source = "<style>.a \x7b".toList :: (lineTexts source).tail := by
    decide +kernel
  have hstyle : styleOpen <:+: "<style>.a \x7b".toList := by decide +kernel
  have hbrace : HasBrace "<style>.a \x7b".toList := .inl (by decide +kernel)
  have hfront : ∀ c ∈ front.getLast?, c = '\n' := by
    rw [hlast]
    rintro c ⟨⟩
    rfl
  have hopen : ∀ text ∈ (lineTexts source).head?, styleOpen <:+: text := by
    rw [hlines]
    rintro text ⟨⟩
    exact hstyle
  refine ⟨hfront, hbefore, hopen, hsize, by decide +kernel, ?_, by decide +kernel⟩
  refine (lineDiagnostics_preceded hfront hbefore hopen hsize).mpr ⟨?_, ?_⟩
  · -- that line has a brace, and it stands before all others
    intro _ i text htext hsuspect hnone _
    rw [hlines] at htext hnone
    cases i with
    | zero =>
      cases htext
      exact absurd hbrace hsuspect.noBrace
    | succ i => exact absurd hbrace (hnone _ List.mem_cons_self)
  · intro hcomment
    exact absurd hcomment (by decide +kernel)

/-- A path with a star in the markup hides what is wrong in the style element, and a brace there
makes up a rule that is not one. -/
theorem lineDiagnostics_beside_markup :
    let path : Text := "<p>src/*.js</p>\n".toList
    let brace : Text := "<p>\x7b</p>\n".toList
    let source : Text := "<style>\n.a \x7b\n  color: red\n\x7d\n</style>".toList
    let other : Text := "<style>\n.a\n</style>".toList
    (path.getLast? = some '\n' ∧ BeforeStyle (lineTexts path) ∧
      (lineTexts source).head? = some "<style>".toList ∧
      (lineDiagnostics source).map Diagnostic.span = [⟨15, 25⟩] ∧
      lineDiagnostics (path ++ source) = [] ∧
      lineDiagnostics (path ++ source) ≠
        (lineDiagnostics source).map (Diagnostic.relocate (Css.shift path.bytes))) ∧
    brace.getLast? = some '\n' ∧ BeforeStyle (lineTexts brace) ∧
      (lineTexts other).head? = some "<style>".toList ∧ lineDiagnostics other = [] ∧
      (lineDiagnostics (brace ++ other)).map Diagnostic.span = [⟨9, 16⟩, ⟨17, 19⟩] := by
  intro path brace source other
  refine ⟨⟨?_, ?_, ?_, ?_, ?_, ?_⟩, ?_, ?_, ?_, ?_, ?_⟩ <;> decide +kernel

end Locate

end StyleAudit
