import StyleAudit.Proofs.Css.Derivation
import StyleAudit.Proofs.Css.Reading
import Mathlib

/-!
# Two stylesheets one after the other

A source that is read to the end of its last rule may be followed by another one: the rules of both
are read, and what is read of the second is what would be read of it alone, moved along. Three facts
carry this.

- `Reader.after`, `Reader.after_carries`: a reader never looks at the rules it has finished, so
  rules before the outermost ones pass through reading.
- `Reader.run_body_append`: between rules no token runs on into the second source, unless it is a
  run of blanks, and that does not matter there.
- `run_body_of_closed`: a source whose last rule has an end of its own is read to a place between
  rules.

`parse_append` puts them together.
-/

namespace StyleAudit.Css

/-! ## Earlier rules -/

section

variable (earlier : List Rule)

/-- The open media blocks and the finished rules of the innermost one, with rules put before the
outermost ones. -/
def precede : List Frame → List Rule → List Frame × List Rule
  | [], rules => ([], earlier ++ rules)
  | frame :: outer, rules =>
    let below := precede outer frame.before
    ({ frame with before := below.2 } :: below.1, rules)

/-- One more rule stands behind the ones that are put in front. -/
theorem precede_concat (frames : List Frame) (rules : List Rule) (rule : Rule) :
    precede earlier frames (rules ++ [rule]) =
      ((precede earlier frames rules).1, (precede earlier frames rules).2 ++ [rule]) := by
  cases frames with
  | nil => rw [precede, precede, List.append_assoc]
  | cons frame outer => rfl

namespace Reader

/-- A reader that had finished some rules before it started. -/
def after (reader : Reader) : Reader where
  frames := (precede earlier reader.frames reader.rules).1
  rules := (precede earlier reader.frames reader.rules).2
  phase := reader.phase

theorem push_after (reader : Reader) (rule : Rule) :
    (reader.push rule).after earlier = (reader.after earlier).push rule := by
  simp only [push, after, precede_concat]

theorem closeMedia_after (reader : Reader) (token : Token) :
    (reader.after earlier).closeMedia token = (reader.closeMedia token).map (after earlier) := by
  obtain ⟨frames, rules, phase⟩ := reader
  cases frames with
  | nil => rfl
  | cons frame outer =>
    -- the block joins the rules before it, and these are the ones that have others in front
    simp only [closeMedia, after, precede, Except.map, precede_concat]

/-- **Earlier rules pass through reading**, while all offsets change. -/
theorem after_carries (f : UInt32 → UInt32) :
    Carries f (fun reader => (reader.relocate f).after earlier)
      (fun sheet => ⟨earlier ++ (sheet.relocate f).rules⟩) where
  become _ _ := rfl
  push reader rule := by rw [push_relocate, push_after]
  enterMedia _ _ _ _ := rfl
  closeMedia reader token := by
    rw [closeMedia_after, closeMedia_relocate]
    cases reader.closeMedia token <;> rfl
  finishBetween reader := by
    obtain ⟨frames, rules, phase⟩ := reader
    cases frames <;> rfl

end Reader

end

/-! ## Offsets -/

/-- Move an offset along by a number of bytes; it stays in its 32 bits where both sources together
are short enough. -/
def shift (bytes : Nat) (offset : UInt32) : UInt32 := offset + bytes.toUInt32

theorem shift_toUInt32 (bytes offset : Nat) :
    shift bytes offset.toUInt32 = (offset + bytes).toUInt32 :=
  (UInt32.ofNat_add offset bytes).symm

/-- Tokens that are placed further along are the same tokens, moved along. -/
theorem placeFrom_shift (bytes offset : Nat) (lexemes : List Lexeme) :
    placeFrom (offset + bytes) lexemes =
      (placeFrom offset lexemes).map (Token.relocate (shift bytes)) := by
  induction lexemes generalizing offset with
  | nil => rfl
  | cons lexeme rest ih =>
    have hstop : offset + bytes + lexeme.text.bytes = offset + lexeme.text.bytes + bytes := by omega
    rw [placeFrom, placeFrom, List.map_cons, hstop, ih]
    simp only [Token.relocate, Span.relocate, Span.ofOffsets, shift_toUInt32]

/-! ## The seam between two sources -/

namespace Reader

/-- A word or a sign belongs to a rule: it starts one, or is part of the one being read. -/
theorem step_word (reader : Reader) {token : Token}
    (h : token.kind = .plain ∨ token.kind = .atKeyword ∨ token.kind = .atSign ∨
      token.kind = .slash) :
    ∃ phase, phase ≠ .between ∧ reader.step token = .ok { reader with phase := phase } := by
  obtain ⟨frames, rules, phase⟩ := reader
  cases phase with
  | between =>
    by_cases hkeyword : token.kind = .atKeyword
    · refine ⟨.preface token.span.start (token.text.dropWhile (· == '@')) 0 [], by simp, ?_⟩
      simp [step, stepBetween, hkeyword]
    · refine ⟨.selectors token.span.start (token.kind.depthAfter 0) [] token.text, by simp, ?_⟩
      rcases h with h | h | h | h <;> simp_all [step, stepBetween, stepSelectors]
  | selectors start depth done current =>
    refine ⟨.selectors start (token.kind.depthAfter depth) done (current ++ token.text), ?_, ?_⟩
    · simp
    · rcases h with h | h | h | h <;> simp [step, stepSelectors, h]
  | block rule =>
    refine ⟨.property rule token.span.start token.text, by simp, ?_⟩
    rcases h with h | h | h | h <;> simp [step, stepBlock, stepProperty, h]
  | property rule start text =>
    refine ⟨.property rule start (text ++ token.text), by simp, ?_⟩
    rcases h with h | h | h | h <;> simp [step, stepProperty, h]
  | value rule start property depth text =>
    refine ⟨.value rule start property (token.kind.depthAfter depth) (text ++ token.text), ?_, ?_⟩
    · simp
    · rcases h with h | h | h | h <;> simp [step, stepValue, h]
  | preface start name depth text =>
    refine ⟨.preface start name (token.kind.depthAfter depth) (text ++ token.text), by simp, ?_⟩
    rcases h with h | h | h | h <;> simp [step, stepPreface, h]
  | sealedBlock start name text brace depth =>
    refine ⟨.sealedBlock start name text brace depth, by simp, ?_⟩
    rcases h with h | h | h | h <;> simp [step, stepSealed, h]

/-- Blanks are passed over between rules, and do not lead there. -/
theorem blank_between {reader : Reader} {blanks : Text}
    (h : (reader.blank blanks).phase = .between) : reader.blank blanks = reader := by
  obtain ⟨frames, rules, phase⟩ := reader
  cases phase with
  | between => rfl
  | _ => cases h

/-- A reader is between rules after a token that goes on with no character, or after blanks that it
has passed over. -/
theorem step_to_between {reader next : Reader} {token : Token} (h : reader.step token = .ok next)
    (hphase : next.phase = .between) :
    token.kind = .whitespace ∧ reader = next ∨ ∀ more, token.kind.EndsBefore more := by
  have hword : ¬ (token.kind = .plain ∨ token.kind = .atKeyword ∨ token.kind = .atSign ∨
      token.kind = .slash) := by
    intro hkind
    obtain ⟨phase, hne, hstep⟩ := step_word reader hkind
    rw [hstep] at h
    cases h
    exact hne hphase
  by_cases hblank : token.kind = .whitespace
  · left
    obtain ⟨kind, text, span⟩ := token
    cases hblank
    rw [step_whitespace] at h
    cases h
    exact ⟨rfl, (blank_between hphase).symm⟩
  · right
    intro more c _
    cases hkind : token.kind <;> simp_all [Kind.continuesWith]

/-- Between rules, leading blanks only move along what follows them. -/
theorem run_dropWhile {reader : Reader} (hphase : reader.phase = .between) (offset : Nat)
    (text : Text) :
    reader.run (placeFrom offset (lexemes text)) =
      reader.run (placeFrom (offset + Text.bytes (text.takeWhile Text.isSpace))
        (lexemes (text.dropWhile Text.isSpace))) := by
  cases text with
  | nil => rfl
  | cons c cs =>
    by_cases hc : Text.isSpace c = true
    · have hblank : reader.blank (c :: cs.takeWhile Text.isSpace) = reader := by
        refine blank_between ?_
        simp only [blank, hphase]
      rw [List.takeWhile_cons_of_pos hc, List.dropWhile_cons_of_pos hc, lexemes,
        scan_of_isSpace hc, placeFrom, run_cons (step_whitespace reader _ _), hblank]
    · rw [List.takeWhile_cons_of_neg hc, List.dropWhile_cons_of_neg hc]
      rfl

/-- Between rules, blanks before a text only move it along, even if it starts with blanks. -/
theorem run_blanks_append {reader : Reader} (hphase : reader.phase = .between) (offset : Nat)
    {blanks : Text} (h : ∀ c ∈ blanks, Text.isSpace c = true) (text : Text) :
    reader.run (placeFrom offset (lexemes (blanks ++ text))) =
      reader.run (placeFrom (offset + blanks.bytes) (lexemes text)) := by
  rw [run_dropWhile hphase, run_dropWhile hphase (offset + blanks.bytes),
    List.takeWhile_append_of_pos h, List.dropWhile_append_of_pos h, Text.bytes_append,
    Nat.add_assoc]

/-- A token of blanks is made up of them. -/
theorem isSpace_of_mem_lexeme {text : Text} {lexeme : Lexeme} (h : lexeme ∈ lexemes text)
    (hkind : lexeme.kind = .whitespace) : ∀ c ∈ lexeme.text, Text.isSpace c = true := by
  obtain ⟨c, cs, rfl⟩ := exists_scan_of_mem h
  have hc := isSpace_of_scan hkind
  rw [scan_of_isSpace hc]
  exact List.forall_mem_cons.mpr ⟨hc, List.all_eq_true.mp List.all_takeWhile⟩

/-- A source that is taken has no broken token. -/
theorem isReadable_of_run {reader next : Reader} {source : Text}
    (h : reader.run (body source) = .ok next) : IsReadable source := by
  intro lexeme hlexeme
  rw [← placeFrom_lexemes 0 (lexemes source)] at hlexeme
  obtain ⟨token, htoken, rfl⟩ := List.mem_map.mp hlexeme
  exact run_readable h token htoken

/-- A run ends with the step of the last token. -/
theorem run_concat {reader next : Reader} {tokens : List Token} {token : Token}
    (h : reader.run (tokens ++ [token]) = .ok next) :
    ∃ middle, reader.run tokens = .ok middle ∧ middle.step token = .ok next := by
  rw [run_append] at h
  cases hmiddle : reader.run tokens with
  | error error =>
    rw [hmiddle] at h
    cases h
  | ok middle =>
    rw [hmiddle] at h
    refine ⟨middle, rfl, ?_⟩
    have hlast : middle.run [token] = .ok next := h
    rw [run] at hlast
    cases hstep : middle.step token with
    | error error =>
      rw [hstep] at hlast
      cases hlast
    | ok last =>
      rw [hstep] at hlast
      exact hlast

/-- More text after a source is taken from a token boundary on, if the token before that ends
there. -/
theorem run_body_followed {reader next : Reader} {a b : Text} {front back : List Lexeme}
    (hlexemes : lexemes a = front ++ back) (hreadable : IsReadable a)
    (hrun : reader.run (placeFrom 0 front) = .ok next)
    (hends : ∀ lexeme ∈ front.getLast?,
      lexeme.kind.EndsBefore (back.flatMap Lexeme.text ++ b)) :
    reader.run (body (a ++ b)) =
      next.run (placeFrom (Text.bytes (front.flatMap Lexeme.text))
        (lexemes (back.flatMap Lexeme.text ++ b))) := by
  have hbroken : ∀ lexeme ∈ front, lexeme.kind ≠ .broken := by
    intro lexeme hlexeme
    refine hreadable lexeme ?_
    rw [hlexemes]
    exact List.mem_append_left _ hlexeme
  have htexts := lexemes_texts a
  rw [hlexemes, List.flatMap_append] at htexts
  rw [← htexts, List.append_assoc, body, lexemes_followed hlexemes hbroken hends, placeFrom_append,
    run_append, hrun, Nat.zero_add]
  rfl

/-- **A reader that is between rules at the end of a source takes what follows as if it stood
alone**, moved along. -/
theorem run_body_append {reader next : Reader} {a : Text} (h : reader.run (body a) = .ok next)
    (hphase : next.phase = .between) (b : Text) :
    reader.run (body (a ++ b)) = next.run (placeFrom a.bytes (lexemes b)) := by
  have hreadable := isReadable_of_run h
  have htexts := lexemes_texts a
  rcases List.eq_nil_or_concat (lexemes a) with hnil | ⟨front, last, hlexemes⟩
  · -- there is nothing before the seam
    rw [hnil, List.flatMap_nil] at htexts
    subst htexts
    rw [body, hnil] at h
    cases h
    rfl
  rw [List.concat_eq_append] at hlexemes
  have hlast : last ∈ lexemes a := by simp [hlexemes]
  have hrun := h
  rw [body, hlexemes, placeFrom_append] at hrun
  obtain ⟨middle, hmiddle, hstep⟩ := run_concat hrun
  rcases step_to_between hstep hphase with ⟨hblank, rfl⟩ | hends
  · -- the blanks at the end may run on, so the cut is before them
    have hbefore : ∀ lexeme ∈ front.getLast?,
        lexeme.kind.EndsBefore ([last].flatMap Lexeme.text ++ b) := by
      intro lexeme hlexeme
      obtain ⟨others, rfl⟩ := List.getLast?_eq_some_iff.mp hlexeme
      rw [List.append_assoc, List.singleton_append] at hlexemes
      refine (lexemes_endsBefore hlexemes).append ?_
      rw [List.flatMap_singleton]
      exact lexeme_text_ne_nil hlast
    rw [run_body_followed hlexemes hreadable hmiddle hbefore, List.flatMap_singleton,
      run_blanks_append hphase _ (isSpace_of_mem_lexeme hlast hblank)]
    rw [hlexemes, List.flatMap_append, List.flatMap_singleton] at htexts
    rw [← Text.bytes_append, htexts]
  · -- the last token ends at the seam
    have hseam : ∀ lexeme ∈ (lexemes a).getLast?,
        lexeme.kind.EndsBefore (([] : List Lexeme).flatMap Lexeme.text ++ b) := by
      intro lexeme hlexeme
      rw [hlexemes, List.getLast?_concat] at hlexeme
      cases hlexeme
      exact hends b
    rw [run_body_followed (List.append_nil _).symm hreadable h hseam, htexts]
    rfl

end Reader

/-! ## Rules with an end of their own -/

/-- A rule with an end of its own: a block, or a semicolon. -/
def Rule.IsClosed (source : Text) : Rule → Prop
  | .atRule _ _ false span => ∃ text, span.slice? source = some text ∧ text.getLast? = some ';'
  | _ => True

/-- A closed string ends with its quote. -/
theorem scanString_getLast? {quote : Char} {cs : Text} (h : (scanString quote cs).closed = true) :
    (scanString quote cs).taken.getLast? = some quote := by
  fun_induction scanString quote cs with
  | case1 => cases h
  | case2 => cases h
  | case3 => cases h
  | case4 c cs hc ih =>
    show ('\\' :: c :: (scanString quote cs).taken).getLast? = some quote
    rw [List.getLast?_cons, List.getLast?_cons, ih h]
    rfl
  | case5 cs => rfl
  | case6 c cs hnil _ hcons hquote ih =>
    show (c :: (scanString quote cs).taken).getLast? = some quote
    rw [List.getLast?_cons, ih h]
    rfl

/-- A run of characters of a class ends with one of them. -/
theorem getLast?_takeWhile_ne {p : Char → Bool} {c d : Char} (hc : c ≠ d) (hd : p d = false)
    (cs : Text) : (c :: cs.takeWhile p).getLast? ≠ some d := by
  intro hlast
  rcases List.mem_cons.mp (List.mem_of_getLast? hlast) with rfl | hmem
  · exact hc rfl
  · have hp := List.all_eq_true.mp List.all_takeWhile d hmem
    rw [hd] at hp
    cases hp

theorem atToken_getLast?_ne (cs : Text) : (atToken cs).taken.getLast? ≠ some ';' := by
  cases cs with
  | nil => simp [atToken]
  | cons c cs =>
    by_cases hc : isKeywordStart c = true
    · have hne : c ≠ ';' := by
        rintro rfl
        exact absurd hc (by decide)
      simp only [atToken, if_pos hc, List.getLast?_cons_cons]
      exact getLast?_takeWhile_ne hne (by decide) cs
    · simp [atToken, hc]

theorem slashToken_getLast?_ne {cs : Text} (h : (slashToken cs).kind ≠ .broken) :
    (slashToken cs).taken.getLast? ≠ some ';' := by
  by_cases hstar : ∃ ds, cs = '*' :: ds
  · obtain ⟨ds, rfl⟩ := hstar
    simp only [slashToken] at h ⊢
    cases hcut : Text.cut? ['*', '/'] ds with
    | none => simp [hcut] at h
    | some sides => simp [List.getLast?_cons]
  · rw [slashToken_eq_slash fun ds hds => hstar ⟨ds, hds⟩]
    simp

/-- A token that ends with a semicolon is one. -/
theorem kind_of_getLast?_eq {text : Text} {lexeme : Lexeme} (h : lexeme ∈ lexemes text)
    (hbroken : lexeme.kind ≠ .broken) (hlast : lexeme.text.getLast? = some ';') :
    lexeme.kind = .semicolon := by
  obtain ⟨c, cs, rfl⟩ := exists_scan_of_mem h
  by_cases hsemi : c = ';'
  · rw [hsemi]
    rfl
  exfalso
  unfold scan at hbroken hlast
  cases hpunct : punctuation? c with
  | some kind =>
    simp only [hpunct, List.getLast?_singleton, Option.some.injEq] at hlast
    exact hsemi hlast
  | none =>
    simp only [hpunct] at hbroken hlast
    by_cases hquote : c = '\x22' ∨ c = '\x27'
    · simp only [if_pos hquote, stringToken] at hbroken hlast
      have hclosed : (scanString c cs).closed = true := by
        by_contra hopen
        simp [hopen] at hbroken
      rw [List.getLast?_cons, scanString_getLast? hclosed] at hlast
      exact hsemi (Option.some.inj hlast)
    simp only [if_neg hquote] at hbroken hlast
    by_cases hat : c = '@'
    · simp only [if_pos hat] at hlast
      exact atToken_getLast?_ne cs hlast
    simp only [if_neg hat] at hbroken hlast
    by_cases hslash : c = '/'
    · simp only [if_pos hslash] at hbroken hlast
      exact slashToken_getLast?_ne hbroken hlast
    simp only [if_neg hslash] at hlast
    by_cases hspace : Text.isSpace c = true
    · simp only [if_pos hspace] at hlast
      exact getLast?_takeWhile_ne hsemi (by decide) cs hlast
    · simp only [if_neg hspace] at hlast
      exact getLast?_takeWhile_ne hsemi (by decide) cs hlast

/-- What an at-rule without a block has read so far does not end with a semicolon. -/
theorem PrefaceWritten.getLast?_ne {source name text : Text} {tokens : List Token}
    (h : PrefaceWritten name text 0 tokens) (hreadable : IsReadable source)
    (hpart : tokens <:+: body source) : (tokens.flatMap Token.text).getLast? ≠ some ';' := by
  intro hlast
  rcases List.eq_nil_or_concat tokens with rfl | ⟨front, last, rfl⟩
  · cases hlast
  rw [List.concat_eq_append] at h hpart hlast
  have hmem : last.lexeme ∈ lexemes source :=
    lexeme_mem_of_mem_body (hpart.subset (by simp))
  have hne : last.text ≠ [] := lexeme_text_ne_nil hmem
  rw [List.flatMap_append, List.flatMap_singleton, List.getLast?_append_of_ne_nil _ hne] at hlast
  have hkind := kind_of_getLast?_eq hmem (hreadable _ hmem) hlast
  exact h.gathered.last_ne_semicolon (Kind.mem_headerEnds.mpr (.inr (.inr rfl))) hkind

/-- An at-rule that the end of the source has ended has no end of its own. -/
theorem Reader.not_isClosed_of_preface {source : Text} (hsize : source.bytes < UInt32.size)
    {frames : List Frame} {rules : List Rule} {start : UInt32} {name text : Text}
    (h : Reader.start.run (body source) = .ok ⟨frames, rules, .preface start name 0 text⟩) :
    ¬ Rule.IsClosed source
      (.atRule name text.trim false ⟨start, (endToken source).span.start⟩) := by
  rintro ⟨closed, hslice, hlast⟩
  have hfills := body_fills source
  have htracked := Reader.run_tracked (body source) start_writtenAs hfills
  rw [h] at htracked
  obtain @⟨outer, inner, rest, hsplit, _, _, hphase⟩ := htracked
  rw [List.nil_append] at hsplit
  cases hphase with
  | preface preface starts =>
    -- the rule would cover the last tokens of the source, and the last of them is no semicolon
    rw [hsplit] at hfills
    have hstretch := Stretch.of_suffix hfills starts
    rw [← hsplit] at hstretch
    rw [hstretch.slice hsize] at hslice
    cases hslice
    exact preface.getLast?_ne (isReadable_of_run h) hstretch.isInfix hlast

/-- A source whose last rule has an end of its own is read to a place between rules. -/
theorem run_body_of_closed {source : Text} (hsize : source.bytes < UInt32.size) {sheet : Stylesheet}
    (hsheet : parse source = .ok sheet)
    (hlast : ∀ rule ∈ sheet.rules.getLast?, rule.IsClosed source) :
    Reader.start.run (body source) = .ok ⟨[], sheet.rules, .between⟩ := by
  rw [parse] at hsheet
  cases hrun : Reader.start.run (body source) with
  | error error =>
    rw [hrun] at hsheet
    cases hsheet
  | ok reader =>
    rw [hrun] at hsheet
    obtain ⟨frames, rules, phase⟩ := reader
    cases phase with
    | between =>
      cases frames with
      | nil =>
        cases hsheet
        rfl
      | cons frame outer => cases hsheet
    | preface start name depth text =>
      by_cases hdepth : depth = 0
      · subst hdepth
        cases frames with
        | nil =>
          cases hsheet
          exact absurd (hlast _ List.getLast?_concat) (Reader.not_isClosed_of_preface hsize hrun)
        | cons frame outer => cases hsheet
      · simp only [Reader.finish, if_neg hdepth] at hsheet
        cases hsheet
    | _ => cases hsheet

/-! ## Both sources -/

/-- **Reading is compositional.** After a source whose last rule has an end of its own, another
source is read as if it stood alone, with all offsets moved along by the length of the first. -/
theorem parse_append {a b : Text} (hsize : Text.bytes (a ++ b) < UInt32.size) {first : Stylesheet}
    (hfirst : parse a = .ok first)
    (hlast : ∀ rule ∈ first.rules.getLast?, rule.IsClosed a) :
    parse (a ++ b) =
      match parse b with
      | .ok second => .ok ⟨first.rules ++ second.rules.map (Rule.relocate (shift a.bytes))⟩
      | .error error => .error (error.relocate (shift a.bytes)) := by
  rw [Text.bytes_append] at hsize
  have hcarries := Reader.after_carries first.rules (shift a.bytes)
  have hafter : (⟨[], first.rules, .between⟩ : Reader) =
      (Reader.start.relocate (shift a.bytes)).after first.rules := by
    simp only [Reader.after, Reader.relocate, Reader.start, List.map_nil, precede, List.append_nil,
      Phase.relocate]
  -- the second source is taken by a reader that has the first rules, at offsets moved along
  have hrun : Reader.start.run (body (a ++ b)) =
      relocateOutcome (shift a.bytes)
        (fun reader => (reader.relocate (shift a.bytes)).after first.rules)
        (Reader.start.run (body b)) := by
    rw [Reader.run_body_append (run_body_of_closed (by omega) hfirst hlast) rfl b, hafter,
      ← hcarries.run, body, ← placeFrom_shift, Nat.zero_add]
  have hstop : (endToken (a ++ b)).span.start = shift a.bytes (endToken b).span.start := by
    show (Text.bytes (a ++ b)).toUInt32 = shift a.bytes (Text.bytes b).toUInt32
    rw [shift_toUInt32, Text.bytes_append, Nat.add_comm]
  have hboth : parse (a ++ b) =
      relocateOutcome (shift a.bytes)
        (fun sheet => ⟨first.rules ++ (sheet.relocate (shift a.bytes)).rules⟩) (parse b) := by
    rw [parse, hrun, parse]
    cases Reader.start.run (body b) with
    | error error => rfl
    | ok reader =>
      have hfinish := hcarries.finish reader (endToken b).span.start
      rw [← hstop] at hfinish
      exact hfinish
  rw [hboth]
  cases parse b <;> rfl

/-- A statement with a semicolon and blanks at the seam, before a media block; and before a source
that is refused. -/
theorem parse_append_statement :
    parse ("@import x;\n".toList ++ " @media y\x7bp\x7btop:0\x7d\x7d".toList) =
      .ok ⟨[.atRule "import".toList "x".toList false ⟨0, 10⟩,
        .media "y".toList
          [.style ⟨["p".toList], [⟨"top".toList, "0".toList, ⟨23, 28⟩⟩], ⟨21, 29⟩⟩] ⟨12, 30⟩]⟩ ∧
    parse ("@import x;\n".toList ++ "p\x7b".toList) = .error ⟨.missingCloseBrace, ⟨12, 13⟩⟩ := by
  have hfirst : parse "@import x;\n".toList =
      .ok ⟨[.atRule "import".toList "x".toList false ⟨0, 10⟩]⟩ := by cbv
  have hlast : ∀ rule ∈ [Rule.atRule "import".toList "x".toList false ⟨0, 10⟩].getLast?,
      rule.IsClosed "@import x;\n".toList := by
    rintro _ ⟨⟩
    exact ⟨"@import x;".toList, by decide, by decide⟩
  have hmedia : parse " @media y\x7bp\x7btop:0\x7d\x7d".toList =
      .ok ⟨[.media "y".toList
        [.style ⟨["p".toList], [⟨"top".toList, "0".toList, ⟨12, 17⟩⟩], ⟨10, 18⟩⟩] ⟨1, 19⟩]⟩ := by
    cbv
  have hopen : parse "p\x7b".toList = .error ⟨.missingCloseBrace, ⟨1, 2⟩⟩ := by cbv
  rw [parse_append (by decide) hfirst hlast, parse_append (by decide) hfirst hlast, hmedia, hopen]
  exact ⟨rfl, rfl⟩

end StyleAudit.Css
