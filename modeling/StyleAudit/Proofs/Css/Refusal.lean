import StyleAudit.Proofs.Css.Concatenation

/-!
# A refusal ends past what it is about

A refusal points at what has been read: at a token, at the part of a rule that is being read, or at
the brace of a block that is still open. None of these ends before the first character of the
source that is no blank, so a refusal always has some text to show.

- `Phase.brace?`, `Reader.OpensPast`: every block that is open was opened past an offset.
- `EndsPast`: an outcome of reading that is no refusal up to an offset.
- `Reader.step_endsPast`: one token keeps both.
- `Reader.run_endsPast`, `Reader.finish_endsPast`: so do a list of tokens and the end of input.
- `parse_refused`: what stands before the end of a refusal is more than blanks.

Only a declaration without a colon is refused up to where a token starts, and the block it stands in
has been opened by then.
-/

namespace StyleAudit.Css

/-! ## Blocks opened past an offset -/

/-- The opening brace of the block that is being read. -/
def Phase.brace? : Phase → Option Span
  | .block rule | .property rule _ _ | .value rule _ _ _ _ => some rule.brace
  | .sealedBlock _ _ _ brace _ => some brace
  | _ => none

/-- Every block that is open was opened past the offset `low`. -/
structure Reader.OpensPast (low : UInt32) (reader : Reader) : Prop where
  frames : ∀ frame ∈ reader.frames, low < frame.brace.stop
  phase : ∀ brace ∈ reader.phase.brace?, low < brace.stop

/-- What comes of reading: something with the property `kept`, or a refusal that ends past `low`. -/
def EndsPast {α : Type} (low : UInt32) (kept : α → Prop) : Except ParseError α → Prop
  | .ok a => kept a
  | .error error => low < error.span.stop

namespace Reader

variable {low : UInt32} {reader : Reader} {token : Token}

/-- A reader that is in no block but the media blocks around it. -/
theorem OpensPast.outside {frames : List Frame} {rules : List Rule} {phase : Phase}
    (hframes : ∀ frame ∈ frames, low < frame.brace.stop) (hphase : phase.brace? = none) :
    OpensPast low ⟨frames, rules, phase⟩ where
  frames := hframes
  phase := by
    intro brace hbrace
    exact absurd (hphase.symm.trans hbrace) (by simp)

/-- A reader that is in one more block, opened past the offset. -/
theorem OpensPast.inside {frames : List Frame} {rules : List Rule} {phase : Phase} {brace : Span}
    (hframes : ∀ frame ∈ frames, low < frame.brace.stop) (hphase : phase.brace? = some brace)
    (hbrace : low < brace.stop) : OpensPast low ⟨frames, rules, phase⟩ where
  frames := hframes
  phase := by
    intro other hother
    rwa [← Option.some.inj (hphase.symm.trans hother)]

theorem OpensPast.start : Reader.start.OpensPast low := .outside (List.forall_mem_nil _) rfl

theorem OpensPast.push (h : reader.OpensPast low) (rule : Rule) :
    (reader.push rule).OpensPast low := .outside h.frames rfl

/-! ## One token -/

theorem closeMedia_endsPast (h : reader.OpensPast low) (hstop : low < token.span.stop) :
    EndsPast low (OpensPast low) (reader.closeMedia token) := by
  rw [closeMedia]
  cases hframes : reader.frames with
  | nil => exact hstop
  | cons frame outer =>
    have hopens := h.frames
    rw [hframes] at hopens
    exact .outside (List.forall_mem_cons.mp hopens).2 rfl

/-- A token in a selector group. -/
theorem stepSelectors_endsPast (h : reader.OpensPast low) (hstop : low < token.span.stop)
    (start : UInt32) (depth : Nat) (done : List Text) (current : Text) :
    EndsPast low (OpensPast low) (reader.stepSelectors start depth done current token) := by
  rw [stepSelectors]
  split
  · cases tidySelectors (done ++ [current]) with
    | nil => exact hstop
    | cons first others => exact .inside h.frames rfl hstop
  split
  · exact .outside h.frames rfl
  split
  · exact hstop
  · exact .outside h.frames rfl

/-- A token before the colon of a declaration: a refusal may end where it starts. -/
theorem stepProperty_endsPast (h : reader.OpensPast low) {rule : OpenRule}
    (hrule : low < rule.brace.stop) (hstart : low < token.span.start)
    (hstop : low < token.span.stop) (start : UInt32) (text : Text) :
    EndsPast low (OpensPast low) (reader.stepProperty rule start text token) := by
  rw [stepProperty]
  cases token.kind with
  | colon =>
    cases text.trim with
    | nil => exact hstop
    | cons first others => exact .inside h.frames rfl hrule
  | semicolon => exact hstart
  | closeBrace => exact hstart
  | openBrace => exact hstart
  | _ => exact .inside h.frames rfl hrule

/-- A token after the colon of a declaration. -/
theorem stepValue_opensPast (h : reader.OpensPast low) {rule : OpenRule}
    (hrule : low < rule.brace.stop) (start : UInt32) (property : Text) (depth : Nat)
    (text : Text) : (reader.stepValue rule start property depth text token).OpensPast low := by
  rw [stepValue]
  split
  · exact .inside h.frames rfl hrule
  split
  · exact h.push _
  · exact .inside h.frames rfl hrule

/-- A token in a style rule's block, between declarations. -/
theorem stepBlock_endsPast (h : reader.OpensPast low) {rule : OpenRule}
    (hrule : low < rule.brace.stop) (hstart : low < token.span.start)
    (hstop : low < token.span.stop) :
    EndsPast low (OpensPast low) (reader.stepBlock rule token) := by
  have hproperty := stepProperty_endsPast h hrule hstart hstop token.span.start []
  rw [stepBlock]
  cases token.kind with
  | whitespace => exact h
  | semicolon => exact h
  | closeBrace => exact h.push _
  | _ => exact hproperty

/-- A token of an at-rule before its block or end. -/
theorem stepPreface_endsPast (h : reader.OpensPast low) (hstop : low < token.span.stop)
    (start : UInt32) (name : Text) (depth : Nat) (text : Text) :
    EndsPast low (OpensPast low) (reader.stepPreface start name depth text token) := by
  rw [stepPreface]
  split
  · split
    · exact .outside (List.forall_mem_cons.mpr ⟨hstop, h.frames⟩) rfl
    · exact .inside h.frames rfl hstop
  split
  · exact h.push _
  split
  · exact closeMedia_endsPast (h.push _) hstop
  · exact .outside h.frames rfl

/-- A token in a block that is not read. -/
theorem stepSealed_opensPast (h : reader.OpensPast low) {brace : Span} (hbrace : low < brace.stop)
    (start : UInt32) (name text : Text) (depth : Nat) :
    (reader.stepSealed start name text brace depth token).OpensPast low := by
  rw [stepSealed]
  cases token.kind with
  | openBrace => exact .inside h.frames rfl hbrace
  | closeBrace =>
    by_cases hlast : depth ≤ 1
    · simp only [if_pos hlast]
      exact h.push _
    · simp only [if_neg hlast]
      exact .inside h.frames rfl hbrace
  | _ => exact h

/-- A token between rules. -/
theorem stepBetween_endsPast (h : reader.OpensPast low) (hstop : low < token.span.stop) :
    EndsPast low (OpensPast low) (reader.stepBetween token) := by
  have hselectors := stepSelectors_endsPast h hstop token.span.start 0 [] []
  rw [stepBetween]
  cases token.kind with
  | whitespace => exact h
  | semicolon => exact h
  | closeBrace => exact closeMedia_endsPast h hstop
  | atKeyword => exact .outside h.frames rfl
  | _ => exact hselectors

/-- **One token is taken, or refused past `low`.** The first one may start at `low`: the reader is
between rules then. -/
theorem step_endsPast (h : reader.OpensPast low) (hstop : low < token.span.stop)
    (hstart : reader.phase = .between ∨ low < token.span.start) :
    EndsPast low (OpensPast low) (reader.step token) := by
  rw [step]
  split
  · exact hstop
  split
  · exact h
  obtain ⟨frames, rules, phase⟩ := reader
  cases phase with
  | between => exact stepBetween_endsPast h hstop
  | selectors start depth done current => exact stepSelectors_endsPast h hstop _ _ _ _
  | preface start name depth text => exact stepPreface_endsPast h hstop _ _ _ _
  | block rule =>
    exact stepBlock_endsPast h (h.phase _ rfl) (hstart.resolve_left (by simp)) hstop
  | property rule start text =>
    exact stepProperty_endsPast h (h.phase _ rfl) (hstart.resolve_left (by simp)) hstop _ _
  | value rule start property depth text => exact stepValue_opensPast h (h.phase _ rfl) _ _ _ _
  | sealedBlock start name text brace depth =>
    exact stepSealed_opensPast h (h.phase _ rfl) _ _ _ _

/-! ## All tokens, and the end of input -/

/-- **So are all tokens**, and what is being read at their end goes past `low`. -/
theorem run_endsPast {tokens : List Token} {offset stop : UInt32} (h : reader.OpensPast low)
    (hfills : Fills offset tokens stop) (hgrows : Grows tokens) (hle : low ≤ offset)
    (hoffset : reader.phase = .between ∨ low < offset) :
    EndsPast low (fun last => last.OpensPast low ∧ (last.phase = .between ∨ low < stop))
      (reader.run tokens) := by
  induction tokens generalizing reader offset with
  | nil =>
    cases hfills
    exact ⟨h, hoffset⟩
  | cons token rest ih =>
    obtain ⟨rfl, hrest⟩ := hfills
    obtain ⟨htoken, hlater⟩ := List.forall_mem_cons.mp hgrows
    have hstop : low < token.span.stop := UInt32.lt_of_le_of_lt hle htoken
    have hstep := step_endsPast h hstop hoffset
    rw [run]
    cases hnext : reader.step token with
    | error error =>
      rw [hnext] at hstep
      exact hstep
    | ok next =>
      -- from here on every token starts past `low`
      rw [hnext] at hstep
      exact ih hstep hrest hlater (UInt32.le_of_lt hstop) (.inr hstop)

theorem finishBetween_endsPast (h : reader.OpensPast low) :
    EndsPast low (fun _ => True) reader.finishBetween := by
  rw [finishBetween]
  cases hframes : reader.frames with
  | nil => trivial
  | cons frame outer => exact h.frames frame (by rw [hframes]; exact List.mem_cons_self)

/-- **The end of input is refused past `low`, if at all.** -/
theorem finish_endsPast {stop : UInt32} (h : reader.OpensPast low)
    (hstop : reader.phase = .between ∨ low < stop) :
    EndsPast low (fun _ => True) (reader.finish stop) := by
  obtain ⟨frames, rules, phase⟩ := reader
  cases phase with
  | between => exact finishBetween_endsPast h
  | preface start name depth text =>
    rw [finish]
    by_cases hdepth : depth = 0
    · simp only [if_pos hdepth]
      exact finishBetween_endsPast (h.push _)
    · simp only [if_neg hdepth]
      exact hstop.resolve_left (by simp)
  | selectors start depth done current => exact hstop.resolve_left (by simp)
  | property rule start text => exact hstop.resolve_left (by simp)
  | block rule => exact h.phase _ rfl
  | value rule start property depth text => exact h.phase _ rfl
  | sealedBlock start name text brace depth => exact h.phase _ rfl

end Reader

/-! ## What stands before the end of a refusal -/

/-- The tokens after leading blanks are the last ones of the source. -/
theorem placeFrom_dropWhile_suffix (source : Text) :
    placeFrom (Text.bytes (source.takeWhile Text.isSpace))
      (lexemes (source.dropWhile Text.isSpace)) <:+ body source := by
  cases source with
  | nil => exact List.suffix_rfl
  | cons c cs =>
    by_cases hc : Text.isSpace c = true
    · rw [List.takeWhile_cons_of_pos hc, List.dropWhile_cons_of_pos hc, body, lexemes,
        Reader.scan_of_isSpace hc, placeFrom, Nat.zero_add]
      exact List.suffix_cons _ _
    · rw [List.takeWhile_cons_of_neg hc, List.dropWhile_cons_of_neg hc]
      exact List.suffix_rfl

/-- A source is not refused within its leading blanks. -/
theorem parse_endsPast {source : Text} (hsize : source.bytes < UInt32.size) :
    EndsPast (Text.bytes (source.takeWhile Text.isSpace)).toUInt32 (fun _ => True)
      (parse source) := by
  have hgrows := (body_grows hsize).of_part (placeFrom_dropWhile_suffix source).isInfix
  have hfills := placeFrom_fills (Text.bytes (source.takeWhile Text.isSpace))
    (lexemes (source.dropWhile Text.isSpace))
  rw [lexemes_texts, ← Text.bytes_append, List.takeWhile_append_dropWhile] at hfills
  have hrun := Reader.run_endsPast .start hfills hgrows (UInt32.le_refl _) (.inl rfl)
  rw [parse, body, Reader.run_dropWhile rfl, Nat.zero_add]
  cases hlast : Reader.start.run (placeFrom (Text.bytes (source.takeWhile Text.isSpace))
      (lexemes (source.dropWhile Text.isSpace))) with
  | ok last =>
    rw [hlast] at hrun
    exact Reader.finish_endsPast hrun.1 hrun.2
  | error error =>
    rw [hlast] at hrun
    exact hrun

/-- **What stands before the end of a refusal is more than blanks.** -/
theorem parse_refused {source : Text} (hsize : source.bytes < UInt32.size) {error : ParseError}
    (h : parse source = .error error) :
    ∃ lead rest, source = lead ++ rest ∧ error.span.start ≤ error.span.stop ∧
      error.span.stop.toNat = Text.bytes lead ∧ ∃ c ∈ lead, Text.isSpace c = false := by
  have htracked := parse_tracked source
  have hpast := parse_endsPast hsize
  rw [h] at htracked hpast
  obtain ⟨part, hpart⟩ := htracked
  obtain ⟨before, after, hsource, -, hstop⟩ := hpart.offsets hsize
  rw [← Text.bytes_append] at hstop
  refine ⟨_, after, hsource, (hpart.bounds hsize).1, hstop, ?_⟩
  -- blanks up to there would be among the leading ones, and the refusal ends past these
  by_contra hnone
  have hblanks : ∀ c ∈ before ++ part.flatMap Token.text, Text.isSpace c = true := by
    intro c hc
    by_contra hspace
    exact hnone ⟨c, hc, eq_false_of_ne_true hspace⟩
  have hleading : source.takeWhile Text.isSpace =
      before ++ part.flatMap Token.text ++ after.takeWhile Text.isSpace := by
    rw [hsource]
    exact List.takeWhile_append_of_pos hblanks
  have hbytes := congrArg Text.bytes hleading
  rw [Text.bytes_append] at hbytes
  have htotal := congrArg Text.bytes (source.takeWhile_append_dropWhile (p := Text.isSpace))
  rw [Text.bytes_append] at htotal
  have hlow : (Text.bytes (source.takeWhile Text.isSpace)).toUInt32.toNat =
      Text.bytes (source.takeWhile Text.isSpace) := UInt32.toNat_ofNat_of_lt' (by omega)
  have hlt := UInt32.lt_iff_toNat_lt.mp hpast
  omega

end StyleAudit.Css
