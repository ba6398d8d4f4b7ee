import StyleAudit.Proofs.Css.Tiling
import Mathlib

/-!
# Broken tokens are never passed over

Whatever is being read, a broken token stops the reader, and only a broken token makes it blame a
token: all other refusals are about the structure of the stylesheet.

- `Cause.blamesToken`, `Structural`: refusals that blame a token, and outcomes that do not.
- `Reader.step_structural`: a token that is not broken is never blamed.
- `Reader.run_blames`: a token that is blamed is the first broken one.
- `brokenCause_of_mem`: a broken token of a source is a comment or a string that is not closed.
- `parse_blames`: a refusal that blames a token is about such a comment or string.
- `parse_broken`: all of it for a source.
-/

namespace StyleAudit.Css

/-! ## Refusals that blame a token -/

/-- Whether a cause is about a token, and not about how tokens follow each other. -/
def Cause.blamesToken : Cause → Bool
  | .unterminatedComment | .unterminatedString | .invalidToken _ => true
  | _ => false

/-- An outcome of reading in which no token is blamed. -/
def Structural {α : Type} (outcome : Except ParseError α) : Prop :=
  ∀ error, outcome = .error error → error.cause.blamesToken = false

theorem structural_ok {α : Type} (a : α) : Structural (.ok a) := by
  intro error h
  cases h

theorem structural_error {α : Type} {cause : Cause} (h : cause.blamesToken = false) (span : Span) :
    Structural (.error ⟨cause, span⟩ : Except ParseError α) := by
  rintro error herror
  cases herror
  exact h

namespace Reader

variable (reader : Reader) (token : Token)

theorem closeMedia_structural : Structural (reader.closeMedia token) := by
  rw [closeMedia]
  cases reader.frames with
  | nil => exact structural_error rfl _
  | cons frame outer => exact structural_ok _

theorem stepSelectors_structural (start : UInt32) (depth : Nat) (done : List Text)
    (current : Text) : Structural (reader.stepSelectors start depth done current token) := by
  rw [stepSelectors]
  split
  · cases tidySelectors (done ++ [current]) with
    | nil => exact structural_error rfl _
    | cons first others => exact structural_ok _
  split
  · exact structural_ok _
  split
  · exact structural_error rfl _
  · exact structural_ok _

theorem stepProperty_structural (rule : OpenRule) (start : UInt32) (text : Text) :
    Structural (reader.stepProperty rule start text token) := by
  rw [stepProperty]
  cases token.kind with
  | colon =>
    cases text.trim with
    | nil => exact structural_error rfl _
    | cons first others => exact structural_ok _
  | semicolon => exact structural_error rfl _
  | closeBrace => exact structural_error rfl _
  | openBrace => exact structural_error rfl _
  | _ => exact structural_ok _

theorem stepBlock_structural (rule : OpenRule) : Structural (reader.stepBlock rule token) := by
  have hproperty := reader.stepProperty_structural token rule token.span.start []
  rw [stepBlock]
  cases token.kind with
  | whitespace => exact structural_ok _
  | semicolon => exact structural_ok _
  | closeBrace => exact structural_ok _
  | _ => exact hproperty

theorem stepPreface_structural (start : UInt32) (name : Text) (depth : Nat) (text : Text) :
    Structural (reader.stepPreface start name depth text token) := by
  rw [stepPreface]
  split
  · split <;> exact structural_ok _
  split
  · exact structural_ok _
  split
  · exact closeMedia_structural _ token
  · exact structural_ok _

theorem stepBetween_structural : Structural (reader.stepBetween token) := by
  have hselectors := reader.stepSelectors_structural token token.span.start 0 [] []
  rw [stepBetween]
  cases token.kind with
  | whitespace => exact structural_ok _
  | semicolon => exact structural_ok _
  | closeBrace => exact reader.closeMedia_structural token
  | atKeyword => exact structural_ok _
  | _ => exact hselectors

/-- A token that is not broken is never blamed. -/
theorem step_structural (h : token.kind ≠ .broken) : Structural (reader.step token) := by
  rw [step, if_neg h]
  split
  · exact structural_ok _
  cases reader.phase with
  | between => exact reader.stepBetween_structural token
  | selectors start depth done current =>
    exact reader.stepSelectors_structural token start depth done current
  | block rule => exact reader.stepBlock_structural token rule
  | property rule start text => exact reader.stepProperty_structural token rule start text
  | value rule start property depth text => exact structural_ok _
  | preface start name depth text => exact reader.stepPreface_structural token start name depth text
  | sealedBlock start name text brace depth => exact structural_ok _

/-- A broken token stops the reader, in every phase. -/
theorem step_broken (h : token.kind = .broken) :
    reader.step token = .error ⟨brokenCause token.text, token.span⟩ := by
  rw [step, if_pos h]

theorem finishBetween_structural : Structural reader.finishBetween := by
  rw [finishBetween]
  cases reader.frames with
  | nil => exact structural_ok _
  | cons frame outer => exact structural_error rfl _

/-- The end of input is never blamed on a token. -/
theorem finish_structural (stop : UInt32) : Structural (reader.finish stop) := by
  rw [finish]
  cases reader.phase with
  | between => exact reader.finishBetween_structural
  | preface start name depth text =>
    by_cases hdepth : depth = 0
    · simp only [if_pos hdepth]
      exact finishBetween_structural _
    · simp only [if_neg hdepth]
      exact structural_error rfl _
  | _ => exact structural_error rfl _

/-- **A token that is blamed is the first broken one.** -/
theorem run_blames {reader : Reader} {tokens : List Token} {error : ParseError}
    (h : reader.run tokens = .error error) (hblames : error.cause.blamesToken = true) :
    ∃ token, tokens.find? (fun token => token.kind = .broken) = some token ∧
      error = ⟨brokenCause token.text, token.span⟩ := by
  induction tokens generalizing reader with
  | nil => cases h
  | cons token rest ih =>
    rw [run] at h
    by_cases hbroken : token.kind = .broken
    · rw [reader.step_broken token hbroken] at h
      cases h
      exact ⟨token, List.find?_cons_of_pos (by simp [hbroken]), rfl⟩
    · -- a sound token is taken, as it is not to blame
      cases hstep : reader.step token with
      | error structural =>
        rw [hstep] at h
        cases h
        rw [reader.step_structural token hbroken _ hstep] at hblames
        cases hblames
      | ok next =>
        rw [hstep] at h
        obtain ⟨first, hfirst, herror⟩ := ih h
        exact ⟨first, by rw [List.find?_cons_of_neg (by simp [hbroken]), hfirst], herror⟩

end Reader

/-! ## Broken tokens of a source -/

/-- A broken token is a comment or a string that is not closed, and is blamed as such. -/
theorem FirstToken.brokenCause_eq {taken remaining : Text}
    (h : FirstToken .broken taken remaining) :
    (brokenCause taken = .unterminatedComment ∧ ['/', '*'] <+: taken) ∨
      (brokenCause taken = .unterminatedString ∧ (['\x22'] <+: taken ∨ ['\x27'] <+: taken)) := by
  cases h with
  | longest isToken => exact absurd isToken (Language.notMem_zero taken)
  | openString isQuote starts =>
    obtain ⟨rest, rfl⟩ := starts
    rcases isQuote with rfl | rfl
    · exact .inr ⟨rfl, .inl ⟨rest, rfl⟩⟩
    · exact .inr ⟨rfl, .inr ⟨rest, rfl⟩⟩
  | openComment starts =>
    obtain ⟨rest, rfl⟩ := starts
    exact .inl ⟨rfl, rest, rfl⟩

theorem brokenCause_of_mem {source : Text} {token : Token} (h : token ∈ body source)
    (hbroken : token.kind = .broken) :
    (brokenCause token.text = .unterminatedComment ∧ ['/', '*'] <+: token.text) ∨
      (brokenCause token.text = .unterminatedString ∧
        (['\x22'] <+: token.text ∨ ['\x27'] <+: token.text)) := by
  obtain ⟨c, cs, hlexeme⟩ := exists_scan_of_mem (lexeme_mem_of_mem_body h)
  have hkind : token.kind = (scan c cs).kind := congrArg Lexeme.kind hlexeme
  have htext : token.text = (scan c cs).taken := congrArg Lexeme.text hlexeme
  have hfirst := scan_firstToken c cs
  rw [← hkind, hbroken, ← htext] at hfirst
  exact hfirst.brokenCause_eq

/-- A refusal that blames a token names the first broken one, and says what is wrong with it. -/
theorem parse_blames {source : Text} {error : ParseError} (h : parse source = .error error)
    (hblames : error.cause.blamesToken = true) :
    ∃ token, (tokens source).find? (fun token => token.kind = .broken) = some token ∧
      error.span = token.span ∧
      ((error.cause = .unterminatedComment ∧ ['/', '*'] <+: token.text) ∨
        (error.cause = .unterminatedString ∧
          (['\x22'] <+: token.text ∨ ['\x27'] <+: token.text))) := by
  rw [parse] at h
  cases hrun : Reader.start.run (body source) with
  | ok reader =>
    rw [hrun] at h
    rw [reader.finish_structural _ error h] at hblames
    cases hblames
  | error runError =>
    rw [hrun] at h
    cases h
    obtain ⟨token, hfind, rfl⟩ := Reader.run_blames hrun hblames
    have hkind := List.find?_some hfind
    refine ⟨token, ?_, rfl, ?_⟩
    · rw [tokens, List.find?_append, hfind]
      rfl
    · exact brokenCause_of_mem (List.mem_of_find?_eq_some hfind) (of_decide_eq_true hkind)

end StyleAudit.Css
