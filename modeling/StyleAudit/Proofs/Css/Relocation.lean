import StyleAudit.Css.Parser

/-!
# Reading does not look at places

A reader carries offsets along and never compares them. So a change of all offsets by one function
passes through reading: what is read from relocated tokens is what is read from the tokens,
relocated.

- `Span.relocate` and the like for tokens, rules, errors and readers.
- `Reader.Carries`: a map of readers that goes with a change of offsets.
- `Reader.Carries.step`, `Reader.Carries.run`, `Reader.Carries.finish`: such a map passes through
  one token, a list of tokens, and the end of input.
- `Reader.relocate_carries`: relocation is such a map.
-/

namespace StyleAudit

/-- A span with both offsets changed. -/
def Span.relocate (f : UInt32 → UInt32) (span : Span) : Span := ⟨f span.start, f span.stop⟩

namespace Css

variable (f : UInt32 → UInt32)

/-! ## Relocated data -/

/-- A token at another place. -/
abbrev Token.relocate (token : Token) : Token := { token with span := token.span.relocate f }

/-- A declaration at another place. -/
def Declaration.relocate (declaration : Declaration) : Declaration :=
  { declaration with span := declaration.span.relocate f }

/-- A style rule at another place, its declarations with it. -/
def StyleRule.relocate (rule : StyleRule) : StyleRule where
  selectors := rule.selectors
  declarations := rule.declarations.map (Declaration.relocate f)
  span := rule.span.relocate f

mutual

/-- A rule at another place, the rules inside it with it. -/
def Rule.relocate : Rule → Rule
  | .style rule => .style (rule.relocate f)
  | .media condition rules span => .media condition (Rule.relocateAll rules) (span.relocate f)
  | .atRule name preface hasBlock span => .atRule name preface hasBlock (span.relocate f)

/-- Rules at another place. -/
def Rule.relocateAll : List Rule → List Rule
  | [] => []
  | rule :: rest => Rule.relocate rule :: Rule.relocateAll rest

end

theorem Rule.relocateAll_eq_map : ∀ rules : List Rule,
    Rule.relocateAll f rules = rules.map (Rule.relocate f)
  | [] => rfl
  | rule :: rest => by rw [Rule.relocateAll, Rule.relocateAll_eq_map rest, List.map_cons]

/-- A stylesheet at another place. -/
def Stylesheet.relocate (sheet : Stylesheet) : Stylesheet := ⟨sheet.rules.map (Rule.relocate f)⟩

/-- A refusal at another place. -/
def ParseError.relocate (error : ParseError) : ParseError := ⟨error.cause, error.span.relocate f⟩

/-- What comes of reading, at another place. -/
def relocateOutcome {α : Type} (g : α → α) : Except ParseError α → Except ParseError α
  | .ok a => .ok (g a)
  | .error error => .error (error.relocate f)

/-- An open style rule at another place. -/
def OpenRule.relocate (rule : OpenRule) : OpenRule where
  start := f rule.start
  selectors := rule.selectors
  brace := rule.brace.relocate f
  declarations := rule.declarations.map (Declaration.relocate f)

/-- An open media block at another place. -/
def Frame.relocate (frame : Frame) : Frame where
  start := f frame.start
  condition := frame.condition
  brace := frame.brace.relocate f
  before := frame.before.map (Rule.relocate f)

/-- The part of a rule that is being read, at another place. -/
def Phase.relocate : Phase → Phase
  | .between => .between
  | .selectors start depth done current => .selectors (f start) depth done current
  | .block rule => .block (rule.relocate f)
  | .property rule start text => .property (rule.relocate f) (f start) text
  | .value rule start named depth text => .value (rule.relocate f) (f start) named depth text
  | .preface start name depth text => .preface (f start) name depth text
  | .sealedBlock start name text brace depth =>
    .sealedBlock (f start) name text (brace.relocate f) depth

/-- What has been read, at another place. -/
def Reader.relocate (reader : Reader) : Reader where
  frames := reader.frames.map (Frame.relocate f)
  rules := reader.rules.map (Rule.relocate f)
  phase := reader.phase.relocate f

/-! ## Maps of readers -/

namespace Reader

/-- A reader that has just entered a media block. -/
def enterMedia (reader : Reader) (start : UInt32) (condition : Text) (brace : Span) : Reader :=
  ⟨⟨start, condition, brace, reader.rules⟩ :: reader.frames, [], .between⟩

/-- A map of readers, and one of stylesheets, that go with a change of offsets: the part being read
changes by its offsets alone, and the maps pass through all that is done with finished rules. -/
structure Carries (g : Reader → Reader) (s : Stylesheet → Stylesheet) : Prop where
  become : ∀ reader phase,
    g { reader with phase := phase } = { g reader with phase := phase.relocate f }
  push : ∀ reader rule, g (reader.push rule) = (g reader).push (rule.relocate f)
  enterMedia : ∀ reader start condition brace,
    g (reader.enterMedia start condition brace) =
      (g reader).enterMedia (f start) condition (brace.relocate f)
  closeMedia : ∀ reader token,
    (g reader).closeMedia (token.relocate f) = relocateOutcome f g (reader.closeMedia token)
  finishBetween : ∀ reader, (g reader).finishBetween = relocateOutcome f s reader.finishBetween

namespace Carries

variable {f} {g : Reader → Reader} {s : Stylesheet → Stylesheet} (h : Carries f g s)
  (reader : Reader) (token : Token)

include h

theorem phase : (g reader).phase = reader.phase.relocate f :=
  congrArg Reader.phase (h.become reader reader.phase)

variable {reader}

theorem goesOn {phase phase' : Phase} (hphase : phase.relocate f = phase') :
    { g reader with phase := phase' } = g { reader with phase := phase } := by
  rw [h.become reader phase, hphase]

theorem pushes {rule rule' : Rule} (hrule : rule.relocate f = rule') :
    (g reader).push rule' = g (reader.push rule) := by
  rw [h.push, hrule]

variable (reader)

/-! ## One token -/

theorem closeRule (rule : OpenRule) :
    (g reader).closeRule (rule.relocate f) (token.relocate f) =
      g (reader.closeRule rule token) := by
  rw [Reader.closeRule, Reader.closeRule, h.push]
  rfl

omit h in
theorem addDeclaration (rule : OpenRule) (start stop : UInt32) (property text : Text) :
    Reader.addDeclaration (rule.relocate f) (f start) (f stop) property text =
      (Reader.addDeclaration rule start stop property text).relocate f := by
  simp only [Reader.addDeclaration, OpenRule.relocate, List.map_append, List.map_cons, List.map_nil]
  rfl

theorem stepSelectors (start : UInt32) (depth : Nat) (done : List Text) (current : Text) :
    (g reader).stepSelectors (f start) depth done current (token.relocate f) =
      relocateOutcome f g (reader.stepSelectors start depth done current token) := by
  simp only [Reader.stepSelectors]
  by_cases hopen : depth = 0 ∧ token.kind = .openBrace
  · rw [if_pos hopen, if_pos hopen]
    cases tidySelectors (done ++ [current]) with
    | nil => rfl
    | cons first others => exact congrArg Except.ok (h.goesOn rfl)
  rw [if_neg hopen, if_neg hopen]
  by_cases hcomma : depth = 0 ∧ token.kind = .comma
  · rw [if_pos hcomma, if_pos hcomma]
    exact congrArg Except.ok (h.goesOn rfl)
  rw [if_neg hcomma, if_neg hcomma]
  by_cases hend : depth = 0 ∧ (token.kind = .closeBrace ∨ token.kind = .semicolon)
  · rw [if_pos hend, if_pos hend]
    rfl
  rw [if_neg hend, if_neg hend]
  exact congrArg Except.ok (h.goesOn rfl)

theorem stepProperty (rule : OpenRule) (start : UInt32) (text : Text) :
    (g reader).stepProperty (rule.relocate f) (f start) text (token.relocate f) =
      relocateOutcome f g (reader.stepProperty rule start text token) := by
  simp only [Reader.stepProperty]
  cases token.kind with
  | colon =>
    cases text.trim with
    | nil => rfl
    | cons first others => exact congrArg Except.ok (h.goesOn rfl)
  | semicolon => rfl
  | closeBrace => rfl
  | openBrace => rfl
  | _ => exact congrArg Except.ok (h.goesOn rfl)

theorem stepValue (rule : OpenRule) (start : UInt32) (property : Text) (depth : Nat) (text : Text) :
    (g reader).stepValue (rule.relocate f) (f start) property depth text (token.relocate f) =
      g (reader.stepValue rule start property depth text token) := by
  simp only [Reader.stepValue]
  by_cases hsemi : depth = 0 ∧ token.kind = .semicolon
  · rw [if_pos hsemi, if_pos hsemi]
    exact h.goesOn (congrArg Phase.block (addDeclaration rule start _ property text).symm)
  rw [if_neg hsemi, if_neg hsemi]
  by_cases hclose : depth = 0 ∧ token.kind = .closeBrace
  · rw [if_pos hclose, if_pos hclose, ← h.closeRule, ← addDeclaration]
    rfl
  rw [if_neg hclose, if_neg hclose]
  exact h.goesOn rfl

theorem stepBlock (rule : OpenRule) :
    (g reader).stepBlock (rule.relocate f) (token.relocate f) =
      relocateOutcome f g (reader.stepBlock rule token) := by
  have hproperty := h.stepProperty reader token rule token.span.start []
  simp only [Reader.stepBlock]
  cases token.kind with
  | whitespace => rfl
  | semicolon => rfl
  | closeBrace => exact congrArg Except.ok (h.closeRule reader token rule)
  | _ => exact hproperty

theorem stepPreface (start : UInt32) (name : Text) (depth : Nat) (text : Text) :
    (g reader).stepPreface (f start) name depth text (token.relocate f) =
      relocateOutcome f g (reader.stepPreface start name depth text token) := by
  simp only [Reader.stepPreface]
  by_cases hopen : depth = 0 ∧ token.kind = .openBrace
  · rw [if_pos hopen, if_pos hopen]
    cases Text.sameIgnoringCase name "media".toList with
    | true => exact congrArg Except.ok (h.enterMedia reader start text.trim token.span).symm
    | false => exact congrArg Except.ok (h.goesOn rfl)
  rw [if_neg hopen, if_neg hopen]
  by_cases hsemi : depth = 0 ∧ token.kind = .semicolon
  · rw [if_pos hsemi, if_pos hsemi]
    exact congrArg Except.ok (h.pushes rfl)
  rw [if_neg hsemi, if_neg hsemi]
  by_cases hclose : depth = 0 ∧ token.kind = .closeBrace
  · rw [if_pos hclose, if_pos hclose, ← h.closeMedia, h.push]
    rfl
  rw [if_neg hclose, if_neg hclose]
  exact congrArg Except.ok (h.goesOn rfl)

theorem stepSealed (start : UInt32) (name text : Text) (brace : Span) (depth : Nat) :
    (g reader).stepSealed (f start) name text (brace.relocate f) depth (token.relocate f) =
      g (reader.stepSealed start name text brace depth token) := by
  simp only [Reader.stepSealed]
  cases token.kind with
  | openBrace => exact h.goesOn rfl
  | closeBrace =>
    by_cases hlast : depth ≤ 1
    · simp only [if_pos hlast]
      exact h.pushes rfl
    · simp only [if_neg hlast]
      exact h.goesOn rfl
  | _ => rfl

theorem stepBetween :
    (g reader).stepBetween (token.relocate f) =
      relocateOutcome f g (reader.stepBetween token) := by
  have hselectors := h.stepSelectors reader token token.span.start 0 [] []
  simp only [Reader.stepBetween]
  cases token.kind with
  | whitespace => rfl
  | semicolon => rfl
  | closeBrace => exact h.closeMedia reader token
  | atKeyword => exact congrArg Except.ok (h.goesOn rfl)
  | _ => exact hselectors

/-- **Reading a token commutes with such a map.** -/
theorem step :
    (g reader).step (token.relocate f) = relocateOutcome f g (reader.step token) := by
  simp only [Reader.step]
  by_cases hbroken : token.kind = .broken
  · rw [if_pos hbroken, if_pos hbroken]
    rfl
  rw [if_neg hbroken, if_neg hbroken]
  by_cases hcomment : token.kind = .comment
  · rw [if_pos hcomment, if_pos hcomment]
    rfl
  rw [if_neg hcomment, if_neg hcomment, h.phase reader]
  cases reader.phase with
  | between => exact h.stepBetween reader token
  | selectors start depth done current =>
    exact h.stepSelectors reader token start depth done current
  | block rule => exact h.stepBlock reader token rule
  | property rule start text => exact h.stepProperty reader token rule start text
  | value rule start property depth text =>
    exact congrArg Except.ok (h.stepValue reader token rule start property depth text)
  | preface start name depth text => exact h.stepPreface reader token start name depth text
  | sealedBlock start name text brace depth =>
    exact congrArg Except.ok (h.stepSealed reader token start name text brace depth)

/-! ## All tokens, and the end of input -/

theorem run (tokens : List Token) :
    (g reader).run (tokens.map (Token.relocate f)) = relocateOutcome f g (reader.run tokens) := by
  induction tokens generalizing reader with
  | nil => rfl
  | cons token rest ih =>
    rw [List.map_cons, Reader.run, Reader.run, h.step]
    cases reader.step token with
    | ok next => exact ih next
    | error error => rfl

theorem finish (stop : UInt32) :
    (g reader).finish (f stop) = relocateOutcome f s (reader.finish stop) := by
  simp only [Reader.finish, h.phase reader]
  cases reader.phase with
  | between => exact h.finishBetween reader
  | preface start name depth text =>
    by_cases hdepth : depth = 0
    · simp only [Phase.relocate, if_pos hdepth]
      rw [← h.finishBetween, h.push]
      rfl
    · simp only [Phase.relocate, if_neg hdepth]
      rfl
  | _ => rfl

end Carries

/-! ## Relocation -/

variable (reader : Reader) (token : Token)

theorem push_relocate (rule : Rule) :
    (reader.push rule).relocate f = (reader.relocate f).push (rule.relocate f) := by
  simp only [push, relocate, Phase.relocate, List.map_append, List.map_cons, List.map_nil]

theorem closeMedia_relocate :
    (reader.relocate f).closeMedia (token.relocate f) =
      relocateOutcome f (relocate f) (reader.closeMedia token) := by
  obtain ⟨frames, rules, phase⟩ := reader
  cases frames with
  | nil => rfl
  | cons frame outer =>
    simp only [closeMedia, relocate, List.map_cons, relocateOutcome, List.map_append, List.map_nil,
      Rule.relocate, Rule.relocateAll_eq_map]
    rfl

theorem finishBetween_relocate :
    (reader.relocate f).finishBetween =
      relocateOutcome f (Stylesheet.relocate f) reader.finishBetween := by
  obtain ⟨frames, rules, phase⟩ := reader
  cases frames <;> rfl

/-- **Reading commutes with relocation.** -/
theorem relocate_carries : Carries f (relocate f) (Stylesheet.relocate f) where
  become _ _ := rfl
  push := push_relocate f
  enterMedia _ _ _ _ := rfl
  closeMedia := closeMedia_relocate f
  finishBetween := finishBetween_relocate f

end Reader

end Css

end StyleAudit
