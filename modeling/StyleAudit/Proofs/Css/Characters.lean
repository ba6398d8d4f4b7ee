import StyleAudit.Proofs.Css.Derivation
import StyleAudit.Proofs.Override

/-!
# Nothing is made up while reading

The texts that are kept while a stylesheet is read are put together from tokens, so every character
of them is one of the source. The same holds of what a refusal quotes.

- `Rule.texts`, `texts_subset_of_isAmong`: the texts of the rules that are read.
- `scope_subset_of_parse`: those that the checks see, scope by scope.
- `Cause.quoted`, `Quotes`: what a refusal quotes.
- `Reader.step_quotes`, `Reader.run_quotes`, `parse_quotes`: it was read before, in one token and in
  all of them.
-/

namespace StyleAudit

theorem Text.trim_subset (text : Text) : text.trim ⊆ text := text.trim_part.subset

namespace Css

/-! ## Texts of tokens -/

theorem body_texts (source : Text) : (body source).flatMap Token.text = source := by
  rw [body, placeFrom_texts, lexemes_texts]

theorem texts_subset_of_part {part tokens : List Token} (h : part <:+: tokens) :
    part.flatMap Token.text ⊆ tokens.flatMap Token.text :=
  (h.flatMap Token.text).subset

theorem content_subset (tokens : List Token) : content tokens ⊆ tokens.flatMap Token.text := by
  intro c hc
  obtain ⟨token, htoken, hmem⟩ := List.mem_flatMap.mp hc
  exact List.mem_flatMap.mpr ⟨token, (List.mem_filter.mp htoken).1, hmem⟩

/-- The trimmed text of some of the tokens has only characters of theirs. -/
theorem trim_content_subset {part tokens : List Token} (h : part <:+: tokens) :
    (content part).trim ⊆ tokens.flatMap Token.text := by
  intro c hc
  exact texts_subset_of_part h (content_subset part (Text.trim_subset _ hc))

theorem groupSelectors_subset {head : List Token} {selector : Text}
    (h : selector ∈ groupSelectors head) : selector ⊆ head.flatMap Token.text := by
  obtain ⟨part, hpart, rfl⟩ := List.mem_map.mp (List.mem_filter.mp h).1
  exact trim_content_subset (part_of_mem_groupParts hpart)

/-! ## Texts of rules -/

/-- The texts of a rule itself, without those of the rules in its block. -/
def Rule.texts : Rule → List Text
  | .style rule => rule.selectors ++
      rule.declarations.flatMap fun declaration => [declaration.property, declaration.value]
  | .media condition _ _ => [condition]
  | .atRule name preface _ _ => [name, preface]

theorem Declaration.WrittenAs.subset {declaration : Declaration} {tokens : List Token}
    (h : declaration.WrittenAs tokens) :
    declaration.property ⊆ tokens.flatMap Token.text ∧
      declaration.value ⊆ tokens.flatMap Token.text := by
  obtain @⟨before, after, colon, ending, _, _, _, _, hproperty, hvalue, _⟩ := h
  rw [hproperty, hvalue]
  constructor
  · exact trim_content_subset (List.prefix_append _ _).isInfix
  · exact trim_content_subset ⟨before ++ [colon], ending.toList, by simp⟩

theorem PrefaceWritten.subset {name text : Text} {depth : Nat} {head tokens : List Token}
    (h : PrefaceWritten name text depth head) (hhead : head <+: tokens) :
    name ⊆ tokens.flatMap Token.text ∧ text.trim ⊆ tokens.flatMap Token.text := by
  obtain ⟨keyword, rest, rfl, -, rfl, rfl⟩ := h.texts
  constructor
  · intro c hc
    have hkeyword : c ∈ keyword.text := (List.dropWhile_suffix _).subset hc
    exact List.mem_flatMap.mpr ⟨keyword, hhead.subset List.mem_cons_self, hkeyword⟩
  · exact trim_content_subset ((List.suffix_cons keyword rest).isInfix.trans hhead.isInfix)

/-- **The texts of a rule are made of its tokens.** -/
theorem Rule.WrittenAs.texts_subset {rule : Rule} {tokens : List Token}
    (h : rule.WrittenAs tokens) : ∀ text ∈ rule.texts, text ⊆ tokens.flatMap Token.text := by
  intro text htext
  cases h with
  | @style rule tokens isWritten =>
    obtain @⟨head, inside, opening, closing, _, _, hdeclarations, _, hselectors, _⟩ := isWritten
    rcases List.mem_append.mp htext with hselector | hdeclared
    · rw [hselectors] at hselector
      intro c hc
      exact texts_subset_of_part (List.prefix_append _ _).isInfix
        (groupSelectors_subset hselector hc)
    · obtain ⟨declaration, hmem, hpair⟩ := List.mem_flatMap.mp hdeclared
      obtain ⟨part, hwritten, hpart⟩ := hdeclarations.exists_written hmem
      have hinside : inside <:+: head ++ opening :: (inside ++ [closing]) :=
        ⟨head ++ [opening], [closing], by simp⟩
      have hwhole := texts_subset_of_part (hpart.trans hinside)
      rcases List.mem_pair.mp hpair with rfl | rfl
      · exact fun c hc => hwhole (hwritten.subset.1 hc)
      · exact fun c hc => hwhole (hwritten.subset.2 hc)
  | media preface _ _ _ _ _ =>
    rw [List.mem_singleton.mp htext]
    exact (preface.subset (List.prefix_append _ _)).2
  | statement preface _ _ =>
    obtain ⟨hname, hpreface⟩ := preface.subset (List.prefix_append _ _)
    rcases List.mem_pair.mp htext with rfl | rfl
    · exact hname
    · exact hpreface
  | «sealed» preface _ _ _ =>
    obtain ⟨hname, hpreface⟩ := preface.subset (List.prefix_append _ _)
    rcases List.mem_pair.mp htext with rfl | rfl
    · exact hname
    · exact hpreface

/-- **The rules of a source are made of its characters**, at any depth. -/
theorem texts_subset_of_isAmong {source : Text} {sheet : Stylesheet}
    (hsheet : parse source = .ok sheet) {rule : Rule} (hrule : rule.IsAmong sheet.rules) :
    ∀ text ∈ rule.texts, text ⊆ source := by
  have htracked := parse_tracked source
  rw [hsheet] at htracked
  obtain ⟨part, hwritten, hpart⟩ := exists_written_of_isAmong hrule htracked
  intro text htext c hc
  rw [← body_texts source]
  exact texts_subset_of_part hpart (hwritten.texts_subset text htext hc)

/-! ## What the checks see -/

theorem mem_of_mem_styleRules {rule : StyleRule} {rules : List Rule}
    (h : rule ∈ styleRules rules) : Rule.style rule ∈ rules := by
  obtain ⟨other, hother, hstyle⟩ := List.mem_filterMap.mp h
  cases other with
  | style found =>
    cases hstyle
    exact hother
  | media _ _ _ => cases hstyle
  | atRule _ _ _ _ => cases hstyle

/-- What the checks see of a source is made of its characters: the condition of a scope, and the
selectors and properties of its rules. -/
theorem scope_subset_of_parse {source : Text} {sheet : Stylesheet}
    (hsheet : parse source = .ok sheet) {scope : Scope} (hscope : scope ∈ sheet.scopes) :
    (∀ condition ∈ scope.media, condition ⊆ source) ∧
      ∀ rule ∈ scope.rules, (∀ selector ∈ rule.selectors, selector ⊆ source) ∧
        ∀ declaration ∈ rule.declarations, declaration.property ⊆ source := by
  -- a style rule is seen at the top level or in the block of a media rule
  have seen : ∀ rule : StyleRule, Rule.IsAmong (.style rule) sheet.rules →
      (∀ selector ∈ rule.selectors, selector ⊆ source) ∧
        ∀ declaration ∈ rule.declarations, declaration.property ⊆ source := by
    intro rule hrule
    have htexts := texts_subset_of_isAmong hsheet hrule
    constructor
    · intro selector hselector
      exact htexts selector (List.mem_append_left _ hselector)
    · intro declaration hdeclaration
      refine htexts declaration.property (List.mem_append_right _ ?_)
      exact List.mem_flatMap.mpr ⟨declaration, hdeclaration, List.mem_cons_self⟩
  rcases List.mem_cons.mp hscope with rfl | hmedia
  · constructor
    · intro condition hcondition
      cases hcondition
    · intro rule hrule
      exact seen rule (.listed (mem_of_mem_styleRules hrule))
  · obtain ⟨rule, hrule, hsome⟩ := List.mem_filterMap.mp hmedia
    cases rule with
    | style _ => cases hsome
    | atRule _ _ _ _ => cases hsome
    | media condition rules span =>
      cases hsome
      constructor
      · intro other hother
        cases hother
        exact texts_subset_of_isAmong hsheet (.listed hrule) condition List.mem_cons_self
      · intro inner hinner
        exact seen inner (.inside hrule (.listed (mem_of_mem_styleRules hinner)))

/-! ## What a refusal quotes -/

/-- The text that a cause quotes. -/
def Cause.quoted : Cause → Text
  | .missingColon property => property
  | .invalidToken found => found
  | _ => []

/-- A refusal only quotes characters of a text. -/
def Quotes {α : Type} (text : Text) (outcome : Except ParseError α) : Prop :=
  ∀ error, outcome = .error error → error.cause.quoted ⊆ text

theorem quotes_ok {α : Type} (text : Text) (a : α) : Quotes text (.ok a) := by
  intro error h
  cases h

theorem quotes_error {α : Type} {text : Text} {cause : Cause} (h : cause.quoted ⊆ text)
    (span : Span) : Quotes text (.error ⟨cause, span⟩ : Except ParseError α) := by
  intro error herror
  cases herror
  exact h

theorem brokenCause_quoted (text : Text) : (brokenCause text).quoted ⊆ text := by
  rw [brokenCause]
  split
  · exact List.nil_subset _
  split
  · exact List.nil_subset _
  · exact List.Subset.refl _

namespace Reader

variable (reader : Reader) (token : Token) (text : Text)

theorem closeMedia_quotes : Quotes text (reader.closeMedia token) := by
  rw [closeMedia]
  cases reader.frames with
  | nil => exact quotes_error (List.nil_subset _) _
  | cons frame outer => exact quotes_ok _ _

theorem stepSelectors_quotes (start : UInt32) (depth : Nat) (done : List Text) (current : Text) :
    Quotes text (reader.stepSelectors start depth done current token) := by
  fun_cases stepSelectors reader start depth done current token with
  | case1 => exact quotes_error (List.nil_subset _) _
  | case2 => exact quotes_ok _ _
  | case3 => exact quotes_ok _ _
  | case4 => exact quotes_error (List.nil_subset _) _
  | case5 => exact quotes_ok _ _

/-- What is quoted before a colon is what was read of the property. -/
theorem stepProperty_quotes (rule : OpenRule) (start : UInt32) :
    Quotes text (reader.stepProperty rule start text token) := by
  rw [stepProperty]
  cases token.kind with
  | colon =>
    cases text.trim with
    | nil => exact quotes_error (List.nil_subset _) _
    | cons first others => exact quotes_ok _ _
  | semicolon => exact quotes_error text.trim_subset _
  | closeBrace => exact quotes_error text.trim_subset _
  | openBrace => exact quotes_error text.trim_subset _
  | _ => exact quotes_ok _ _

theorem stepBlock_quotes (rule : OpenRule) : Quotes [] (reader.stepBlock rule token) := by
  have hproperty := reader.stepProperty_quotes token [] rule token.span.start
  rw [stepBlock]
  cases token.kind with
  | whitespace => exact quotes_ok _ _
  | semicolon => exact quotes_ok _ _
  | closeBrace => exact quotes_ok _ _
  | _ => exact hproperty

theorem stepPreface_quotes (start : UInt32) (name : Text) (depth : Nat) (preface : Text) :
    Quotes text (reader.stepPreface start name depth preface token) := by
  fun_cases stepPreface reader start name depth preface token with
  | case1 => exact quotes_ok _ _
  | case2 => exact quotes_ok _ _
  | case3 => exact quotes_ok _ _
  | case4 => exact closeMedia_quotes _ token text
  | case5 => exact quotes_ok _ _

theorem stepBetween_quotes : Quotes text (reader.stepBetween token) := by
  have hselectors := reader.stepSelectors_quotes token text token.span.start 0 [] []
  rw [stepBetween]
  cases token.kind with
  | whitespace => exact quotes_ok _ _
  | semicolon => exact quotes_ok _ _
  | closeBrace => exact reader.closeMedia_quotes token text
  | atKeyword => exact quotes_ok _ _
  | _ => exact hselectors

variable {reader token}

/-- **A refused token leads to a quote from the tokens taken.** -/
theorem step_quotes {tokens : List Token} (h : reader.WrittenAs tokens) :
    Quotes ((tokens ++ [token]).flatMap Token.text) (reader.step token) := by
  rw [step]
  split
  · refine quotes_error ?_ _
    intro c hc
    exact List.mem_flatMap.mpr ⟨token, by simp, brokenCause_quoted _ hc⟩
  split
  · exact quotes_ok _ _
  obtain ⟨frames, rules, phase⟩ := reader
  obtain @⟨outer, inner, rest, rfl, -, -, hphase⟩ := h
  cases hphase with
  | between => exact stepBetween_quotes _ token _
  | selectors _ _ => exact stepSelectors_quotes _ token _ _ _ _ _
  | block _ =>
    intro error herror
    exact List.Subset.trans (stepBlock_quotes _ token _ error herror) (List.nil_subset _)
  | @property rule start block before _ _ _ =>
    intro error herror c hc
    have hread := content_subset before (stepProperty_quotes _ token _ rule start error herror hc)
    refine texts_subset_of_part ?_ hread
    exact ⟨outer ++ inner ++ block, [token], by simp⟩
  | value _ _ _ _ _ => exact quotes_ok _ _
  | preface _ _ => exact stepPreface_quotes _ token _ _ _ _ _
  | sealedBlock _ _ _ => exact quotes_ok _ _

/-- **A list of tokens that is refused leads to a quote from them.** -/
theorem run_quotes {taken : List Token} {stop : UInt32} (tokens : List Token)
    (h : reader.WrittenAs taken) (hfills : Fills 0 (taken ++ tokens) stop) :
    Quotes ((taken ++ tokens).flatMap Token.text) (reader.run tokens) := by
  induction tokens generalizing reader taken with
  | nil => exact quotes_ok _ _
  | cons token rest ih =>
    have hsplit : taken ++ token :: rest = taken ++ [token] ++ rest := by simp
    obtain ⟨middle, htaken, rfl, -⟩ := fills_append.mp hfills
    have htracked := step_tracked h htaken
    have hquotes : Quotes _ (reader.step token) := step_quotes h
    rw [run]
    cases hnext : reader.step token with
    | ok next =>
      rw [hnext] at htracked
      rw [hsplit] at hfills ⊢
      exact ih htracked hfills
    | error error =>
      rw [hnext] at hquotes
      intro other hother
      cases hother
      rw [hsplit]
      exact List.Subset.trans (hquotes error rfl)
        (texts_subset_of_part (List.prefix_append _ _).isInfix)

theorem finishBetween_quotes : Quotes text reader.finishBetween := by
  rw [finishBetween]
  cases reader.frames with
  | nil => exact quotes_ok _ _
  | cons frame outer => exact quotes_error (List.nil_subset _) _

/-- The end of input leads to a quote from the tokens taken. -/
theorem finish_quotes {tokens : List Token} (h : reader.WrittenAs tokens) (stop : UInt32) :
    Quotes (tokens.flatMap Token.text) (reader.finish stop) := by
  obtain ⟨frames, rules, phase⟩ := reader
  obtain @⟨outer, inner, rest, rfl, -, -, hphase⟩ := h
  cases hphase with
  | between => exact finishBetween_quotes _
  | selectors _ _ => exact quotes_error (List.nil_subset _) _
  | block _ => exact quotes_error (List.nil_subset _) _
  | @property rule start block before _ _ _ =>
    refine quotes_error ?_ _
    exact trim_content_subset ⟨outer ++ inner ++ block, [], by simp⟩
  | value _ _ _ _ _ => exact quotes_error (List.nil_subset _) _
  | @preface start name text depth _ _ _ =>
    rw [finish]
    by_cases hdepth : depth = 0
    · simp only [if_pos hdepth]
      exact finishBetween_quotes _
    · simp only [if_neg hdepth]
      exact quotes_error (List.nil_subset _) _
  | sealedBlock _ _ _ => exact quotes_error (List.nil_subset _) _

end Reader

/-- **A refusal only quotes characters of the source.** -/
theorem parse_quotes (source : Text) : Quotes source (parse source) := by
  have hfills := body_fills source
  have hquotes := Reader.run_quotes (body source) start_writtenAs hfills
  have htracked : Tracked Reader.WrittenAs (body source) (Reader.start.run (body source)) :=
    Reader.run_tracked (body source) start_writtenAs hfills
  rw [List.nil_append, body_texts] at hquotes
  rw [parse]
  cases hrun : Reader.start.run (body source) with
  | ok reader =>
    rw [hrun] at htracked
    have hfinish := Reader.finish_quotes htracked (endToken source).span.start
    rwa [body_texts] at hfinish
  | error error =>
    rw [hrun] at hquotes
    intro other hother
    cases hother
    exact hquotes error rfl

end Css

end StyleAudit
