import StyleAudit.Proofs.Css.Rendering
import StyleAudit.Proofs.Css.Stretch
import Mathlib.Tactic.SplitIfs

/-!
# How rules are written in tokens

A rule stands for a stretch of tokens. What the stretch looks like is said here without the reader:
a header that ends at the first opening brace at depth 0, and a block of declarations or rules with
nothing but separators between them.

- `content`, `header`, `groupParts`: the text of tokens, the tokens before a block, and a selector
  group cut at its commas.
- `Gathered`: tokens among which none of some kinds is at depth 0.
- `Listed`: items one after the other, with separators between them.
- `Declaration.WrittenAs`, `StyleRule.WrittenAs`, `Rule.WrittenAs`: the tokens of a declaration, of
  a style rule and of any rule.
- `Rule.IsAmong`: a rule of a list or of a media block below it.
- `exists_written_of_isAmong`: such a rule has tokens of its own among those of the list.
-/

namespace StyleAudit.Css

/-! ## Texts of tokens -/

/-- The text of tokens, without the comments among them. -/
def content (tokens : List Token) : Text :=
  (tokens.filter fun token => token.kind ≠ .comment).flatMap Token.text

/-- Tokens that may stand between rules and between declarations. -/
def Kind.separates : Kind → Bool
  | whitespace | comment | semicolon => true
  | _ => false

/-- The tokens before the first opening brace at depth 0, if the first token is at `depth`. -/
def header : Nat → List Token → List Token
  | _, [] => []
  | depth, token :: rest =>
    if depth = 0 ∧ token.kind = .openBrace then []
    else token :: header (token.kind.depthAfter depth) rest

/-- Tokens cut at the commas at depth 0, if the first token is at `depth`. -/
def groupParts : Nat → List Token → List (List Token)
  | _, [] => [[]]
  | depth, token :: rest =>
    if depth = 0 ∧ token.kind = .comma then [] :: groupParts depth rest
    else
      match groupParts (token.kind.depthAfter depth) rest with
      | [] => [[token]]
      | part :: parts => (token :: part) :: parts

/-- The selectors of a group: its parts without comments and outer blanks, empty ones dropped. -/
def groupSelectors (tokens : List Token) : List Text :=
  ((groupParts 0 tokens).map fun part => (content part).trim).filter fun text => !text.isEmpty

theorem content_append (xs ys : List Token) : content (xs ++ ys) = content xs ++ content ys := by
  rw [content, List.filter_append, List.flatMap_append]
  rfl

theorem content_comment {token : Token} (h : token.kind = .comment) : content [token] = [] := by
  simp [content, h]

theorem content_singleton {token : Token} (h : token.kind ≠ .comment) :
    content [token] = token.text := by
  simp [content, h]

/-- Without comments the text of tokens is all they stand for. -/
theorem content_eq_texts {tokens : List Token} (h : ∀ token ∈ tokens, token.kind ≠ .comment) :
    content tokens = tokens.flatMap Token.text := by
  rw [content, List.filter_eq_self.mpr]
  intro token htoken
  exact decide_eq_true (h token htoken)

/-! ## Depth -/

theorem depthThrough_append (depth : Nat) (xs ys : List Lexeme) :
    depthThrough depth (xs ++ ys) = depthThrough (depthThrough depth xs) ys :=
  List.foldl_append

theorem freeAtTop_append (kinds : List Kind) (depth : Nat) (xs ys : List Lexeme) :
    freeAtTop kinds depth (xs ++ ys) =
      (freeAtTop kinds depth xs && freeAtTop kinds (depthThrough depth xs) ys) := by
  induction xs generalizing depth with
  | nil => rfl
  | cons lexeme rest ih =>
    rw [List.cons_append, freeAtTop, freeAtTop, ih, Bool.and_assoc]
    rfl

/-- Tokens that lead to `depth`, none of these kinds being at depth 0. -/
structure Gathered (kinds : List Kind) (depth : Nat) (tokens : List Token) : Prop where
  depth_eq : depthThrough 0 (tokens.map Token.lexeme) = depth
  free : freeAtTop kinds 0 (tokens.map Token.lexeme) = true

namespace Gathered

variable {kinds : List Kind} {depth : Nat} {tokens : List Token} {token : Token}

theorem nil (kinds : List Kind) : Gathered kinds 0 [] := ⟨rfl, rfl⟩

/-- One more token that is of none of the kinds or not at depth 0. -/
theorem concat (h : Gathered kinds depth tokens) (htoken : depth = 0 → token.kind ∉ kinds) :
    Gathered kinds (token.kind.depthAfter depth) (tokens ++ [token]) where
  depth_eq := by
    rw [List.map_append, depthThrough_append, h.depth_eq]
    rfl
  free := by
    rw [List.map_append, freeAtTop_append, h.free, h.depth_eq, Bool.true_and]
    show (decide (depth ≠ 0) || decide (token.kind ∉ kinds)) && true
    by_cases hdepth : depth = 0
    · simp [htoken hdepth]
    · simp [hdepth]

/-- At depth 0 the last token is no semicolon: it would have been at depth 0 as well. -/
theorem last_ne_semicolon (h : Gathered kinds 0 (tokens ++ [token]))
    (hkinds : Kind.semicolon ∈ kinds) : token.kind ≠ .semicolon := by
  intro hkind
  have hdepth := h.depth_eq
  have hfree := h.free
  rw [List.map_append, depthThrough_append] at hdepth
  rw [List.map_append, freeAtTop_append, Bool.and_eq_true] at hfree
  have hbefore : depthThrough 0 (tokens.map Token.lexeme) = 0 := by
    simpa [depthThrough, Token.lexeme, hkind, Kind.depthAfter, Kind.opensGroup, Kind.closesGroup]
      using hdepth
  have hlast := hfree.2
  rw [hbefore] at hlast
  simp [freeAtTop, Token.lexeme, hkind, hkinds] at hlast

end Gathered

/-- Kinds that end what stands before a block. -/
def Kind.headerEnds : List Kind := [.openBrace, .closeBrace, .semicolon]

theorem Kind.mem_headerEnds {kind : Kind} :
    kind ∈ Kind.headerEnds ↔ kind = .openBrace ∨ kind = .closeBrace ∨ kind = .semicolon := by
  simp [Kind.headerEnds]

theorem header_of_free {kinds : List Kind} (hkinds : .openBrace ∈ kinds) {depth : Nat}
    {head : List Token} {opening : Token} (hopening : opening.kind = .openBrace)
    (hfree : freeAtTop kinds depth (head.map Token.lexeme) = true)
    (hdepth : depthThrough depth (head.map Token.lexeme) = 0) (rest : List Token) :
    header depth (head ++ opening :: rest) = head := by
  induction head generalizing depth with
  | nil => rw [List.nil_append, header, if_pos ⟨hdepth, hopening⟩]
  | cons token head ih =>
    rw [List.map_cons, freeAtTop, Bool.and_eq_true] at hfree
    -- an opening brace at depth 0 would have ended the header before
    have hinside : ¬ (depth = 0 ∧ token.kind = .openBrace) := by
      rintro ⟨hzero, hkind⟩
      simp [hzero, hkind, Token.lexeme, hkinds] at hfree
    have hrest : header (token.kind.depthAfter depth) (head ++ opening :: rest) = head :=
      ih hfree.2 hdepth
    rw [List.cons_append, header, if_neg hinside, hrest]

/-- A gathered header ends at the brace after it. -/
theorem Gathered.header_eq {head : List Token} {opening : Token}
    (h : Gathered Kind.headerEnds 0 head) (hopening : opening.kind = .openBrace)
    (rest : List Token) : header 0 (head ++ opening :: rest) = head :=
  header_of_free (Kind.mem_headerEnds.mpr (.inl rfl)) hopening h.free h.depth_eq rest

/-! ## Selector groups -/

theorem groupParts_ne_nil (depth : Nat) (tokens : List Token) : groupParts depth tokens ≠ [] := by
  cases tokens with
  | nil => exact List.cons_ne_nil _ _
  | cons token rest =>
    rw [groupParts]
    split
    · exact List.cons_ne_nil _ _
    · split <;> exact List.cons_ne_nil _ _

/-- One more token starts a new part if it is a comma at depth 0, else it belongs to the last one. -/
theorem groupParts_concat {depth : Nat} {tokens : List Token} {parts : List (List Token)}
    {last : List Token} (token : Token) (h : groupParts depth tokens = parts ++ [last]) :
    groupParts depth (tokens ++ [token]) =
      if depthThrough depth (tokens.map Token.lexeme) = 0 ∧ token.kind = .comma
      then parts ++ [last] ++ [[]] else parts ++ [last ++ [token]] := by
  induction tokens generalizing depth parts last with
  | nil =>
    obtain ⟨rfl, hlast⟩ := List.append_eq_singleton_iff.mp h.symm |>.resolve_right (by simp)
    cases hlast
    show groupParts depth [token] = if depth = 0 ∧ token.kind = .comma then _ else _
    by_cases hcomma : depth = 0 ∧ token.kind = .comma
    · rw [groupParts, if_pos hcomma, if_pos hcomma]
      rfl
    · rw [groupParts, if_neg hcomma, if_neg hcomma]
      rfl
  | cons first rest ih =>
    show groupParts depth (first :: (rest ++ [token])) =
      if depthThrough (first.kind.depthAfter depth) (rest.map Token.lexeme) = 0 ∧
        token.kind = .comma then _ else _
    by_cases hfirst : depth = 0 ∧ first.kind = .comma
    · -- the first token is a cut of its own
      have hdepth : first.kind.depthAfter depth = depth := by
        rw [hfirst.2]
        rfl
      rw [groupParts, if_pos hfirst] at h
      rw [groupParts, if_pos hfirst, hdepth]
      cases parts with
      | nil =>
        rw [List.nil_append, List.cons.injEq] at h
        exact absurd h.2 (groupParts_ne_nil depth rest)
      | cons part parts =>
        rw [List.cons_append, List.cons.injEq] at h
        rw [ih h.2, ← h.1]
        split_ifs <;> rfl
    · -- the first token belongs to the first part of what follows
      rw [groupParts, if_neg hfirst] at h
      rw [groupParts, if_neg hfirst]
      cases hparts : groupParts (first.kind.depthAfter depth) rest with
      | nil => exact absurd hparts (groupParts_ne_nil _ rest)
      | cons part others =>
        rw [hparts] at h
        cases parts with
        | nil =>
          obtain ⟨rfl, rfl⟩ : first :: part = last ∧ others = [] := by simpa using h
          rw [@ih _ [] part hparts]
          split_ifs <;> rfl
        | cons front parts =>
          obtain ⟨rfl, rfl⟩ : first :: part = front ∧ others = parts ++ [last] := by simpa using h
          rw [@ih _ (part :: parts) last hparts]
          split_ifs <;> rfl

/-- The parts of a group are contiguous. -/
theorem part_of_mem_groupParts {depth : Nat} {tokens part : List Token}
    (h : part ∈ groupParts depth tokens) : part <:+: tokens := by
  -- the first part is not only contiguous but at the start, which keeps it so when it grows
  suffices hparts : ∃ first others, groupParts depth tokens = first :: others ∧
      first <+: tokens ∧ ∀ other ∈ others, other <:+: tokens by
    obtain ⟨first, others, heq, hfirst, hothers⟩ := hparts
    rw [heq] at h
    rcases List.mem_cons.mp h with rfl | h
    · exact hfirst.isInfix
    · exact hothers part h
  clear h
  induction tokens generalizing depth with
  | nil => exact ⟨[], [], rfl, List.prefix_rfl, List.forall_mem_nil _⟩
  | cons token rest ih =>
    rw [groupParts]
    by_cases hcomma : depth = 0 ∧ token.kind = .comma
    · obtain ⟨first, others, heq, hfirst, hothers⟩ := @ih depth
      rw [if_pos hcomma, heq]
      refine ⟨[], first :: others, rfl, List.nil_prefix, ?_⟩
      intro other hother
      rcases List.mem_cons.mp hother with rfl | hother
      · exact hfirst.isInfix.trans (List.suffix_cons token rest).isInfix
      · exact (hothers other hother).trans (List.suffix_cons token rest).isInfix
    · obtain ⟨first, others, heq, hfirst, hothers⟩ := @ih (token.kind.depthAfter depth)
      rw [if_neg hcomma, heq]
      refine ⟨token :: first, others, rfl, List.cons_prefix_cons.mpr ⟨rfl, hfirst⟩, ?_⟩
      intro other hother
      exact (hothers other hother).trans (List.suffix_cons token rest).isInfix

/-! ## Items with separators between them -/

/-- Items one after the other, each written in tokens of its own, and separators between them. -/
inductive Listed {α : Type} (written : α → List Token → Prop) : List α → List Token → Prop
  /-- Nothing. -/
  | nil : Listed written [] []
  /-- One more separator. -/
  | gap {items : List α} {tokens : List Token} {token : Token}
      (before : Listed written items tokens) (separates : token.kind.separates = true) :
      Listed written items (tokens ++ [token])
  /-- One more item. -/
  | item {items : List α} {tokens part : List Token} {item : α}
      (before : Listed written items tokens) (isWritten : written item part) :
      Listed written (items ++ [item]) (tokens ++ part)

/-- An item of a list has tokens of its own among those of the list. -/
theorem Listed.exists_written {α : Type} {written : α → List Token → Prop} {items : List α}
    {tokens : List Token} (h : Listed written items tokens) {item : α} (hitem : item ∈ items) :
    ∃ part, written item part ∧ part <:+: tokens := by
  induction h with
  | nil => exact absurd hitem List.not_mem_nil
  | gap before separates ih =>
    obtain ⟨part, hwritten, hwithin⟩ := ih hitem
    exact ⟨part, hwritten, hwithin.trans (List.prefix_append _ _).isInfix⟩
  | @item items tokens part last before isWritten ih =>
    rcases List.mem_append.mp hitem with hitem | hlast
    · obtain ⟨part', hwritten, hwithin⟩ := ih hitem
      exact ⟨part', hwritten, hwithin.trans (List.prefix_append _ _).isInfix⟩
    · rw [List.mem_singleton.mp hlast]
      exact ⟨part, isWritten, (List.suffix_append _ _).isInfix⟩

/-! ## Declarations and rules -/

/-- The tokens of a declaration: a property, the first colon, a value, and perhaps a semicolon. -/
inductive Declaration.WrittenAs (declaration : Declaration) : List Token → Prop
  | intro {before after : List Token} {colon : Token} {ending : Option Token}
      (noColon : ∀ token ∈ before, token.kind ≠ .colon)
      (isColon : colon.kind = .colon)
      (gathered : Gathered [.semicolon, .closeBrace] 0 after)
      (isSemicolon : ∀ token ∈ ending, token.kind = .semicolon)
      (property : declaration.property = (content before).trim)
      (value : declaration.value = (content after).trim)
      (fills : Fills declaration.span.start (before ++ colon :: (after ++ ending.toList))
        declaration.span.stop) :
      declaration.WrittenAs (before ++ colon :: (after ++ ending.toList))

/-- The tokens of a style rule: a selector group and a block of declarations. -/
inductive StyleRule.WrittenAs (rule : StyleRule) : List Token → Prop
  | intro {head inside : List Token} {opening closing : Token}
      (gathered : Gathered Kind.headerEnds 0 head)
      (opens : opening.kind = .openBrace)
      (declarations : Listed Declaration.WrittenAs rule.declarations inside)
      (closes : closing.kind = .closeBrace)
      (selectors : rule.selectors = groupSelectors head)
      (fills : Fills rule.span.start (head ++ opening :: (inside ++ [closing])) rule.span.stop) :
      rule.WrittenAs (head ++ opening :: (inside ++ [closing]))

/-- The tokens before the block or end of an at-rule, with its name and the text after that. -/
structure PrefaceWritten (name text : Text) (depth : Nat) (head : List Token) : Prop where
  gathered : Gathered Kind.headerEnds depth head
  texts : ∃ keyword rest, head = keyword :: rest ∧ keyword.kind = .atKeyword ∧
    name = keyword.text.dropWhile (· == '@') ∧ text = content rest

/-- The tokens of a rule. -/
inductive Rule.WrittenAs : Rule → List Token → Prop
  /-- A selector group with declarations. -/
  | style {rule : StyleRule} {tokens : List Token} (isWritten : rule.WrittenAs tokens) :
      Rule.WrittenAs (.style rule) tokens
  /-- A media block with rules inside it. -/
  | media {name text : Text} {rules : List Rule} {span : Span} {head inside : List Token}
      {opening closing : Token}
      (preface : PrefaceWritten name text 0 head)
      (isMedia : Text.sameIgnoringCase name "media".toList = true)
      (opens : opening.kind = .openBrace)
      (inner : Listed Rule.WrittenAs rules inside)
      (closes : closing.kind = .closeBrace)
      (fills : Fills span.start (head ++ opening :: (inside ++ [closing])) span.stop) :
      Rule.WrittenAs (.media text.trim rules span) (head ++ opening :: (inside ++ [closing]))
  /-- An at-rule without a block. -/
  | statement {name text : Text} {span : Span} {head : List Token} {ending : Option Token}
      (preface : PrefaceWritten name text 0 head)
      (isSemicolon : ∀ token ∈ ending, token.kind = .semicolon)
      (fills : Fills span.start (head ++ ending.toList) span.stop) :
      Rule.WrittenAs (.atRule name text.trim false span) (head ++ ending.toList)
  /-- An at-rule with a block that is not read. -/
  | sealed {name text : Text} {span : Span} {head inside : List Token} {opening closing : Token}
      (preface : PrefaceWritten name text 0 head)
      (opens : opening.kind = .openBrace)
      (closes : closing.kind = .closeBrace)
      (fills : Fills span.start (head ++ opening :: (inside ++ [closing])) span.stop) :
      Rule.WrittenAs (.atRule name text.trim true span) (head ++ opening :: (inside ++ [closing]))

theorem Declaration.WrittenAs.fills_span {declaration : Declaration} {part : List Token}
    (h : declaration.WrittenAs part) :
    part ≠ [] ∧ Fills declaration.span.start part declaration.span.stop := by
  obtain ⟨_, _, _, _, _, _, hfills⟩ := h
  exact ⟨by simp, hfills⟩

theorem StyleRule.WrittenAs.fills_span {rule : StyleRule} {part : List Token}
    (h : rule.WrittenAs part) : part ≠ [] ∧ Fills rule.span.start part rule.span.stop := by
  obtain ⟨_, _, _, _, _, hfills⟩ := h
  exact ⟨by simp, hfills⟩

theorem Rule.WrittenAs.fills_span {rule : Rule} {part : List Token} (h : rule.WrittenAs part) :
    part ≠ [] ∧ Fills rule.span.start part rule.span.stop := by
  cases h with
  | style isWritten => exact isWritten.fills_span
  | media _ _ _ _ _ fills => exact ⟨by simp, fills⟩
  | statement preface _ fills =>
    obtain ⟨keyword, rest, rfl, _⟩ := preface.texts
    exact ⟨by simp, fills⟩
  | «sealed» _ _ _ fills => exact ⟨by simp, fills⟩

/-! ## Rules in media blocks -/

/-- A rule of a list, or one of a media block among them, at any depth. -/
inductive Rule.IsAmong (rule : Rule) : List Rule → Prop
  /-- It is in the list. -/
  | listed {rules : List Rule} (h : rule ∈ rules) : rule.IsAmong rules
  /-- It is among the rules of a media block. -/
  | inside {rules inner : List Rule} {condition : Text} {span : Span}
      (h : .media condition inner span ∈ rules) (among : rule.IsAmong inner) : rule.IsAmong rules

/-- **A rule at any depth has tokens of its own among those of the list.** -/
theorem exists_written_of_isAmong {rule : Rule} {rules : List Rule} (hrule : rule.IsAmong rules)
    {tokens : List Token} (h : Listed Rule.WrittenAs rules tokens) :
    ∃ part, rule.WrittenAs part ∧ part <:+: tokens := by
  induction hrule generalizing tokens with
  | listed hmem => exact h.exists_written hmem
  | inside hmedia among ih =>
    obtain ⟨block, hblock, hwithin⟩ := h.exists_written hmedia
    cases hblock with
    | @media name text _ _ head inside opening closing _ _ _ hrules =>
      obtain ⟨part, hwritten, hpart⟩ := ih hrules
      have hinside : inside <:+: head ++ opening :: (inside ++ [closing]) :=
        ⟨head ++ [opening], [closing], by simp⟩
      exact ⟨part, hwritten, (hpart.trans hinside).trans hwithin⟩

end StyleAudit.Css
