import StyleAudit.Proofs.Css.Derivation
import Mathlib

/-!
# Texts of rules are those of the source

A span and the texts that go with it are put together apart from each other. They agree: the texts
of a declaration can be read off the tokens in its span, and the selectors of a rule off the tokens
from its start to its block.

- `propertyText`, `valueText`: the texts of a declaration, from its tokens.
- `Declaration.WrittenAs.texts_eq`: they are the texts that are kept.
- `trim_content_part`: where there are no comments, such a text is a contiguous part.
- `parse_texts`: all of it for the rules that are read.
-/

namespace StyleAudit.Css

/-! ## The texts of a declaration -/

/-- Tokens without the last one, if that is a semicolon. -/
def withoutSemicolon (tokens : List Token) : List Token :=
  if tokens.getLast?.map Token.kind = some .semicolon then tokens.dropLast else tokens

/-- What stands before the first colon. -/
def propertyText (tokens : List Token) : Text :=
  (content (tokens.takeWhile fun token => token.kind ≠ .colon)).trim

/-- What stands after the first colon, a semicolon at the end left out. -/
def valueText (tokens : List Token) : Text :=
  (content ((withoutSemicolon tokens).dropWhile fun token => token.kind ≠ .colon).tail).trim

section

variable {before after : List Token} {colon : Token}
  (hbefore : ∀ token ∈ before, token.kind ≠ .colon) (hcolon : colon.kind = .colon)

include hbefore hcolon

theorem takeWhile_colon :
    (before ++ colon :: after).takeWhile (fun token => token.kind ≠ .colon) = before := by
  have hpos : ∀ token ∈ before, decide (token.kind ≠ .colon) = true :=
    fun token htoken => decide_eq_true (hbefore token htoken)
  rw [List.takeWhile_append_of_pos hpos, List.takeWhile_cons_of_neg (by simp [hcolon]),
    List.append_nil]

theorem dropWhile_colon :
    (before ++ colon :: after).dropWhile (fun token => token.kind ≠ .colon) = colon :: after := by
  have hpos : ∀ token ∈ before, decide (token.kind ≠ .colon) = true :=
    fun token htoken => decide_eq_true (hbefore token htoken)
  rw [List.dropWhile_append_of_pos hpos, List.dropWhile_cons_of_neg (by simp [hcolon])]

end

/-- A semicolon at the end of a declaration is the one that ends it. -/
theorem withoutSemicolon_declaration {before after : List Token} {colon : Token}
    {ending : Option Token} (hcolon : colon.kind = .colon)
    (hgathered : Gathered [.semicolon, .closeBrace] 0 after)
    (hending : ∀ token ∈ ending, token.kind = .semicolon) :
    withoutSemicolon (before ++ colon :: (after ++ ending.toList)) = before ++ colon :: after := by
  cases ending with
  | some semicolon =>
    have hsplit : before ++ colon :: (after ++ (some semicolon).toList) =
        before ++ colon :: after ++ [semicolon] := by simp
    rw [hsplit, withoutSemicolon, List.getLast?_concat, Option.map_some,
      hending semicolon rfl, if_pos rfl, List.dropLast_concat]
  | none =>
    rw [Option.toList_none, List.append_nil, withoutSemicolon, if_neg]
    rcases List.eq_nil_or_concat after with rfl | ⟨front, last, rfl⟩
    · simp [hcolon]
    · rw [List.concat_eq_append] at hgathered ⊢
      have hlast := hgathered.last_ne_semicolon (by simp)
      have hsplit : before ++ colon :: (front ++ [last]) = before ++ colon :: front ++ [last] := by
        simp
      rw [hsplit, List.getLast?_concat, Option.map_some]
      exact fun h => hlast (Option.some.inj h)

/-- The texts of a declaration can be read off its tokens. -/
theorem Declaration.WrittenAs.texts_eq {declaration : Declaration} {tokens : List Token}
    (h : declaration.WrittenAs tokens) :
    (∃ token ∈ tokens, token.kind = .colon) ∧ declaration.property = propertyText tokens ∧
      declaration.value = valueText tokens := by
  obtain @⟨before, after, colon, ending, noColon, isColon, gathered, isSemicolon, property, value,
    _⟩ := h
  refine ⟨⟨colon, by simp, isColon⟩, ?_, ?_⟩
  · rw [property, propertyText, takeWhile_colon noColon isColon]
  · rw [value, valueText, withoutSemicolon_declaration isColon gathered isSemicolon,
      dropWhile_colon noColon isColon, List.tail_cons]

/-! ## Contiguous texts -/

/-- Where there are no comments, the text of some of the tokens is a contiguous part. -/
theorem trim_content_part {part tokens : List Token} (hpart : part <:+: tokens)
    (hcomments : ∀ token ∈ tokens, token.kind ≠ .comment) :
    (content part).trim <:+: tokens.flatMap Token.text := by
  rw [content_eq_texts fun token htoken => hcomments token (hpart.subset htoken)]
  exact (Text.trim_part _).trans (hpart.flatMap Token.text)

theorem groupSelectors_part {head tokens : List Token} (hhead : head <:+: tokens)
    (hcomments : ∀ token ∈ tokens, token.kind ≠ .comment) {selector : Text}
    (hselector : selector ∈ groupSelectors head) : selector <:+: tokens.flatMap Token.text := by
  obtain ⟨part, hpart, rfl⟩ := List.mem_map.mp (List.mem_filter.mp hselector).1
  exact trim_content_part ((part_of_mem_groupParts hpart).trans hhead) hcomments

theorem Declaration.WrittenAs.texts_part {declaration : Declaration} {part tokens : List Token}
    (h : declaration.WrittenAs part) (hpart : part <:+: tokens)
    (hcomments : ∀ token ∈ tokens, token.kind ≠ .comment) :
    declaration.property <:+: tokens.flatMap Token.text ∧
      declaration.value <:+: tokens.flatMap Token.text := by
  obtain @⟨before, after, colon, ending, _, _, _, _, property, value, _⟩ := h
  rw [property, value]
  have hbefore : before <:+: before ++ colon :: (after ++ ending.toList) :=
    (List.prefix_append _ _).isInfix
  have hafter : after <:+: before ++ colon :: (after ++ ending.toList) :=
    ⟨before ++ [colon], ending.toList, by simp⟩
  exact ⟨trim_content_part (hbefore.trans hpart) hcomments,
    trim_content_part (hafter.trans hpart) hcomments⟩

/-! ## The rules of a source -/

/-- **The texts of a rule are those of the source.** The texts of its declarations are those of the
tokens in their spans, and its selectors are the parts of the group before its block. Without
comments they are all contiguous parts of what the rule's span covers. -/
theorem parse_texts {source : Text} (hsize : source.bytes < UInt32.size) {sheet : Stylesheet}
    (hsheet : parse source = .ok sheet) {rule : StyleRule}
    (hrule : Rule.IsAmong (.style rule) sheet.rules) :
    (∀ declaration ∈ rule.declarations,
      (∃ token ∈ tokensIn source declaration.span, token.kind = .colon) ∧
      declaration.property = propertyText (tokensIn source declaration.span) ∧
      declaration.value = valueText (tokensIn source declaration.span)) ∧
    (∃ head opening rest, tokensFrom source rule.span.start = head ++ opening :: rest ∧
      opening.kind = .openBrace ∧ head = header 0 (tokensFrom source rule.span.start) ∧
      rule.selectors = groupSelectors head) ∧
    ((∀ token ∈ body source, token.kind ≠ .comment) →
      ∃ text, rule.span.slice? source = some text ∧
        (∀ selector ∈ rule.selectors, selector <:+: text) ∧
        ∀ declaration ∈ rule.declarations,
          declaration.property <:+: text ∧ declaration.value <:+: text) := by
  have hlisted := parse_tracked source
  rw [hsheet] at hlisted
  obtain ⟨part, hwritten, hpart⟩ := exists_written_of_isAmong hrule hlisted
  cases hwritten with
  | style isWritten =>
    obtain ⟨hne, hfills⟩ := isWritten.fills_span
    have hstretch := Stretch.of_part (body_fills source) hpart hfills hne
    obtain @⟨head, inside, opening, closing, gathered, opens, declarations, closes, selectors, _⟩ :=
      isWritten
    have hinside : inside <:+: head ++ opening :: (inside ++ [closing]) :=
      ⟨head ++ [opening], [closing], by simp⟩
    refine ⟨?_, ?_, ?_⟩
    · -- the tokens in the span of a declaration are those it was read from
      intro declaration hdeclaration
      obtain ⟨tokens, hdeclared, hwithin⟩ := declarations.exists_written hdeclaration
      obtain ⟨hne', hfills'⟩ := hdeclared.fills_span
      have hstretch' := Stretch.of_part (body_fills source)
        ((hwithin.trans hinside).trans hpart) hfills' hne'
      rw [hstretch'.tokensIn_eq hsize]
      exact hdeclared.texts_eq
    · -- the header is found again from the start of the rule on
      obtain ⟨back, hfrom⟩ := hstretch.tokensFrom_eq hsize
      rw [List.append_assoc, List.cons_append] at hfrom
      refine ⟨head, opening, inside ++ [closing] ++ back, hfrom, opens, ?_, selectors⟩
      rw [hfrom, gathered.header_eq opens]
    · intro hcomments
      have hcomments' : ∀ token ∈ head ++ opening :: (inside ++ [closing]),
          token.kind ≠ .comment := fun token htoken => hcomments token (hpart.subset htoken)
      refine ⟨_, hstretch.slice hsize, ?_, ?_⟩
      · intro selector hselector
        rw [selectors] at hselector
        exact groupSelectors_part (List.prefix_append _ _).isInfix hcomments' hselector
      · intro declaration hdeclaration
        obtain ⟨tokens, hdeclared, hwithin⟩ := declarations.exists_written hdeclaration
        exact hdeclared.texts_part (hwithin.trans hinside) hcomments'

/-- Separators in brackets and strings, and a value that ends with a brace of its own. -/
theorem parse_texts_brackets :
    ∃ rule : StyleRule,
      rule.selectors = groupSelectors
        (header 0 (tokensFrom "a:is(b,c),p\x7bx:(;),';' ;y:(\x7d\x7d".toList rule.span.start)) ∧
      rule.selectors = ["a:is(b,c)".toList, "p".toList] ∧
      ∀ declaration ∈ rule.declarations,
        declaration.value = valueText
          (tokensIn "a:is(b,c),p\x7bx:(;),';' ;y:(\x7d\x7d".toList declaration.span) := by
  have hparse : parse "a:is(b,c),p\x7bx:(;),';' ;y:(\x7d\x7d".toList =
      .ok ⟨[.style ⟨["a:is(b,c)".toList, "p".toList],
        [⟨"x".toList, "(;),';'".toList, ⟨12, 23⟩⟩, ⟨"y".toList, "(\x7d".toList, ⟨23, 27⟩⟩],
        ⟨0, 28⟩⟩]⟩ := by cbv
  obtain ⟨hdeclarations, ⟨head, _, _, _, _, hhead, hselectors⟩, _⟩ :=
    parse_texts (by decide) hparse (.listed List.mem_cons_self)
  refine ⟨_, ?_, rfl, fun declaration h => (hdeclarations declaration h).2.2⟩
  rw [hselectors, hhead]

end StyleAudit.Css
