import StyleAudit.Proofs.Css.Concatenation
import StyleAudit.Proofs.Css.Patterns
import Mathlib

/-!
# Tokens tile a source

The tokens of a source lie side by side from its start to its end, each is the first token of what
is left of the source, and what follows a token boundary are the tokens of the source from there on.

- `body_from`, `tokens_from`: the tokens from a boundary on are those of what is left, moved along.
- `tokens_firstToken`: the tokens of a text begin with its first token.
- `tokens_tile`: all of it for the tokens of a source.
-/

namespace StyleAudit.Css

/-! ## From a boundary on -/

/-- A boundary between tokens cuts the source, and the later tokens are those of its second part. -/
theorem body_from {source : Text} {front back : List Token} (h : body source = front ++ back) :
    ∃ before after, source = before ++ after ∧
      back = (body after).map (Token.relocate (shift before.bytes)) := by
  obtain ⟨first, others, hlexemes, -, hback⟩ := placeFrom_eq_append h
  refine ⟨first.flatMap Lexeme.text, others.flatMap Lexeme.text, ?_, ?_⟩
  · rw [← List.flatMap_append, ← hlexemes, lexemes_texts]
  · rw [hback, placeFrom_shift, body, lexemes_rest hlexemes]

/-- The end of a source is the end of its second part, moved along. -/
theorem endToken_append (before after : Text) :
    endToken (before ++ after) = (endToken after).relocate (shift before.bytes) := by
  simp only [endToken, Token.relocate, Span.relocate, Span.ofOffsets, shift_toUInt32,
    Text.bytes_append, Nat.add_comm]

/-- The tokens from a boundary on are those of what is left, the end of input included. -/
theorem tokens_from {source : Text} {front back : List Token} {next : Token}
    (h : tokens source = front ++ next :: back) :
    ∃ before after, source = before ++ after ∧
      next :: back = (tokens after).map (Token.relocate (shift before.bytes)) := by
  -- the end of input is the last token, so it is among the later ones
  obtain ⟨others, last, hrest⟩ := (List.eq_nil_or_concat (next :: back)).resolve_left
    (List.cons_ne_nil _ _)
  rw [List.concat_eq_append] at hrest
  rw [tokens, hrest, ← List.append_assoc] at h
  obtain ⟨hbody, hlast⟩ := List.append_inj' h rfl
  obtain ⟨before, after, rfl, rfl⟩ := body_from hbody
  refine ⟨before, after, rfl, ?_⟩
  rw [hrest, tokens, List.map_append, ← hlast, endToken_append]
  rfl

/-- The tokens of a text begin with its first token, at its start. -/
theorem tokens_firstToken (text : Text) :
    ∃ token rest, tokens text = token :: rest ∧ token.span.start = 0 ∧
      FirstToken token.kind token.text text := by
  cases text with
  | nil =>
    refine ⟨endToken [], [], ?_, rfl, .atEnd⟩
    rw [tokens, body, lexemes]
    rfl
  | cons c cs =>
    rw [tokens, body, lexemes]
    exact ⟨_, _, rfl, rfl, scan_firstToken c cs⟩

/-- Only the end of a text is a token that marks the end. -/
theorem FirstToken.eq_nil {taken remaining : Text} (h : FirstToken .endOfInput taken remaining) :
    remaining = [] := by
  cases h with
  | longest isToken => exact absurd isToken (Language.notMem_zero taken)
  | atEnd => rfl

theorem scan_kind_ne_endOfInput (c : Char) (cs : Text) : (scan c cs).kind ≠ .endOfInput := by
  intro h
  have hfirst := scan_firstToken c cs
  rw [h] at hfirst
  exact List.cons_ne_nil c cs hfirst.eq_nil

/-! ## All tokens -/

/-- **Tokens tile a source.** One token marks its end; the others have a text each, lie side by side
from the start to the end, and together make up the source. Each token is the first one of what is
left of the source, and what follows a boundary are the tokens of what is left, moved along. -/
theorem tokens_tile {source : Text} (hsize : source.bytes < UInt32.size) :
    (∃ front last, tokens source = front ++ [last] ∧
      (last.kind = .endOfInput ∧ last.span.start.toNat = source.bytes ∧
        last.span.stop.toNat = source.bytes) ∧
      (∀ token ∈ front, token.kind ≠ .endOfInput ∧ token.span.start < token.span.stop ∧
        token.span.slice? source = some token.text) ∧
      Fills 0 front last.span.start ∧ front.flatMap Token.text = source) ∧
    ∀ front next back, tokens source = front ++ next :: back →
      ∃ before after, source = before ++ after ∧ next.span.start.toNat = before.bytes ∧
        FirstToken next.kind next.text after ∧
        next :: back = (tokens after).map (Token.relocate (shift before.bytes)) := by
  constructor
  · have hend : source.bytes.toUInt32.toNat = source.bytes := UInt32.toNat_ofNat_of_lt' hsize
    refine ⟨body source, endToken source, rfl, ⟨rfl, hend, hend⟩, ?_, body_fills source, ?_⟩
    · intro token htoken
      refine ⟨?_, body_grows hsize token htoken, ?_⟩
      · obtain ⟨c, cs, hlexeme⟩ := exists_scan_of_mem (lexeme_mem_of_mem_body htoken)
        have hkind : token.kind = (scan c cs).kind := congrArg Lexeme.kind hlexeme
        rw [hkind]
        exact scan_kind_ne_endOfInput c cs
      · have hslice := (Stretch.of_mem (body_fills source) htoken).slice hsize
        rwa [List.flatMap_singleton] at hslice
    · rw [body, placeFrom_texts, lexemes_texts]
  · intro front next back hsplit
    obtain ⟨before, after, rfl, hrest⟩ := tokens_from hsplit
    obtain ⟨token, rest, htokens, hstart, hfirst⟩ := tokens_firstToken after
    refine ⟨before, after, rfl, ?_, ?_, hrest⟩
    all_goals
      rw [htokens, List.map_cons] at hrest
      obtain ⟨rfl, -⟩ := List.cons.inj hrest
    · have hle : before.bytes < UInt32.size := by
        rw [Text.bytes_append] at hsize
        omega
      show (token.span.start + before.bytes.toUInt32).toNat = before.bytes
      rw [hstart, UInt32.zero_add]
      exact UInt32.toNat_ofNat_of_lt' hle
    · exact hfirst

/-- A character of two bytes, a keyword, a comment, a string with an escaped quote, and a string
that is not closed. -/
theorem tokens_tile_openString :
    ∃ before after : Text, "é@a/**/\x22b\\\x22\x22'c".toList = before ++ after ∧ 13 = before.bytes ∧
      FirstToken .broken "'c".toList after ∧
      [⟨.broken, "'c".toList, ⟨13, 15⟩⟩, ⟨.endOfInput, [], ⟨15, 15⟩⟩] =
        (tokens after).map (Token.relocate (shift before.bytes)) := by
  have htokens : tokens "é@a/**/\x22b\\\x22\x22'c".toList =
      [⟨.plain, "é".toList, ⟨0, 2⟩⟩, ⟨.atKeyword, "@a".toList, ⟨2, 4⟩⟩,
        ⟨.comment, "/**/".toList, ⟨4, 8⟩⟩, ⟨.string, "\x22b\\\x22\x22".toList, ⟨8, 13⟩⟩] ++
      [⟨.broken, "'c".toList, ⟨13, 15⟩⟩, ⟨.endOfInput, [], ⟨15, 15⟩⟩] := by cbv
  exact (tokens_tile (by decide)).2 _ _ _ htokens

end StyleAudit.Css
