import StyleAudit.Proofs.Css.Derivation
import Mathlib

/-!
# No text of a stylesheet is lost

The spans of the rules of a stylesheet are laid out over its tokens, those of the rules in a media
block over the tokens of the block, and those of the declarations of a style rule likewise. Between
them are only separators.

- `Covers`: spans in order over some tokens, with nothing but separators outside of them.
- `Listed.covers`: items with separators between them cover their tokens.
- `BlockCovers`: spans cover the block of a rule.
- `parse_covers`: all of it for the rules that are read, and the place of a refusal.
-/

namespace StyleAudit.Css

/-! ## Spans over tokens -/

/-- Spans laid out in order over some tokens, all within a region. -/
structure Covers (tokens : List Token) (region : Span) (spans : List Span) : Prop where
  nonempty : ∀ span ∈ spans, span.start < span.stop
  within : ∀ span ∈ spans, region.start ≤ span.start ∧ span.stop ≤ region.stop
  /-- Each span starts where a token starts and stops where one stops. -/
  aligned : ∀ span ∈ spans, (∃ token ∈ tokens, token.span.start = span.start) ∧
    ∃ token ∈ tokens, token.span.stop = span.stop
  /-- Each span starts after the earlier ones have stopped. -/
  ordered : spans.Pairwise fun earlier later =>
    earlier.start < later.start ∧ earlier.stop ≤ later.start
  /-- A token outside of all spans is a separator. -/
  covered : ∀ token ∈ tokens, token.kind.separates = false → ∃ span ∈ spans, token.LiesIn span

namespace Covers

variable {tokens : List Token} {region : Span} {spans : List Span}

theorem nil (region : Span) : Covers [] region [] where
  nonempty := List.forall_mem_nil _
  within := List.forall_mem_nil _
  aligned := List.forall_mem_nil _
  ordered := .nil
  covered := List.forall_mem_nil _

/-- The same spans in a larger region. -/
theorem widen (h : Covers tokens region spans) {larger : Span}
    (hstart : larger.start ≤ region.start) (hstop : region.stop ≤ larger.stop) :
    Covers tokens larger spans :=
  { h with
    within := fun span hspan =>
      ⟨UInt32.le_trans hstart (h.within span hspan).1,
        UInt32.le_trans (h.within span hspan).2 hstop⟩ }

/-- One more separator. -/
theorem gap (h : Covers tokens region spans) {token : Token}
    (htoken : token.kind.separates = true) : Covers (tokens ++ [token]) region spans where
  nonempty := h.nonempty
  within := h.within
  aligned := by
    intro span hspan
    obtain ⟨⟨first, hfirst, hstart⟩, ⟨last, hlast, hstop⟩⟩ := h.aligned span hspan
    exact ⟨⟨first, List.mem_append_left _ hfirst, hstart⟩,
      ⟨last, List.mem_append_left _ hlast, hstop⟩⟩
  ordered := h.ordered
  covered := by
    intro other hother hkind
    rcases List.mem_append.mp hother with hother | hlast
    · exact h.covered other hother hkind
    · rw [List.mem_singleton.mp hlast, htoken] at hkind
      cases hkind

/-- One more span, where the region stops, over tokens of its own. -/
theorem concat {start : UInt32} {span : Span} (h : Covers tokens ⟨start, span.start⟩ spans)
    {part : List Token} (hne : part ≠ []) (hfills : Fills span.start part span.stop)
    (hgrows : Grows part) (hstart : start ≤ span.start) :
    Covers (tokens ++ part) ⟨start, span.stop⟩ (spans ++ [span]) where
  nonempty := by
    refine List.forall_mem_append.mpr ⟨h.nonempty, List.forall_mem_singleton.mpr ?_⟩
    exact hfills.lt hgrows hne
  within := by
    have hle := hfills.le hgrows
    refine List.forall_mem_append.mpr ⟨fun other hother => ?_, ?_⟩
    · exact ⟨(h.within other hother).1, UInt32.le_trans (h.within other hother).2 hle⟩
    · exact List.forall_mem_singleton.mpr ⟨hstart, UInt32.le_refl _⟩
  aligned := by
    refine List.forall_mem_append.mpr ⟨fun other hother => ?_, ?_⟩
    · obtain ⟨⟨first, hfirst, hfirstStart⟩, ⟨last, hlast, hlastStop⟩⟩ := h.aligned other hother
      exact ⟨⟨first, List.mem_append_left _ hfirst, hfirstStart⟩,
        ⟨last, List.mem_append_left _ hlast, hlastStop⟩⟩
    · refine List.forall_mem_singleton.mpr ⟨?_, ?_⟩
      · obtain ⟨first, hfirst, hfirstStart⟩ := hfills.startsAt hne
        exact ⟨first, List.mem_append_right _ (List.mem_of_mem_head? hfirst), hfirstStart⟩
      · obtain ⟨front, last, rfl⟩ := List.eq_nil_or_concat part |>.resolve_left hne
        rw [List.concat_eq_append] at hfills ⊢
        exact ⟨last, by simp, (fills_concat.mp hfills).2⟩
  ordered := by
    refine List.pairwise_append.mpr ⟨h.ordered, List.pairwise_singleton _ _, ?_⟩
    intro earlier hearlier later hlater
    rw [List.mem_singleton.mp hlater]
    have hstop := (h.within earlier hearlier).2
    exact ⟨UInt32.lt_of_lt_of_le (h.nonempty earlier hearlier) hstop, hstop⟩
  covered := by
    intro token htoken hkind
    rcases List.mem_append.mp htoken with htoken | hpart
    · obtain ⟨other, hother, hlies⟩ := h.covered token htoken hkind
      exact ⟨other, List.mem_append_left _ hother, hlies⟩
    · exact ⟨span, by simp, hfills.liesIn hgrows hpart⟩

end Covers

/-- **Items with separators between them cover their tokens.** -/
theorem Listed.covers {α : Type} {written : α → List Token → Prop} {spanOf : α → Span}
    (hwritten : ∀ item part, written item part →
      part ≠ [] ∧ Fills (spanOf item).start part (spanOf item).stop)
    {items : List α} {tokens : List Token} (h : Listed written items tokens)
    {start stop : UInt32} (hfills : Fills start tokens stop) (hgrows : Grows tokens) :
    Covers tokens ⟨start, stop⟩ (items.map spanOf) := by
  induction h generalizing stop with
  | nil => exact .nil _
  | @gap items tokens token before separates ih =>
    obtain ⟨htokens, rfl⟩ := fills_concat.mp hfills
    obtain ⟨hgrowsTokens, hgrowsToken⟩ := List.forall_mem_append.mp hgrows
    -- the region grows by a separator, and the spans stay
    have hcovers := ih htokens hgrowsTokens
    have htoken := List.forall_mem_singleton.mp hgrowsToken
    exact (hcovers.gap separates).widen (UInt32.le_refl _) (UInt32.le_of_lt htoken)
  | @item items tokens part item before isWritten ih =>
    obtain ⟨hne, hpart⟩ := hwritten item part isWritten
    obtain ⟨htokens, hpart'⟩ := hfills.split (hpart.startsAt hne)
    obtain ⟨hgrowsTokens, hgrowsPart⟩ := List.forall_mem_append.mp hgrows
    -- the new span starts where the region stopped
    have hcovers := ih htokens hgrowsTokens
    rw [hpart'.stop_eq hpart, List.map_append]
    exact hcovers.concat hne hpart hgrowsPart (htokens.le hgrowsTokens)

/-! ## Blocks -/

/-- The tokens of a span are a header, an opening brace, a block and a closing brace, and other
spans are laid out over the block. -/
def BlockCovers (source : Text) (span : Span) (spans : List Span) : Prop :=
  ∃ opening inside closing,
    tokensIn source span =
      header 0 (tokensIn source span) ++ opening :: (inside ++ [closing]) ∧
    opening.kind = .openBrace ∧ closing.kind = .closeBrace ∧ Covers inside span spans

/-- The block of a rule, if it is one that is read, is covered by what it holds. -/
def Rule.BlockCovered (source : Text) : Rule → Prop
  | .style rule => BlockCovers source rule.span (rule.declarations.map Declaration.span)
  | .media _ rules span => BlockCovers source span (rules.map Rule.span)
  | .atRule .. => True

/-- A header and a block with items in it. -/
theorem Listed.blockCovers {α : Type} {written : α → List Token → Prop} {spanOf : α → Span}
    (hwritten : ∀ item part, written item part →
      part ≠ [] ∧ Fills (spanOf item).start part (spanOf item).stop)
    {source : Text} (hsize : source.bytes < UInt32.size) {span : Span} {head inside : List Token}
    {opening closing : Token} (hgathered : Gathered Kind.headerEnds 0 head)
    (hopens : opening.kind = .openBrace) (hcloses : closing.kind = .closeBrace)
    {items : List α} (hitems : Listed written items inside)
    (hstretch : Stretch (body source) span (head ++ opening :: (inside ++ [closing]))) :
    BlockCovers source span (items.map spanOf) := by
  refine ⟨opening, inside, closing, ?_, hopens, hcloses, ?_⟩
  · rw [hstretch.tokensIn_eq hsize, hgathered.header_eq hopens]
  · -- the block lies strictly between the braces, so what covers it is within the rule
    have hgrows := (body_grows hsize).of_part hstretch.isInfix
    obtain ⟨middle, hhead, rfl, hrest⟩ := fills_append.mp hstretch.fills
    obtain ⟨hinside, hclosing⟩ := fills_concat.mp hrest
    obtain ⟨hgrowsHead, hgrowsBlock⟩ := List.forall_mem_append.mp hgrows
    obtain ⟨hgrowsOpening, hgrowsRest⟩ := List.forall_mem_cons.mp hgrowsBlock
    obtain ⟨hgrowsInside, hgrowsClosing⟩ := List.forall_mem_append.mp hgrowsRest
    have hcovers := hitems.covers hwritten hinside hgrowsInside
    have hlast := hgrowsClosing closing List.mem_cons_self
    refine hcovers.widen ?_ ?_
    · exact UInt32.le_trans (hhead.le hgrowsHead) (UInt32.le_of_lt hgrowsOpening)
    · rw [← hclosing]
      exact UInt32.le_of_lt hlast

/-- **What a rule holds covers its block**, if the rule is written among the tokens of a source. -/
theorem Rule.WrittenAs.blockCovered {source : Text} (hsize : source.bytes < UInt32.size) {rule : Rule}
    {part : List Token} (h : rule.WrittenAs part) (hwithin : part <:+: body source) :
    rule.BlockCovered source := by
  obtain ⟨hne, hfills⟩ := h.fills_span
  have hstretch := Stretch.of_part (body_fills source) hwithin hfills hne
  cases h with
  | style isWritten =>
    obtain ⟨gathered, opens, declarations, closes, _, _⟩ := isWritten
    exact declarations.blockCovers (fun _ _ h => h.fills_span) hsize gathered opens closes hstretch
  | media preface _ opens inner closes _ =>
    exact inner.blockCovers (fun _ _ h => h.fills_span) hsize preface.gathered opens closes hstretch
  | statement => trivial
  | «sealed» => trivial

/-! ## The rules of a source -/

/-- **No text is lost.** The spans of the rules that are read are laid out over the tokens of the
source, and so are the spans of what each block holds over the tokens of the block. A refusal names
a part of the source. -/
theorem parse_covers (source : Text) (hsize : source.bytes < UInt32.size) :
    (∀ sheet, parse source = .ok sheet →
      Covers (body source) ⟨0, (endToken source).span.start⟩ (sheet.rules.map Rule.span) ∧
      ∀ rule : Rule, rule.IsAmong sheet.rules → rule.BlockCovered source) ∧
    ∀ error, parse source = .error error →
      error.span.start ≤ error.span.stop ∧ error.span.stop.toNat ≤ source.bytes ∧
      ∃ text, error.span.slice? source = some text := by
  have htracked := parse_tracked source
  constructor
  · intro sheet hsheet
    rw [hsheet] at htracked
    have hlisted : Listed Rule.WrittenAs sheet.rules (body source) := htracked
    refine ⟨?_, ?_⟩
    · exact hlisted.covers (fun _ _ h => h.fills_span) (body_fills source) (body_grows hsize)
    · intro rule hrule
      obtain ⟨part, hwritten, hwithin⟩ := exists_written_of_isAmong hrule hlisted
      exact hwritten.blockCovered hsize hwithin
  · intro error herror
    rw [herror] at htracked
    obtain ⟨part, hstretch⟩ := htracked
    obtain ⟨hstart, hstop⟩ := hstretch.bounds hsize
    exact ⟨hstart, hstop, _, hstretch.slice hsize⟩

/-- A media block with a style rule, a separator and a statement, and a block that is not closed. -/
theorem parse_covers_media :
    (Covers (body "@media x\x7b.a,b\x7btop:0;c:d\x7d;@import y\x7d".toList) ⟨0, 35⟩ [⟨0, 35⟩] ∧
      BlockCovers "@media x\x7b.a,b\x7btop:0;c:d\x7d;@import y\x7d".toList ⟨0, 35⟩
        [⟨9, 24⟩, ⟨25, 34⟩] ∧
      BlockCovers "@media x\x7b.a,b\x7btop:0;c:d\x7d;@import y\x7d".toList ⟨9, 24⟩
        [⟨14, 20⟩, ⟨20, 23⟩]) ∧
    ∃ error, parse ".a\x7btop:0".toList = .error error ∧
      ∃ text, error.span.slice? ".a\x7btop:0".toList = some text := by
  have hparse : parse "@media x\x7b.a,b\x7btop:0;c:d\x7d;@import y\x7d".toList =
      .ok ⟨[.media "x".toList
        [.style ⟨[".a".toList, "b".toList],
            [⟨"top".toList, "0".toList, ⟨14, 20⟩⟩, ⟨"c".toList, "d".toList, ⟨20, 23⟩⟩], ⟨9, 24⟩⟩,
          .atRule "import".toList "y".toList false ⟨25, 34⟩] ⟨0, 35⟩]⟩ := by cbv
  have hopen : parse ".a\x7btop:0".toList = .error ⟨.missingCloseBrace, ⟨2, 3⟩⟩ := by cbv
  obtain ⟨hrules, hblocks⟩ := (parse_covers _ (by decide)).1 _ hparse
  obtain ⟨-, -, hslice⟩ := (parse_covers _ (by decide)).2 _ hopen
  refine ⟨⟨hrules, ?_, ?_⟩, _, hopen, hslice⟩
  · exact hblocks _ (.listed List.mem_cons_self)
  · exact hblocks _ (.inside List.mem_cons_self (.listed List.mem_cons_self))

end StyleAudit.Css
