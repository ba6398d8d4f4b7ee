import StyleAudit.Css.Token
import StyleAudit.Proofs.Text

/-!
# Stretches of tokens

The tokens of a source follow each other without gaps, so what lies between two token boundaries is
a stretch of the token list, and the text of that stretch is what the source holds there.

- `Fills`: tokens that follow each other without gaps from one offset to another.
- `Stretch`: a span of a token list together with the tokens that fill it.
- `Token.LiesIn`, `tokensIn`: the tokens of a source inside a span.
- `body_fills`, `body_grows`: the tokens of a source fill it, and none is empty.
- `Stretch.slice`, `Stretch.tokensIn_eq`: text and tokens of a stretch are those of its span.

Offsets are 32-bit words, so order and slices need a source shorter than 2^32 bytes.
-/

namespace StyleAudit.Css

/-! ## Tokens without gaps -/

/-- The tokens follow each other without gaps from `start` to `stop`. -/
def Fills (start : UInt32) : List Token → UInt32 → Prop
  | [], stop => start = stop
  | token :: rest, stop => token.span.start = start ∧ Fills token.span.stop rest stop

theorem fills_append {start stop : UInt32} {xs ys : List Token} :
    Fills start (xs ++ ys) stop ↔ ∃ middle, Fills start xs middle ∧ Fills middle ys stop := by
  induction xs generalizing start with
  | nil =>
    constructor
    · intro h
      exact ⟨start, rfl, h⟩
    · rintro ⟨middle, rfl, h⟩
      exact h
  | cons token rest ih =>
    constructor
    · rintro ⟨hstart, hrest⟩
      obtain ⟨middle, hxs, hys⟩ := ih.mp hrest
      exact ⟨middle, ⟨hstart, hxs⟩, hys⟩
    · rintro ⟨middle, ⟨hstart, hxs⟩, hys⟩
      exact ⟨hstart, ih.mpr ⟨middle, hxs, hys⟩⟩

/-- One more token, where the others stop. -/
theorem Fills.concat {start : UInt32} {tokens : List Token} {token : Token}
    (h : Fills start tokens token.span.start) :
    Fills start (tokens ++ [token]) token.span.stop :=
  fills_append.mpr ⟨token.span.start, h, rfl, rfl⟩

theorem fills_concat {start stop : UInt32} {tokens : List Token} {token : Token} :
    Fills start (tokens ++ [token]) stop ↔
      Fills start tokens token.span.start ∧ token.span.stop = stop := by
  constructor
  · intro h
    obtain ⟨middle, htokens, hmiddle, hstop⟩ := fills_append.mp h
    subst hmiddle
    exact ⟨htokens, hstop⟩
  · rintro ⟨htokens, rfl⟩
    exact htokens.concat

/-- The first token is at `start`. -/
def StartsAt (start : UInt32) (tokens : List Token) : Prop :=
  ∃ token ∈ tokens.head?, token.span.start = start

theorem StartsAt.append {start : UInt32} {tokens : List Token} (h : StartsAt start tokens)
    (more : List Token) : StartsAt start (tokens ++ more) := by
  obtain ⟨token, htoken, hstart⟩ := h
  refine ⟨token, ?_, hstart⟩
  rw [List.head?_append, Option.mem_def.mp htoken]
  rfl

/-- Where the tokens of a tail start, the ones before it stop. -/
theorem Fills.split {start middle stop : UInt32} {front part : List Token}
    (h : Fills start (front ++ part) stop) (hpart : StartsAt middle part) :
    Fills start front middle ∧ Fills middle part stop := by
  obtain ⟨here, hfront, hrest⟩ := fills_append.mp h
  obtain ⟨token, htoken, rfl⟩ := hpart
  obtain ⟨rest, rfl⟩ := List.head?_eq_some_iff.mp htoken
  obtain ⟨rfl, hrest⟩ := hrest
  exact ⟨hfront, rfl, hrest⟩

theorem Fills.startsAt {start stop : UInt32} {tokens : List Token} (h : Fills start tokens stop)
    (hne : tokens ≠ []) : StartsAt start tokens := by
  cases tokens with
  | nil => exact absurd rfl hne
  | cons token rest => exact ⟨token, rfl, h.1⟩

/-! ## Order -/

/-- No token is empty. -/
def Grows (tokens : List Token) : Prop := ∀ token ∈ tokens, token.span.start < token.span.stop

theorem Grows.of_part {part tokens : List Token} (h : Grows tokens) (hpart : part <:+: tokens) :
    Grows part :=
  fun token htoken => h token (hpart.subset htoken)

theorem Fills.le {start stop : UInt32} {tokens : List Token} (h : Fills start tokens stop)
    (hgrows : Grows tokens) : start ≤ stop := by
  induction tokens generalizing start with
  | nil => exact UInt32.le_of_eq h
  | cons token rest ih =>
    obtain ⟨htoken, hrest⟩ := List.forall_mem_cons.mp hgrows
    obtain ⟨rfl, hfills⟩ := h
    exact UInt32.le_of_lt (UInt32.lt_of_lt_of_le htoken (ih hfills hrest))

theorem Fills.lt {start stop : UInt32} {tokens : List Token} (h : Fills start tokens stop)
    (hgrows : Grows tokens) (hne : tokens ≠ []) : start < stop := by
  cases tokens with
  | nil => exact absurd rfl hne
  | cons token rest =>
    obtain ⟨htoken, hrest⟩ := List.forall_mem_cons.mp hgrows
    obtain ⟨rfl, hfills⟩ := h
    exact UInt32.lt_of_lt_of_le htoken (hfills.le hrest)

/-- A token lies in a span. -/
def Token.LiesIn (token : Token) (span : Span) : Prop :=
  span.start ≤ token.span.start ∧ token.span.stop ≤ span.stop

instance (token : Token) (span : Span) : Decidable (token.LiesIn span) :=
  inferInstanceAs (Decidable (span.start ≤ token.span.start ∧ token.span.stop ≤ span.stop))

/-- Each of the tokens that fill a span lies in it. -/
theorem Fills.liesIn {start stop : UInt32} {tokens : List Token} (h : Fills start tokens stop)
    (hgrows : Grows tokens) {token : Token} (htoken : token ∈ tokens) :
    token.LiesIn ⟨start, stop⟩ := by
  obtain ⟨front, back, rfl⟩ := List.append_of_mem htoken
  obtain ⟨middle, hfront, rfl, hback⟩ := fills_append.mp h
  have hgrowsFront := hgrows.of_part (List.prefix_append front _).isInfix
  have hgrowsBack : Grows back := hgrows.of_part ⟨front ++ [token], [], by simp⟩
  exact ⟨hfront.le hgrowsFront, hback.le hgrowsBack⟩

/-! ## Stretches -/

/-- The tokens `part` of a list fill a span. -/
def Stretch (tokens : List Token) (span : Span) (part : List Token) : Prop :=
  ∃ front back, tokens = front ++ part ++ back ∧ Fills 0 front span.start ∧
    Fills span.start part span.stop

namespace Stretch

variable {tokens part : List Token} {span : Span}

theorem fills (h : Stretch tokens span part) : Fills span.start part span.stop := by
  obtain ⟨_, _, _, _, hpart⟩ := h
  exact hpart

theorem isInfix (h : Stretch tokens span part) : part <:+: tokens := by
  obtain ⟨front, back, rfl, _, _⟩ := h
  exact ⟨front, back, rfl⟩

theorem append (h : Stretch tokens span part) (more : List Token) :
    Stretch (tokens ++ more) span part := by
  obtain ⟨front, back, rfl, hfront, hpart⟩ := h
  exact ⟨front, back ++ more, by simp, hfront, hpart⟩

/-- A part of the list that has tokens is a stretch. -/
theorem of_part {stop : UInt32} (htokens : Fills 0 tokens stop) (hpart : part <:+: tokens)
    (hfills : Fills span.start part span.stop) (hne : part ≠ []) : Stretch tokens span part := by
  obtain ⟨front, back, rfl⟩ := hpart
  have hstarts := (hfills.startsAt hne).append back
  rw [List.append_assoc] at htokens
  exact ⟨front, back, rfl, (htokens.split hstarts).1, hfills⟩

/-- A part at the end of the list, whatever its last token is. -/
theorem of_suffix {front : List Token} {start stop : UInt32} (h : Fills 0 (front ++ part) stop)
    (hpart : StartsAt start part) : Stretch (front ++ part) ⟨start, stop⟩ part := by
  obtain ⟨hfront, hfills⟩ := h.split hpart
  exact ⟨front, [], by simp, hfront, hfills⟩

/-- A single token. -/
theorem of_mem {stop : UInt32} (htokens : Fills 0 tokens stop) {token : Token}
    (h : token ∈ tokens) : Stretch tokens token.span [token] := by
  obtain ⟨front, back, rfl⟩ := List.append_of_mem h
  exact of_part htokens ⟨front, back, by simp⟩ ⟨rfl, rfl⟩ (List.cons_ne_nil _ _)

end Stretch

/-! ## The tokens of a source -/

theorem placeFrom_append (offset : Nat) (xs ys : List Lexeme) :
    placeFrom offset (xs ++ ys) =
      placeFrom offset xs ++ placeFrom (offset + Text.bytes (xs.flatMap Lexeme.text)) ys := by
  induction xs generalizing offset with
  | nil => rfl
  | cons lexeme rest ih =>
    rw [List.cons_append, placeFrom, placeFrom, ih, List.flatMap_cons, Text.bytes_append,
      Nat.add_assoc, List.cons_append]

/-- A list of tokens that are given their places is cut where their texts are. -/
theorem placeFrom_eq_append {offset : Nat} {lexemes : List Lexeme} {xs ys : List Token}
    (h : placeFrom offset lexemes = xs ++ ys) :
    ∃ before after, lexemes = before ++ after ∧ xs = placeFrom offset before ∧
      ys = placeFrom (offset + Text.bytes (before.flatMap Lexeme.text)) after := by
  induction xs generalizing offset lexemes with
  | nil => exact ⟨[], lexemes, rfl, rfl, h.symm⟩
  | cons token rest ih =>
    cases lexemes with
    | nil => cases h
    | cons lexeme others =>
      rw [placeFrom, List.cons_append, List.cons.injEq] at h
      obtain ⟨htoken, hrest⟩ := h
      obtain ⟨before, after, rfl, hxs, hys⟩ := ih hrest
      refine ⟨lexeme :: before, after, rfl, ?_, ?_⟩
      · rw [placeFrom, htoken, hxs]
      · rw [hys, List.flatMap_cons, Text.bytes_append, Nat.add_assoc]

/-- A token without its place. -/
def Token.lexeme (token : Token) : Lexeme := ⟨token.kind, token.text⟩

theorem placeFrom_lexemes (offset : Nat) (lexemes : List Lexeme) :
    (placeFrom offset lexemes).map Token.lexeme = lexemes := by
  induction lexemes generalizing offset with
  | nil => rfl
  | cons lexeme rest ih =>
    rw [placeFrom, List.map_cons, ih]
    rfl

/-- A token of a source is one of its tokens without places. -/
theorem lexeme_mem_of_mem_body {source : Text} {token : Token} (h : token ∈ body source) :
    token.lexeme ∈ lexemes source := by
  rw [← placeFrom_lexemes 0 (lexemes source)]
  exact List.mem_map_of_mem h

theorem placeFrom_texts (offset : Nat) (lexemes : List Lexeme) :
    (placeFrom offset lexemes).flatMap Token.text = lexemes.flatMap Lexeme.text := by
  have htexts : (placeFrom offset lexemes).flatMap Token.text =
      ((placeFrom offset lexemes).map Token.lexeme).flatMap Lexeme.text := by
    rw [List.flatMap_map]
    rfl
  rw [htexts, placeFrom_lexemes]

theorem placeFrom_fills (offset : Nat) (lexemes : List Lexeme) :
    Fills offset.toUInt32 (placeFrom offset lexemes)
      (offset + Text.bytes (lexemes.flatMap Lexeme.text)).toUInt32 := by
  induction lexemes generalizing offset with
  | nil => rfl
  | cons lexeme rest ih =>
    refine ⟨rfl, ?_⟩
    rw [List.flatMap_cons, Text.bytes_append, ← Nat.add_assoc]
    exact ih _

/-- **The tokens of a source fill it.** -/
theorem body_fills (source : Text) : Fills 0 (body source) (endToken source).span.start := by
  have h := placeFrom_fills 0 (lexemes source)
  rwa [lexemes_texts, Nat.zero_add] at h

theorem Fills.stop_eq {start stop stop' : UInt32} {tokens : List Token}
    (h : Fills start tokens stop) (h' : Fills start tokens stop') : stop = stop' := by
  induction tokens generalizing start with
  | nil => exact h.symm.trans h'
  | cons token rest ih => exact ih h.2 h'.2

/-- Where a stretch of the tokens of a source lies: in bytes of the texts before it and of its
own. -/
theorem Stretch.offsets {source : Text} {span : Span} {part : List Token}
    (h : Stretch (body source) span part) (hsize : source.bytes < UInt32.size) :
    ∃ before after, source = before ++ part.flatMap Token.text ++ after ∧
      span.start.toNat = Text.bytes before ∧
      span.stop.toNat = Text.bytes before + Text.bytes (part.flatMap Token.text) := by
  obtain ⟨front, back, hbody, hfront, hpart⟩ := h
  rw [body, List.append_assoc] at hbody
  -- the two cuts of the placed tokens are cuts of the tokens without places, so of the source
  obtain ⟨before, others, hlexemes, rfl, hrest⟩ := placeFrom_eq_append hbody
  obtain ⟨inside, after, rfl, rfl, -⟩ := placeFrom_eq_append hrest.symm
  have htexts : source =
      before.flatMap Lexeme.text ++ inside.flatMap Lexeme.text ++ after.flatMap Lexeme.text := by
    rw [← lexemes_texts source, hlexemes, List.flatMap_append, List.flatMap_append,
      List.append_assoc]
  have hbytes := congrArg Text.bytes htexts
  rw [Text.bytes_append, Text.bytes_append] at hbytes
  -- offsets are sums of bytes kept in 32 bits, and no sum passes the length of the source
  have hstart := hfront.stop_eq (placeFrom_fills 0 before)
  rw [Nat.zero_add] at hstart hpart
  rw [hstart] at hpart
  have hstop := hpart.stop_eq (placeFrom_fills _ inside)
  refine ⟨before.flatMap Lexeme.text, after.flatMap Lexeme.text, ?_, ?_, ?_⟩
  · rw [placeFrom_texts, ← htexts]
  · rw [hstart]
    exact UInt32.toNat_ofNat_of_lt' (Nat.lt_of_le_of_lt (by omega) hsize)
  · rw [hstop, placeFrom_texts]
    exact UInt32.toNat_ofNat_of_lt' (Nat.lt_of_le_of_lt (by omega) hsize)

/-- **No token of a source is empty.** -/
theorem body_grows {source : Text} (hsize : source.bytes < UInt32.size) : Grows (body source) := by
  intro token htoken
  obtain ⟨before, after, -, hstart, hstop⟩ :=
    (Stretch.of_mem (body_fills source) htoken).offsets hsize
  have hne : token.text ≠ [] := lexeme_text_ne_nil (lexeme_mem_of_mem_body htoken)
  have hpos := Text.bytes_pos hne
  rw [List.flatMap_singleton] at hstop
  rw [UInt32.lt_iff_toNat_lt]
  omega

/-- The text of a stretch is what its span covers. -/
theorem Stretch.slice {source : Text} {span : Span} {part : List Token}
    (h : Stretch (body source) span part) (hsize : source.bytes < UInt32.size) :
    span.slice? source = some (part.flatMap Token.text) := by
  obtain ⟨before, after, hsource, hstart, hstop⟩ := h.offsets hsize
  have hslice := Text.slice?_append before (part.flatMap Token.text) after
  rwa [← hsource, ← hstop, ← hstart] at hslice

/-- A stretch lies within the source. -/
theorem Stretch.bounds {source : Text} {span : Span} {part : List Token}
    (h : Stretch (body source) span part) (hsize : source.bytes < UInt32.size) :
    span.start ≤ span.stop ∧ span.stop.toNat ≤ source.bytes := by
  obtain ⟨before, after, hsource, hstart, hstop⟩ := h.offsets hsize
  have hbytes := congrArg Text.bytes hsource
  rw [Text.bytes_append, Text.bytes_append] at hbytes
  rw [UInt32.le_iff_toNat_le]
  omega

/-! ## The tokens in a span -/

/-- The tokens of a source that lie in a span. -/
def tokensIn (source : Text) (span : Span) : List Token :=
  (body source).filter fun token => token.LiesIn span

/-- The tokens of a source from an offset on. -/
def tokensFrom (source : Text) (start : UInt32) : List Token :=
  (body source).filter fun token => start ≤ token.span.start

/-- The tokens before a stretch do not reach into it, those after it do not start before its end. -/
theorem Stretch.outside {source : Text} {span : Span} {front part back : List Token}
    (hbody : body source = front ++ part ++ back) (hfront : Fills 0 front span.start)
    (hpart : Fills span.start part span.stop) (hsize : source.bytes < UInt32.size) :
    (∀ token ∈ front, token.span.start < span.start) ∧
      ∀ token ∈ back, span.stop ≤ token.span.start ∧ span.stop < token.span.stop := by
  have hgrows := body_grows hsize
  rw [hbody] at hgrows
  have hbody' := body_fills source
  rw [hbody] at hbody'
  obtain ⟨stop, hstretch, hback⟩ := fills_append.mp hbody'
  have hstop : span.stop = stop := (fills_append.mpr ⟨_, hfront, hpart⟩).stop_eq hstretch
  subst hstop
  constructor
  · intro token htoken
    have hlies := hfront.liesIn (hgrows.of_part ⟨[], part ++ back, by simp⟩) htoken
    have htokenGrows := hgrows token (by simp [htoken])
    exact UInt32.lt_of_lt_of_le htokenGrows hlies.2
  · intro token htoken
    have hlies := hback.liesIn (hgrows.of_part (List.suffix_append _ back).isInfix) htoken
    have htokenGrows := hgrows token (by simp [htoken])
    exact ⟨hlies.1, UInt32.lt_of_le_of_lt hlies.1 htokenGrows⟩

/-- The tokens of a stretch are those that lie in its span. -/
theorem Stretch.tokensIn_eq {source : Text} {span : Span} {part : List Token}
    (h : Stretch (body source) span part) (hsize : source.bytes < UInt32.size) :
    tokensIn source span = part := by
  obtain ⟨front, back, hbody, hfront, hpart⟩ := h
  obtain ⟨hbefore, hafter⟩ := Stretch.outside hbody hfront hpart hsize
  have hgrows := body_grows hsize
  rw [hbody] at hgrows
  have hnoneBefore : front.filter (fun token => token.LiesIn span) = [] := by
    refine List.filter_eq_nil_iff.mpr fun token htoken hlies => ?_
    exact absurd (hbefore token htoken) (UInt32.not_lt.mpr (decide_eq_true_iff.mp hlies).1)
  have hnoneAfter : back.filter (fun token => token.LiesIn span) = [] := by
    refine List.filter_eq_nil_iff.mpr fun token htoken hlies => ?_
    exact absurd (hafter token htoken).2 (UInt32.not_lt.mpr (decide_eq_true_iff.mp hlies).2)
  have hall : part.filter (fun token => token.LiesIn span) = part := by
    refine List.filter_eq_self.mpr fun token htoken => decide_eq_true ?_
    exact hpart.liesIn (hgrows.of_part ⟨front, back, rfl⟩) htoken
  rw [tokensIn, hbody, List.filter_append, List.filter_append, hnoneBefore, hnoneAfter, hall]
  simp

/-- From the start of a stretch on there are its tokens and then others. -/
theorem Stretch.tokensFrom_eq {source : Text} {span : Span} {part : List Token}
    (h : Stretch (body source) span part) (hsize : source.bytes < UInt32.size) :
    ∃ back, tokensFrom source span.start = part ++ back := by
  obtain ⟨front, back, hbody, hfront, hpart⟩ := h
  obtain ⟨hbefore, hafter⟩ := Stretch.outside hbody hfront hpart hsize
  have hgrows := body_grows hsize
  rw [hbody] at hgrows
  have hle := hpart.le (hgrows.of_part ⟨front, back, rfl⟩)
  have hnoneBefore : front.filter (fun token => span.start ≤ token.span.start) = [] := by
    refine List.filter_eq_nil_iff.mpr fun token htoken hlies => ?_
    exact absurd (hbefore token htoken) (UInt32.not_lt.mpr (decide_eq_true_iff.mp hlies))
  have hall : (part ++ back).filter (fun token => span.start ≤ token.span.start) =
      part ++ back := by
    refine List.filter_eq_self.mpr fun token htoken => decide_eq_true ?_
    rcases List.mem_append.mp htoken with hin | hback
    · exact (hpart.liesIn (hgrows.of_part ⟨front, back, rfl⟩) hin).1
    · exact UInt32.le_trans hle (hafter token hback).1
  refine ⟨back, ?_⟩
  rw [tokensFrom, hbody, List.append_assoc, List.filter_append, hnoneBefore, hall]
  rfl

end StyleAudit.Css
