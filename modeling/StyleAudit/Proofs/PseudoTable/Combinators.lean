import StyleAudit.Proofs.Inquiry
import StyleAudit.Proofs.PseudoTable.Extent
import StyleAudit.Proofs.Words

/-!
# Combinators of a query

A combinator stands between two parts of a selector, and stripping works on each part alone. Where
nothing is left of a part, its combinator is left without one of its sides, and the query begins or
ends with it.

- `Text.head?_trim`, `Text.getLast?_trim`: the ends of a trimmed text.
- `Separates`, `strip_append`, `exists_split_of_strip`: a character that no token holds separates
  what is stripped before and after.
- `Dangles`: a text begins or ends with a combinator.
- `dangles_trim_iff`, `dangles_queryFor_iff`: when a trimmed text and a query do.
- `isUsed_query_dangles`: when the query that is put for a selector does.
-/

namespace StyleAudit

/-! ## The ends of a trimmed text -/

namespace Text

/-- The first character of a trimmed text is the first one that is no blank. -/
theorem head?_trim (text : Text) : (trim text).head? = text.find? (!isBlank ·) := by
  rw [List.find?_not_eq_head?_dropWhile, trim, ← trimStart]
  cases hstart : trimStart text with
  | nil => rfl
  | cons c cs =>
    have hc : ¬ isBlank c = true := by
      have hstop := List.head?_dropWhile_not isBlank text
      rw [← trimStart, hstart] at hstop
      simpa using hstop
    -- so something is left when blanks at the end go, and it starts as before
    have hne : trimEnd (c :: cs) ≠ [] := by
      intro hempty
      rw [trimEnd, List.reverse_eq_nil_iff, List.dropWhile_eq_nil_iff] at hempty
      exact hc (hempty c (List.mem_reverse.mpr List.mem_cons_self))
    obtain ⟨d, ds, hend⟩ := List.exists_cons_of_ne_nil hne
    have hlead := trimEnd_lead (c :: cs)
    rw [hend] at hlead ⊢
    rw [(List.cons_prefix_cons.mp hlead).1]
    rfl

/-- The last character of a trimmed text is the last one that is no blank. -/
theorem getLast?_trim (text : Text) : (trim text).getLast? = text.reverse.find? (!isBlank ·) := by
  have hlast : (trim text).getLast? = (trimStart text).reverse.find? (!isBlank ·) := by
    rw [List.find?_not_eq_head?_dropWhile, trim, trimEnd, List.getLast?_reverse]
  have hblanks : (text.takeWhile isBlank).reverse.find? (!isBlank ·) = none := by
    simp only [List.find?_eq_none, List.mem_reverse]
    intro c hc
    simpa using List.mem_takeWhile_imp hc
  rw [hlast, trimStart]
  nth_rewrite 2 [← List.takeWhile_append_dropWhile (p := isBlank) (l := text)]
  rw [List.reverse_append, List.find?_append, hblanks, Option.or_none]

theorem trim_eq_nil_iff {text : Text} : trim text = [] ↔ ∀ c ∈ text, isBlank c = true := by
  rw [← List.head?_eq_none_iff, head?_trim, List.find?_eq_none]
  simp

end Text

namespace PseudoTable

/-! ## Both sides of a separator -/

/-- A character at which a selector falls apart: it belongs to no name, and no token holds it. -/
structure Separates (tokens : List Text) (c : Char) : Prop where
  ne_colon : c ≠ ':'
  ends_name : Text.isNameChar c = false
  apart : ∀ token ∈ tokens, c ∉ token

/-- A pass works on both sides of a character that is not in the token. -/
theorem remove_append {token : Text} (hne : token ≠ []) {c : Char} (hc : c ∉ token)
    (hname : Text.isNameChar c = false) (front back : Text) :
    remove token (front ++ c :: back) = remove token front ++ c :: remove token back := by
  -- where the token starts the whole text, it starts what is before the separator
  have hlead : ∀ text : Text, token <+: text ++ c :: back → token <+: text := by
    rintro text ⟨rest, htext⟩
    have hstart : text ++ c :: back = [] ++ token ++ rest := htext.symm
    rcases Text.occurrence_append hc hstart with ⟨gap, htext, -⟩ | ⟨gap, hnil, -⟩
    · exact ⟨gap, htext.symm⟩
    · cases text <;> cases hnil
  induction front using Text.pass_induction hne with
  | nil =>
    have hskip : ¬ token <+: c :: back := fun h => hne (List.prefix_nil.mp (hlead [] h))
    rw [List.nil_append, remove_skip hskip]
    rfl
  | skip d ds hstart ih =>
    have hskip : ¬ token <+: d :: (ds ++ c :: back) := mt (hlead (d :: ds)) hstart
    rw [List.cons_append, remove_skip hskip, ih, remove_skip hstart]
    rfl
  | found rest ih =>
    have hsame : isContinued token (rest ++ c :: back) = isContinued token rest := by
      cases rest with
      | nil => simp [isContinued, hname]
      | cons d ds => rfl
    rw [List.append_assoc, remove_found hne, remove_found hne, hsame, ih, List.append_assoc]

theorem removeBoth_append {token : Text} (hne : token ≠ []) {c : Char} (hcolon : c ≠ ':')
    (hc : c ∉ token) (hname : Text.isNameChar c = false) (front back : Text) :
    removeBoth (front ++ c :: back) token =
      removeBoth front token ++ c :: removeBoth back token := by
  have hcolons : c ∉ ':' :: token := by
    rw [List.mem_cons, not_or]
    exact ⟨hcolon, hc⟩
  rw [removeBoth_eq hne, removeBoth_eq hne, removeBoth_eq hne,
    remove_append (List.cons_ne_nil _ _) hcolons hname, remove_append hne hc hname]

theorem foldl_removeBoth_append {tokens order : List Text} {c : Char} (h : Separates tokens c)
    (horder : order ⊆ tokens) (hne : ∀ token ∈ order, token ≠ []) (front back : Text) :
    order.foldl removeBoth (front ++ c :: back) =
      order.foldl removeBoth front ++ c :: order.foldl removeBoth back := by
  induction order generalizing front back with
  | nil => rfl
  | cons token rest ih =>
    obtain ⟨htoken, hrest⟩ := List.cons_subset.mp horder
    obtain ⟨hfirst, hlater⟩ := List.forall_mem_cons.mp hne
    rw [List.foldl_cons, removeBoth_append hfirst h.ne_colon (h.apart token htoken) h.ends_name,
      ih hrest hlater]
    rfl

section

variable {table : PseudoTable} (hnamed : ∀ token ∈ table.tokens, Named token) {c : Char}
  (hc : Separates table.tokens c)

include hnamed hc

/-- **Stripping works on both sides of a separator alone.** -/
theorem strip_append (front back : Text) :
    table.strip (front ++ c :: back) = table.strip front ++ c :: table.strip back :=
  foldl_removeBoth_append hc (fun _ htoken => mem_byLength.mp htoken) (byLength_ne_nil hnamed)
    front back

/-- **A separator that is left was there before**, between what the texts on its sides come from. -/
theorem exists_split_of_strip {selector before after : Text}
    (h : table.strip selector = before ++ c :: after) :
    ∃ front back, selector = front ++ c :: back ∧ table.strip front = before ∧
      table.strip back = after := by
  induction selector using Text.separated_induction (· == c) generalizing before with
  | free piece hfree =>
    -- what has no separator has none when it is stripped
    have hmem : c ∈ piece := (strip_sublist hnamed piece).subset (by simp [h])
    simpa using hfree c hmem
  | separated piece d rest hfree hd ih =>
    obtain rfl := beq_iff_eq.mp hd
    have hpiece : d ∉ table.strip piece := fun hmem => by
      simpa using hfree d ((strip_sublist hnamed piece).subset hmem)
    rw [strip_append hnamed hc] at h
    rcases List.append_eq_append_iff.mp h with ⟨gap, rfl, hgap⟩ | ⟨gap, hstripped, hgap⟩
    · cases gap with
      | nil =>
        obtain ⟨-, rfl⟩ := List.cons.inj hgap
        exact ⟨piece, rest, rfl, by simp, rfl⟩
      | cons e gap =>
        obtain ⟨rfl, hrest⟩ := List.cons.inj hgap
        obtain ⟨front, back, rfl, rfl, rfl⟩ := ih hrest
        exact ⟨piece ++ d :: front, back, by simp, strip_append hnamed hc piece front, rfl⟩
    · cases gap with
      | nil =>
        obtain ⟨-, rfl⟩ := List.cons.inj hgap
        exact ⟨piece, rest, rfl, by simpa using hstripped, rfl⟩
      | cons e gap =>
        obtain ⟨rfl, -⟩ := List.cons.inj hgap
        exact absurd (by simp [hstripped]) hpiece

end

/-! ## Queries -/

/-- A character that combines two parts of a selector. -/
def isCombinator (c : Char) : Bool := c == '>' || c == '+' || c == '~'

/-- A text begins or ends with a combinator. -/
def Dangles (text : Text) : Prop :=
  (∃ c ∈ text.head?, isCombinator c = true) ∨ ∃ c ∈ text.getLast?, isCombinator c = true

instance (text : Text) : Decidable (Dangles text) :=
  decidable_of_iff (text.head?.any isCombinator = true ∨ text.getLast?.any isCombinator = true)
    (by simp [Dangles, Option.any_eq_true])

theorem isCombinator_iff {c : Char} : isCombinator c = true ↔ c = '>' ∨ c = '+' ∨ c = '~' := by
  simp [isCombinator, or_assoc]

theorem not_blank_of_isCombinator {c : Char} (h : isCombinator c = true) :
    Text.isBlank c = false := by
  rcases isCombinator_iff.mp h with rfl | rfl | rfl <;> rfl

theorem separates_of_isCombinator {tokens : List Text}
    (hfree : ∀ token ∈ tokens, ∀ c ∈ token, isCombinator c = false) {c : Char}
    (h : isCombinator c = true) : Separates tokens c where
  ne_colon := by
    rintro rfl
    cases h
  ends_name := by
    rcases isCombinator_iff.mp h with rfl | rfl | rfl <;> rfl
  apart token htoken hmem := by
    rw [hfree token htoken c hmem] at h
    cases h

/-- **A trimmed text dangles iff a combinator has nothing but blanks on one side.** -/
theorem dangles_trim_iff (text : Text) :
    Dangles text.trim ↔ ∃ (before : Text) (c : Char) (after : Text), isCombinator c = true ∧
      text = before ++ c :: after ∧ (before.trim = [] ∨ after.trim = []) := by
  simp only [Dangles, Option.mem_def, Text.head?_trim, Text.getLast?_trim,
    List.find?_eq_some_iff_append, Text.trim_eq_nil_iff]
  constructor
  · rintro (⟨c, ⟨-, before, after, htext, hblank⟩, hc⟩ | ⟨c, ⟨-, before, after, htext, hblank⟩, hc⟩)
    · exact ⟨before, c, after, hc, htext, .inl (by simpa using hblank)⟩
    · -- the last character is the first one of the reversed text
      refine ⟨after.reverse, c, before.reverse, hc, ?_, .inr (by simpa using hblank)⟩
      have hreverse := congrArg List.reverse htext
      simpa using hreverse
  · rintro ⟨before, c, after, hc, rfl, hblank⟩
    have hnot : (!Text.isBlank c) = true := by rw [not_blank_of_isCombinator hc]; rfl
    rcases hblank with hblank | hblank
    · exact .inl ⟨c, ⟨hnot, before, after, rfl, by simpa using hblank⟩, hc⟩
    · exact .inr ⟨c, ⟨hnot, after.reverse, before.reverse, by simp, by simpa using hblank⟩, hc⟩

/-- The universal selector is no combinator. -/
theorem dangles_queryFor {table : PseudoTable} (selector : Text) :
    Dangles (table.queryFor selector) ↔ Dangles (table.strip selector).trim := by
  rw [queryFor]
  split
  · rename_i hempty
    rw [hempty]
    decide
  · rfl

/-- **A query dangles iff stripping leaves nothing on one side of a combinator** of the selector. -/
theorem dangles_queryFor_iff {table : PseudoTable} (hnamed : ∀ token ∈ table.tokens, Named token)
    (hfree : ∀ token ∈ table.tokens, ∀ c ∈ token, isCombinator c = false) (selector : Text) :
    Dangles (table.queryFor selector) ↔
      ∃ front c back, isCombinator c = true ∧ selector = front ++ c :: back ∧
        ((table.strip front).trim = [] ∨ (table.strip back).trim = []) := by
  rw [dangles_queryFor, dangles_trim_iff]
  constructor
  · rintro ⟨before, c, after, hc, hstrip, hempty⟩
    obtain ⟨front, back, rfl, rfl, rfl⟩ :=
      exists_split_of_strip hnamed (separates_of_isCombinator hfree hc) hstrip
    exact ⟨front, c, back, hc, rfl, hempty⟩
  · rintro ⟨front, c, back, hc, rfl, hempty⟩
    refine ⟨table.strip front, c, table.strip back, hc, ?_, hempty⟩
    exact strip_append hnamed (separates_of_isCombinator hfree hc) front back

end PseudoTable

open PseudoTable

/-- The first question about a selector puts its query. -/
theorem isUsed_record (document : Document) (table : PseudoTable) (selector : Text) :
    (isUsed document table selector).record.2 = [table.queryFor selector] := by
  have hmemory : Inquiry.empty.answers.lookup selector = none := rfl
  rw [Inquire.record_eq_runFrom, runFrom_isUsed, hmemory]
  cases document.query (table.queryFor selector) <;> rfl

/-- **The query that is put for a selector neither begins nor ends with a combinator iff stripping
leaves something on both sides of each combinator** of the selector. This is for all tables built by
additions whose tokens hold no combinators. -/
theorem isUsed_query_dangles {calls : List (List Text)}
    (hfree : ∀ token ∈ (calls.foldl withExtra standard).tokens, ∀ c ∈ token, isCombinator c = false)
    (document : Document) (selector : Text) :
    ∃ query, (isUsed document (calls.foldl withExtra standard) selector).record.2 = [query] ∧
      (¬ Dangles query ↔
        ∀ front c back, isCombinator c = true → selector = front ++ c :: back →
          ((calls.foldl withExtra standard).strip front).trim ≠ [] ∧
            ((calls.foldl withExtra standard).strip back).trim ≠ []) := by
  refine ⟨_, isUsed_record document _ selector, ?_⟩
  rw [dangles_queryFor_iff (named_tokens calls) hfree]
  push Not
  rfl

/-- Tokens on both sides of combinators, with something left on each side. -/
theorem isUsed_query_dangles_part :
    (isUsed ⟨fun _ => .ok true⟩ ([["::part".toList]].foldl withExtra standard)
        " a:hover >b::part~ :not(.c) ".toList).record.2 = ["a >b~ :not(.c)".toList] ∧
      ∀ front c back, isCombinator c = true →
        " a:hover >b::part~ :not(.c) ".toList = front ++ c :: back →
          (([["::part".toList]].foldl withExtra standard).strip front).trim ≠ [] ∧
            (([["::part".toList]].foldl withExtra standard).strip back).trim ≠ [] := by
  have hall : ([["::part".toList]].foldl withExtra standard).tokens.all
      (fun token => token.all fun c => !isCombinator c) = true := by decide +kernel
  have hfree : ∀ token ∈ ([["::part".toList]].foldl withExtra standard).tokens, ∀ c ∈ token,
      isCombinator c = false := by
    simpa only [List.all_eq_true, Bool.not_eq_true'] using hall
  have hquery : ([["::part".toList]].foldl withExtra standard).queryFor
      " a:hover >b::part~ :not(.c) ".toList = "a >b~ :not(.c)".toList := by cbv
  have hput := isUsed_record ⟨fun _ => .ok true⟩ ([["::part".toList]].foldl withExtra standard)
    " a:hover >b::part~ :not(.c) ".toList
  rw [hquery] at hput
  obtain ⟨query, hrecord, hiff⟩ := isUsed_query_dangles hfree ⟨fun _ => .ok true⟩
    " a:hover >b::part~ :not(.c) ".toList
  obtain ⟨rfl, -⟩ := List.cons.inj (hput.symm.trans hrecord)
  exact ⟨hput, hiff.mp (by decide +kernel)⟩

/-- The root is stripped, and its combinator has nothing before it. -/
theorem query_of_root_child :
    Text.trim ":root > a".toList ≠ [] ∧ ¬ Dangles (Text.trim ":root > a".toList) ∧
      (isUsed ⟨fun _ => .ok true⟩ standard ":root > a".toList).record.2 = ["> a".toList] ∧
      Dangles "> a".toList := by
  have hquery : standard.queryFor ":root > a".toList = "> a".toList := by cbv
  rw [isUsed_record, hquery]
  decide +kernel

end StyleAudit
