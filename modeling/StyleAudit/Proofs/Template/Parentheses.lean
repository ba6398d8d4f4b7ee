import StyleAudit.Proofs.Balance
import StyleAudit.Proofs.OneLine
import StyleAudit.Proofs.Template.Layout

/-!
# Parentheses of a page

A host call loses its parentheses, and the closing one is looked for in the same word. So a page
keeps its parentheses balanced exactly if every host call is closed in the word that opens it.

- `ParensBalanced`, `parens`: parentheses that are balanced, and the parentheses of a text.
- `CallsClosed`: every host call of a word is closed in it.
- `closing?_leads`, `exists_leads_of_closing?`: what stands before the parenthesis that closes a
  call, and a text in which there is none.
- `hostCallsToRoot_alike`, `surplus_hostCallsToRoot`: a word whose calls are closed leads as before,
  and any other one opens less than before.
- `parensBalanced_hostToRoot_iff`: both for the words of a page.
- `Retagged`, `retagged_substituteTags`: substituting tags leaves parentheses and calls alone.
- `normalize_parens`: all of it for a source.
-/

namespace StyleAudit.Template

/-! ## Parentheses -/

/-- An opening parenthesis. -/
def opensParen (c : Char) : Bool := c == '('

/-- A closing parenthesis. -/
def closesParen (c : Char) : Bool := c == ')'

/-- The parentheses of a text are balanced. -/
def ParensBalanced (text : Text) : Prop := Balanced opensParen closesParen text

instance (text : Text) : Decidable (ParensBalanced text) :=
  inferInstanceAs (Decidable (Balanced opensParen closesParen text))

/-- The parentheses of a text. -/
def parens (text : Text) : Text := bracketsOf opensParen closesParen text

/-- Every host call of a word is closed in it: some start of what follows the call closes more
parentheses than it opens. -/
def CallsClosed (word : Text) : Prop :=
  ∀ before after, word = before ++ hostCall ++ after → Overcloses opensParen closesParen after

theorem parens_append (a b : Text) : parens (a ++ b) = parens a ++ parens b := List.filter_append ..

theorem parens_of_blank {c : Char} (h : Text.isBlank c = true) (text : Text) :
    parens (c :: text) = parens text := by
  have hneither : ¬ (opensParen c || closesParen c) = true := by
    rw [Bool.or_eq_true, opensParen, closesParen, beq_iff_eq, beq_iff_eq]
    rintro (rfl | rfl) <;> cases h
  simp only [parens, bracketsOf, List.filter_cons, if_neg hneither]

/-- The parentheses of a text are those of its words. -/
theorem parens_words (text : Text) : parens text.words.flatten = parens text := by
  induction text using Text.words_induction with
  | nil => rfl
  | word word hword => rw [hword.words_eq, List.flatten_singleton]
  | blank front c rest hc hfront hrest =>
    rw [Text.words_append hc, List.flatten_append, parens_append, hfront, hrest, parens_append,
      parens_of_blank hc]

theorem parens_join (words : List Text) :
    parens (Text.join [' '] words) = parens words.flatten := by
  fun_induction Text.join [' '] words with
  | case1 => rfl
  | case2 only => rw [List.flatten_singleton]
  | case3 first rest _ ih =>
    rw [List.append_assoc, parens_append, List.singleton_append, parens_of_blank rfl, ih,
      List.flatten_cons, parens_append]

/-- Texts with the same parentheses are balanced together. -/
theorem parensBalanced_congr {a b : Text} (h : parens a = parens b) :
    ParensBalanced a ↔ ParensBalanced b :=
  LeadAlike.of_brackets h 0 0

/-- A substitution of texts without parentheses leaves the parentheses alone. -/
theorem parens_substituted {old new text result : Text} (h : Text.Substituted old new text result)
    (hold : parens old = []) (hnew : parens new = []) : parens result = parens text := by
  induction h with
  | none => rfl
  | one before _ ih => simp only [parens_append, hold, hnew, ih]

/-! ## The parenthesis that closes a call -/

theorem leads_cons {c : Char} {text : Text} {depth middle final : Nat}
    (hfirst : Leads opensParen closesParen depth [c] middle)
    (hrest : Leads opensParen closesParen middle text final) :
    Leads opensParen closesParen depth (c :: text) final :=
  leads_append.mpr ⟨middle, hfirst, hrest⟩

theorem leads_open (depth : Nat) : Leads opensParen closesParen depth ['('] (depth + 1) := by
  refine leads_singleton.mpr ?_
  show 1 + depth = 0 + (depth + 1)
  omega

theorem leads_close (depth : Nat) : Leads opensParen closesParen (depth + 1) [')'] depth := by
  refine leads_singleton.mpr ?_
  show 0 + (depth + 1) = 1 + depth
  omega

theorem leads_other {c : Char} (hopen : c ≠ '(') (hclose : c ≠ ')') (depth : Nat) :
    Leads opensParen closesParen depth [c] depth := by
  rw [leads_singleton, opensParen, closesParen, beq_eq_false_iff_ne.mpr hopen,
    beq_eq_false_iff_ne.mpr hclose]

theorem not_close {c : Char} {depth : Nat} (hzero : depth = 0 → c = ')' → False)
    (hsucc : ∀ n, depth = n + 1 → c = ')' → False) : c ≠ ')' := by
  cases depth with
  | zero => exact hzero rfl
  | succ n => exact hsucc n rfl

/-- What stands before the parenthesis that closes a call closes what it opens. -/
theorem closing?_leads {depth : Nat} {text inside rest : Text}
    (h : closing? depth text = some (inside, rest)) :
    Leads opensParen closesParen depth inside 0 := by
  fun_induction closing? depth text generalizing inside with
  | case1 => cases h
  | case2 depth cs ih =>
    simp only [Option.map_eq_some_iff, Prod.mk.injEq, Prod.exists] at h
    obtain ⟨inner, after, hclosing, rfl, rfl⟩ := h
    exact leads_cons (leads_open depth) (ih hclosing)
  | case3 cs =>
    cases h
    exact leads_nil.mpr rfl
  | case4 depth cs ih =>
    simp only [Option.map_eq_some_iff, Prod.mk.injEq, Prod.exists] at h
    obtain ⟨inner, after, hclosing, rfl, rfl⟩ := h
    exact leads_cons (leads_close depth) (ih hclosing)
  | case5 depth c cs hopen hzero hsucc ih =>
    simp only [Option.map_eq_some_iff, Prod.mk.injEq, Prod.exists] at h
    obtain ⟨inner, after, hclosing, rfl, rfl⟩ := h
    exact leads_cons (leads_other hopen (not_close hzero hsucc) depth) (ih hclosing)

/-- A text in which a call is not closed closes nothing that was open before it. -/
theorem exists_leads_of_closing? {depth : Nat} {text : Text} (h : closing? depth text = none) :
    ∃ final, Leads opensParen closesParen depth text final := by
  fun_induction closing? depth text with
  | case1 depth => exact ⟨depth, leads_nil.mpr rfl⟩
  | case2 depth cs ih =>
    obtain ⟨final, hrest⟩ := ih (Option.map_eq_none_iff.mp h)
    exact ⟨final, leads_cons (leads_open depth) hrest⟩
  | case3 cs => cases h
  | case4 depth cs ih =>
    obtain ⟨final, hrest⟩ := ih (Option.map_eq_none_iff.mp h)
    exact ⟨final, leads_cons (leads_close depth) hrest⟩
  | case5 depth c cs hopen hzero hsucc ih =>
    obtain ⟨final, hrest⟩ := ih (Option.map_eq_none_iff.mp h)
    exact ⟨final, leads_cons (leads_other hopen (not_close hzero hsucc) depth) hrest⟩

theorem not_overcloses_of_closing? {text : Text} (h : closing? 0 text = none) :
    ¬ Overcloses opensParen closesParen text := by
  obtain ⟨final, hleads⟩ := exists_leads_of_closing? h
  rintro ⟨front, hfront, hmore⟩
  have hstart := hleads.starts front hfront
  omega

/-! ## Calls that are closed -/

theorem CallsClosed.right {a b : Text} (h : CallsClosed (a ++ b)) : CallsClosed b := by
  intro before after hb
  exact h (a ++ before) after (by rw [hb]; simp)

theorem callsClosed_of_not_part {word : Text} (h : ¬ hostCall <:+: word) : CallsClosed word :=
  fun before after hword => absurd ⟨before, after, hword.symm⟩ h

/-- A text that closes what it opens, and then one more, overcloses. -/
theorem overcloses_of_balanced {inside : Text} (h : ParensBalanced inside) (rest : Text) :
    Overcloses opensParen closesParen (inside ++ ')' :: rest) := by
  refine ⟨inside ++ [')'], ⟨rest, by simp⟩, ?_⟩
  have htotals := h.totals
  have hopen : [')'].countP opensParen = 0 := rfl
  have hclose : [')'].countP closesParen = 1 := rfl
  rw [List.countP_append, List.countP_append, hopen, hclose]
  omega

/-- An end of a text that closes what it opens, after a call in it, overcloses. -/
theorem overcloses_after_call {gap after rest : Text}
    (h : ParensBalanced (gap ++ hostCall ++ after)) :
    Overcloses opensParen closesParen (after ++ rest) := by
  refine ⟨after, List.prefix_append after rest, ?_⟩
  have hgap := h.starts gap ⟨hostCall ++ after, by simp⟩
  have htotals := h.totals
  have hopen : hostCall.countP opensParen = 1 := by decide +kernel
  have hclose : hostCall.countP closesParen = 0 := by decide +kernel
  simp only [List.countP_append, hopen, hclose] at htotals
  omega

/-- Two calls do not overlap: a call after the start of another one starts after its end. -/
theorem call_gap {gap inner after : Text} (h : hostCall ++ inner = gap ++ (hostCall ++ after)) :
    (gap = [] ∧ inner = after) ∨
      ∃ rest, gap = hostCall ++ rest ∧ inner = rest ++ hostCall ++ after := by
  cases gap with
  | nil => exact .inl ⟨rfl, List.append_cancel_left h⟩
  | cons c gap =>
    have hcall : hostCall = ':' :: "host(".toList := by decide +kernel
    have hstart : ∀ d ∈ hostCall.head?, d ∉ "host(".toList := by
      rw [hcall]
      rintro d ⟨⟩
      decide +kernel
    obtain ⟨rfl, hname⟩ := List.cons.inj ((congrArg (· ++ inner) hcall).symm.trans h)
    have hgap : "host(".toList ++ inner = gap ++ hostCall ++ after := by
      rw [List.append_assoc]
      exact hname
    obtain ⟨rest, rfl, hinner⟩ := Text.occurrence_after (List.cons_ne_nil _ _) hstart hgap
    exact .inr ⟨rest, congrArg (· ++ rest) hcall.symm, hinner⟩

/-- The first call of a word is this one, or this one is inside what follows it. -/
theorem call_after {before inner front after : Text} (hbefore : ¬ hostCall <:+: before)
    (h : before ++ hostCall ++ inner = front ++ hostCall ++ after) :
    after = inner ∨ ∃ gap, inner = gap ++ hostCall ++ after := by
  rw [List.append_assoc, List.append_assoc] at h
  rcases List.append_eq_append_iff.mp h with ⟨gap, -, hgap⟩ | ⟨gap, rfl, hgap⟩
  · rcases call_gap hgap with ⟨-, rfl⟩ | ⟨rest, -, hinner⟩
    · exact .inl rfl
    · exact .inr ⟨rest, hinner⟩
  · rcases call_gap hgap with ⟨-, rfl⟩ | ⟨rest, rfl, -⟩
    · exact .inl rfl
    · exact absurd ⟨front, rest, by rw [List.append_assoc]⟩ hbefore

/-- All calls of a word are closed if the first one and those after its end are. -/
theorem callsClosed_of_first {before inside rest : Text} (hbefore : ¬ hostCall <:+: before)
    (hinside : ParensBalanced inside) (hrest : CallsClosed rest) :
    CallsClosed (before ++ hostCall ++ (inside ++ ')' :: rest)) := by
  intro front after hword
  rcases call_after hbefore hword with rfl | ⟨gap, hinner⟩
  · exact overcloses_of_balanced hinside rest
  · have hparen : ')' ∉ hostCall := by decide +kernel
    rcases Text.occurrence_append hparen hinner with ⟨tail, rfl, rfl⟩ | ⟨start, rfl, hlater⟩
    · exact overcloses_after_call hinside
    · exact hrest start after hlater

/-! ## Host calls -/

/-- A call that is closed and its argument after the root lead alike: both are balanced. -/
theorem call_alike {inside : Text} (h : ParensBalanced inside) :
    LeadAlike opensParen closesParen (rootTag ++ inside) (hostCall ++ inside ++ [')']) := by
  have hroot : ParensBalanced rootTag := by decide +kernel
  have hcall : Leads opensParen closesParen 0 hostCall 1 := by decide +kernel
  have hbalanced : ParensBalanced (hostCall ++ inside ++ [')']) :=
    leads_append.mpr ⟨1, leads_append.mpr ⟨1, hcall, h.leads 1⟩, leads_close 0⟩
  exact (LeadAlike.of_balanced (leads_append.mpr ⟨0, hroot, h⟩)).trans
    (LeadAlike.of_balanced hbalanced).symm

/-- **A word whose calls are closed leads as before.** -/
theorem hostCallsToRoot_alike {word : Text} (h : CallsClosed word) :
    LeadAlike opensParen closesParen (hostCallsToRoot word) word := by
  fun_induction hostCallsToRoot word with
  | case1 word hcut => exact .refl word
  | case2 word before inner hcut ihRest ihInner =>
    have hword := Text.cut?_eq_append hcut
    split
    · rename_i inside rest hclose
      rw [closing?_eq_append hclose] at hword
      have hsplit : word = before ++ (hostCall ++ inside ++ [')'] ++ rest) := by
        rw [hword]
        simp
      have hrest : CallsClosed rest := by
        rw [hword, List.append_cons, ← List.append_assoc] at h
        exact h.right
      rw [hsplit, List.append_assoc, ← List.append_assoc rootTag]
      exact .append (.refl before) (.append (call_alike (closing?_leads hclose))
        (ihRest inside rest hclose hrest))
    · rename_i hclose
      exact absurd (h before inner hword) (not_overcloses_of_closing? hclose)

/-- How many more parentheses a text opens than it closes. -/
def surplus (text : Text) : Int := text.countP opensParen - text.countP closesParen

theorem surplus_append (a b : Text) : surplus (a ++ b) = surplus a + surplus b := by
  simp only [surplus, List.countP_append]
  omega

theorem surplus_congr {a b : Text} (h : parens a = parens b) : surplus a = surplus b := by
  rw [surplus, surplus, ← countP_opens_brackets a, ← countP_closes_brackets a, ← parens, h, parens,
    countP_opens_brackets, countP_closes_brackets]

theorem surplus_of_balanced {text : Text} (h : ParensBalanced text) : surplus text = 0 := by
  have htotals := h.totals
  rw [surplus]
  omega

theorem surplus_hostCall : surplus hostCall = 1 := by decide +kernel

theorem surplus_rootTag : surplus rootTag = 0 := by decide +kernel

theorem surplus_close (text : Text) : surplus (')' :: text) = surplus text - 1 := by
  have hclose : surplus [')'] = -1 := rfl
  rw [← List.singleton_append, surplus_append, hclose]
  omega

/-- **Replacing the calls of a word never adds to what it opens**, and it takes from that unless all
calls are closed. -/
theorem surplus_hostCallsToRoot (word : Text) :
    surplus (hostCallsToRoot word) ≤ surplus word ∧
      (surplus (hostCallsToRoot word) = surplus word → CallsClosed word) := by
  fun_induction hostCallsToRoot word with
  | case1 word hcut =>
    exact ⟨Int.le_refl _, fun _ => callsClosed_of_not_part (Text.cut?_eq_none_iff.mp hcut)⟩
  | case2 word before inner hcut ihRest ihInner =>
    have hword := Text.cut?_eq_append hcut
    split
    · rename_i inside rest hclose
      rw [closing?_eq_append hclose] at hword
      obtain ⟨hle, hclosed⟩ := ihRest inside rest hclose
      subst hword
      simp only [surplus_append, surplus_hostCall, surplus_rootTag, surplus_close]
      refine ⟨by omega, fun heq => ?_⟩
      have hfirst : ¬ hostCall <:+: before := Text.not_part_before_cut (by decide +kernel) hcut
      exact callsClosed_of_first hfirst (closing?_leads hclose) (hclosed (by omega))
    · obtain ⟨hle, -⟩ := ihInner
      subst hword
      simp only [surplus_append, surplus_hostCall, surplus_rootTag]
      exact ⟨by omega, fun heq => absurd heq (by omega)⟩

/-! ## Words -/

/-- What opens a script, a comment or an attribute test of the host. -/
def openers : List Text := ["<script".toList, "<!--".toList, ":host[".toList]

/-- A word that opens no part that is removed, and no attribute test of the host. -/
structure Stays (word : Text) : Prop where
  noMixin : ¬ ['-', '-'] <+: word
  noOpener : ∀ opener ∈ openers, ¬ opener <:+: word

theorem Stays.noTest {word : Text} (h : Stays word) : ¬ ":host[".toList <:+: word :=
  h.noOpener _ (by simp [openers])

theorem Stays.opening?_eq_none {word : Text} (h : Stays word) (next : Option Text) :
    opening? word next = none := by
  have hscript := h.noOpener "<script".toList (by simp [openers])
  have hcomment := h.noOpener "<!--".toList (by simp [openers])
  rw [opening?, if_neg (mt Text.startsWith_iff.mp h.noMixin),
    if_neg (mt Text.contains_iff.mp hscript), if_neg (mt Text.contains_iff.mp hcomment)]

/-- Where every word stays, only the hosts are rewritten. -/
theorem strip_eq_map {words : List Text} (h : ∀ word ∈ words, Stays word) :
    strip words = .ok (words.map hostToRoot) := by
  induction words with
  | nil => rfl
  | cons word rest ih =>
    obtain ⟨hword, hrest⟩ := List.forall_mem_cons.mp h
    rw [strip, stripFrom, hword.opening?_eq_none, ← strip, ih hrest]
    rfl

/-- A word without calls keeps its parentheses. -/
theorem parens_hostToRoot {word : Text} (hcalls : ¬ hostCall <:+: word) (h : Stays word) :
    parens (hostToRoot word) = parens word := by
  rw [hostToRoot, if_neg (mt Text.contains_iff.mp hcalls),
    if_neg (mt Text.contains_iff.mp h.noTest)]
  exact parens_substituted (Text.replaceAll_substituted (by decide +kernel) _ _)
    (by decide +kernel) (by decide +kernel)

theorem hostToRoot_alike {word : Text} (h : Stays word) (hclosed : CallsClosed word) :
    LeadAlike opensParen closesParen (hostToRoot word) word := by
  by_cases hcalls : hostCall <:+: word
  · rw [hostToRoot, if_pos (Text.contains_iff.mpr hcalls)]
    exact hostCallsToRoot_alike hclosed
  · exact .of_brackets (parens_hostToRoot hcalls h)

theorem surplus_hostToRoot {word : Text} (h : Stays word) :
    surplus (hostToRoot word) ≤ surplus word ∧
      (surplus (hostToRoot word) = surplus word → CallsClosed word) := by
  by_cases hcalls : hostCall <:+: word
  · rw [hostToRoot, if_pos (Text.contains_iff.mpr hcalls)]
    exact surplus_hostCallsToRoot word
  · rw [surplus_congr (parens_hostToRoot hcalls h)]
    exact ⟨Int.le_refl _, fun _ => callsClosed_of_not_part hcalls⟩

theorem hostToRoot_words_alike {words : List Text} (h : ∀ word ∈ words, Stays word)
    (hclosed : ∀ word ∈ words, CallsClosed word) :
    LeadAlike opensParen closesParen (words.map hostToRoot).flatten words.flatten := by
  induction words with
  | nil => exact .refl []
  | cons word rest ih =>
    obtain ⟨hword, hrest⟩ := List.forall_mem_cons.mp h
    obtain ⟨hwordClosed, hrestClosed⟩ := List.forall_mem_cons.mp hclosed
    rw [List.map_cons, List.flatten_cons, List.flatten_cons]
    exact .append (hostToRoot_alike hword hwordClosed) (ih hrest hrestClosed)

theorem surplus_hostToRoot_words {words : List Text} (h : ∀ word ∈ words, Stays word) :
    surplus (words.map hostToRoot).flatten ≤ surplus words.flatten ∧
      (surplus (words.map hostToRoot).flatten = surplus words.flatten →
        ∀ word ∈ words, CallsClosed word) := by
  induction words with
  | nil => exact ⟨Int.le_refl _, fun _ _ hmem => absurd hmem List.not_mem_nil⟩
  | cons word rest ih =>
    obtain ⟨hword, hrest⟩ := List.forall_mem_cons.mp h
    obtain ⟨hle, hclosed⟩ := surplus_hostToRoot hword
    obtain ⟨hrestLe, hrestClosed⟩ := ih hrest
    rw [List.map_cons, List.flatten_cons, List.flatten_cons, surplus_append, surplus_append]
    -- both sides only lose, so none loses if the sum does not
    refine ⟨by omega, fun heq => List.forall_mem_cons.mpr ⟨hclosed ?_, hrestClosed ?_⟩⟩ <;> omega

/-- **Rewriting hosts keeps parentheses balanced iff all calls are closed.** -/
theorem parensBalanced_hostToRoot_iff {words : List Text} (h : ∀ word ∈ words, Stays word)
    (hbalanced : ParensBalanced words.flatten) :
    ParensBalanced (words.map hostToRoot).flatten ↔ ∀ word ∈ words, CallsClosed word := by
  constructor
  · intro hresult
    refine (surplus_hostToRoot_words h).2 ?_
    rw [surplus_of_balanced hresult, surplus_of_balanced hbalanced]
  · intro hclosed
    exact (hostToRoot_words_alike h hclosed 0 0).mpr hbalanced

/-! ## Tags -/

/-- What the substitution of tags keeps of some words. -/
structure Retagged (words page : List Text) : Prop where
  parens : parens page.flatten = parens words.flatten
  calls : (∀ word ∈ page, CallsClosed word) ↔ ∀ word ∈ words, CallsClosed word
  stays : (∀ word ∈ words, Stays word) → ∀ word ∈ page, Stays word

theorem Retagged.trans {words middle page : List Text} (h : Retagged words middle)
    (h' : Retagged middle page) : Retagged words page :=
  ⟨h'.parens.trans h.parens, h'.calls.trans h.calls, fun hwords => h'.stays (h.stays hwords)⟩

/-- A tag without parentheses; it overlaps neither calls nor what a word that stays is free of. -/
structure Tag (tag : Text) : Prop where
  ne_nil : tag ≠ []
  parens : parens tag = []
  call : Text.Unmixed hostCall tag
  mixin : Text.Unmixed ['-', '-'] tag
  opener : ∀ opener ∈ openers, Text.Unmixed opener tag

instance (tag : Text) : Decidable (Tag tag) :=
  decidable_of_iff (tag ≠ [] ∧ Template.parens tag = [] ∧ Text.Unmixed hostCall tag ∧
      Text.Unmixed ['-', '-'] tag ∧ ∀ opener ∈ openers, Text.Unmixed opener tag)
    ⟨fun h => ⟨h.1, h.2.1, h.2.2.1, h.2.2.2.1, h.2.2.2.2⟩,
      fun h => ⟨h.ne_nil, h.parens, h.call, h.mixin, h.opener⟩⟩

section

variable {old new word result : Text} (h : Text.Substituted old new word result)

include h

theorem callsClosed_of_substituted (hold : Tag old) (hnew : Tag new) (hclosed : CallsClosed word) :
    CallsClosed result := by
  intro before after hresult
  obtain ⟨front, back, hword, -, hback⟩ := h.split hnew.call hresult
  -- what follows the call has the same parentheses as before
  have hparens := parens_substituted hback hold.parens hnew.parens
  have hover := overcloses_brackets_iff.mpr (hclosed front back hword)
  rw [← parens, ← hparens] at hover
  exact overcloses_brackets_iff.mp hover

theorem part_of_substituted {part : Text} (hunmixed : Text.Unmixed part new)
    (hpart : part <:+: result) : part <:+: word := by
  obtain ⟨before, after, hresult⟩ := hpart
  obtain ⟨front, back, rfl, -, -⟩ := h.split hunmixed hresult.symm
  exact ⟨front, back, rfl⟩

theorem lead_of_substituted {lead : Text} (hne : new ≠ []) (hunmixed : Text.Unmixed lead new)
    (hlead : lead <+: result) : lead <+: word := by
  obtain ⟨after, rfl⟩ := hlead
  obtain ⟨front, back, rfl, hfront, -⟩ := @Text.Substituted.split _ _ _ _ h _ hunmixed [] after rfl
  have hempty : front = [] := by
    by_contra hfrontNe
    exact hfront.ne_nil hne hfrontNe rfl
  exact ⟨back, by rw [hempty, List.nil_append]⟩

theorem stays_of_substituted (hnew : Tag new) (hstays : Stays word) : Stays result where
  noMixin := mt (lead_of_substituted h hnew.ne_nil hnew.mixin) hstays.noMixin
  noOpener opener hopener :=
    mt (part_of_substituted h (hnew.opener opener hopener)) (hstays.noOpener opener hopener)

end

theorem retagged_of_substituted {old new : Text} (hold : Tag old) (hnew : Tag new)
    {words page : List Text} (h : List.Forall₂ (Text.Substituted old new) words page) :
    Retagged words page := by
  induction h with
  | nil => exact ⟨rfl, Iff.rfl, id⟩
  | @cons word result words page hword _ ih =>
    have hcalls : CallsClosed result ↔ CallsClosed word :=
      ⟨callsClosed_of_substituted hword.symm hnew hold, callsClosed_of_substituted hword hold hnew⟩
    refine ⟨?_, ?_, ?_⟩
    · rw [List.flatten_cons, List.flatten_cons, parens_append, parens_append, ih.parens,
        parens_substituted hword hold.parens hnew.parens]
    · rw [List.forall_mem_cons, List.forall_mem_cons, hcalls, ih.calls]
    · intro hstays
      obtain ⟨hfirst, hrest⟩ := List.forall_mem_cons.mp hstays
      exact List.forall_mem_cons.mpr ⟨stays_of_substituted hword hnew hfirst, ih.stays hrest⟩

/-- **Substituting tags leaves parentheses and calls alone**, and opens no part. -/
theorem retagged_substituteTags (words : List Text) :
    Retagged words (substituteTagsOfWords words) := by
  have hsubstituted : List.Forall₂ (Text.Substituted wrapperTag rootTag) words
      (words.map (Text.replaceAll wrapperTag rootTag)) := by
    refine List.forall₂_map_right_iff.mpr (List.forall₂_same.mpr fun word _ => ?_)
    exact Text.replaceAll_substituted (by decide +kernel) rootTag word
  have hrooted := retagged_of_substituted (by decide +kernel) (by decide +kernel) hsubstituted
  have hopened : ∀ rooted, Retagged rooted
      (Text.replaceFirstWord "<template".toList "<body".toList rooted) := fun rooted =>
    retagged_of_substituted (by decide +kernel) (by decide +kernel)
      (Text.replaceFirstWord_substituted _ _ rooted)
  have hclosed : ∀ opened, Retagged opened
      (Text.replaceLastWord "</template".toList "</body".toList opened) := fun opened =>
    retagged_of_substituted (by decide +kernel) (by decide +kernel)
      (Text.replaceLastWord_substituted _ _ opened)
  exact (hrooted.trans (hopened _)).trans (hclosed _)

/-! ## Pages -/

/-- **A page keeps its parentheses balanced iff every host call is closed in its word.** This is for
sources that apply no mixin, have no part to be removed and no attribute test of the host. -/
theorem normalize_parens {source : Text} (hmixins : ¬ applyMarker <:+: source)
    (hwords : ∀ word ∈ source.words, ¬ ['-', '-'] <+: word)
    (hscripts : ¬ "<script".toList <:+: source) (hcomments : ¬ "<!--".toList <:+: source)
    (htests : ¬ ":host[".toList <:+: source) (hbalanced : ParensBalanced source) :
    ∃ markup, normalize source = .ok markup ∧
      (ParensBalanced markup ↔ ∀ word ∈ source.words, CallsClosed word) := by
  have hsource : ∀ opener ∈ openers, Text.IsWord opener ∧ ¬ opener <:+: source := by
    simp only [openers, List.forall_mem_cons]
    exact ⟨⟨by decide +kernel, hscripts⟩, ⟨by decide +kernel, hcomments⟩,
      ⟨by decide +kernel, htests⟩, List.forall_mem_nil _⟩
  have hstays : ∀ word ∈ source.words, Stays word := by
    refine fun word hword => ⟨hwords word hword, fun opener hopener hin => ?_⟩
    obtain ⟨hisWord, hnone⟩ := hsource opener hopener
    exact hnone ((Text.part_words_iff hisWord source).mpr ⟨word, hword, hin⟩)
  have hretagged := retagged_substituteTags source.words
  have hpage := hretagged.stays hstays
  have hpageBalanced : ParensBalanced (substituteTagsOfWords source.words).flatten := by
    rwa [parensBalanced_congr (hretagged.parens.trans (parens_words source))]
  refine ⟨Text.join [' '] ((substituteTagsOfWords source.words).map hostToRoot), ?_, ?_⟩
  · show (strip (pageWords source)).map _ = _
    rw [pageWords_eq hmixins, strip_eq_map hpage]
    rfl
  · rw [parensBalanced_congr (parens_join _), parensBalanced_hostToRoot_iff hpage hpageBalanced,
      hretagged.calls]

/-- Calls with calls and groups in them, and a group over two words. -/
theorem normalize_parens_nested :
    ParensBalanced "<template :host(:not(.a)):host(:host(b)) (:host c )".toList ∧
      normalize "<template :host(:not(.a)):host(:host(b)) (:host c )".toList =
        .ok "<body html:not(.a)html:host(b) (html c )".toList ∧
      ∀ word ∈ Text.words "<template :host(:not(.a)):host(:host(b)) (:host c )".toList,
        CallsClosed word := by
  have hbalanced : ParensBalanced "<template :host(:not(.a)):host(:host(b)) (:host c )".toList := by
    decide +kernel
  have hmarkup : normalize "<template :host(:not(.a)):host(:host(b)) (:host c )".toList =
      .ok "<body html:not(.a)html:host(b) (html c )".toList := by decide +kernel
  obtain ⟨markup, hok, hiff⟩ := normalize_parens (by decide +kernel) (by decide +kernel)
    (by decide +kernel) (by decide +kernel) (by decide +kernel) hbalanced
  rw [hmarkup] at hok
  cases hok
  exact ⟨hbalanced, hmarkup, hiff.mp (by decide +kernel)⟩

/-- A host call with a list of selectors is closed in a later word, so its parenthesis stays. -/
theorem normalize_parens_list :
    ParensBalanced ":host(:not(.a, .b))\x7b\x7d".toList ∧
      (∀ word ∈ Text.words ":host(:not(.a, .b))\x7b\x7d".toList, ¬ ['-', '-'] <+: word) ∧
      (∀ part ∈ [applyMarker, "<script".toList, "<!--".toList, ":host[".toList],
        ¬ part <:+: ":host(:not(.a, .b))\x7b\x7d".toList) ∧
      normalize ":host(:not(.a, .b))\x7b\x7d".toList =
        .ok "html:not(.a, .b))\x7b\x7d".toList ∧
      ¬ ParensBalanced "html:not(.a, .b))\x7b\x7d".toList := by
  decide +kernel

end StyleAudit.Template
