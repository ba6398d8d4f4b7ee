import StyleAudit.Proofs.Inquiry
import StyleAudit.Proofs.PseudoTable.Removal

/-!
# Additions to a table

A project adds its own tokens in any number of calls. What the table holds afterwards depends only
on the texts that were given, in their order: a token stands where it was given for the first time.

- `additions`: the tokens that texts stand for, without lone colons and standard tokens.
- `Holds`: the additions of a table are the first occurrences of these tokens.
- `Holds.add`, `Holds.withExtra`: kept by one text, and so by a call.
- `Holds.again`: what was given before is not added again.
- `withExtra_tokens`: the tokens after any calls.
-/

namespace StyleAudit.PseudoTable

/-! ## Texts and their tokens -/

/-- The tokens that texts stand for, repetitions included: each text with a colon put in front if it
does not start with one, without lone colons and standard tokens. -/
def additions (texts : List Text) : List Text :=
  (texts.map fun text => if text.head? = some ':' then text else ':' :: text).filter
    fun token => decide (1 < token.bytes) && !standardTokens.contains token

theorem withColon_eq (text : Text) :
    withColon text = if text.head? = some ':' then text else ':' :: text := by
  fun_cases withColon text with
  | case1 rest => rfl
  | case2 text hcolon =>
    rw [if_neg]
    intro hhead
    cases text with
    | nil => cases hhead
    | cons c cs =>
      cases hhead
      exact hcolon cs rfl

theorem additions_append (xs ys : List Text) :
    additions (xs ++ ys) = additions xs ++ additions ys := by
  unfold additions
  rw [List.map_append, List.filter_append]

/-- One text adds its token or nothing. -/
theorem additions_singleton (text : Text) :
    additions [text] =
      if 1 < (withColon text).bytes ∧ withColon text ∉ standardTokens then [withColon text]
      else [] := by
  unfold additions
  rw [List.map_singleton, ← withColon_eq, List.filter_cons, List.filter_nil]
  simp only [Bool.and_eq_true, decide_eq_true_eq, Bool.not_eq_true', List.contains_eq_mem,
    decide_eq_false_iff_not]

theorem additions_subset {xs ys : List Text} (h : xs ⊆ ys) : additions xs ⊆ additions ys :=
  List.filter_subset _ (List.map_subset _ h)

/-! ## Additions one after another -/

/-- The additions of a table are the first occurrences of the tokens that some texts stand for. -/
def Holds (table : PseudoTable) (given : List Text) : Prop :=
  table.extra = (additions given).eraseDups

theorem holds_standard : standard.Holds [] := rfl

section

variable {table : PseudoTable} {given : List Text}

/-- A table contains the standard tokens and what it was given. -/
theorem Holds.contains_iff (h : table.Holds given) (token : Text) :
    table.contains token = true ↔ token ∈ standardTokens ∨ token ∈ additions given := by
  rw [contains, List.contains_iff_mem, tokens, List.mem_append, h, List.mem_eraseDups]

/-- **One more text** adds its token unless it was given before. -/
theorem Holds.add (h : table.Holds given) (text : Text) :
    (table.add text).Holds (given ++ [text]) := by
  unfold Holds
  rw [additions_append, additions_singleton, PseudoTable.add]
  have hcontains := h.contains_iff (withColon text)
  by_cases hadds : 1 < (withColon text).bytes ∧ withColon text ∉ standardTokens
  · rw [if_pos hadds]
    by_cases hgiven : withColon text ∈ additions given
    · have hthere : table.contains (withColon text) = true := hcontains.mpr (.inr hgiven)
      rw [eraseDups_concat_of_mem hgiven, if_neg (by simp [hthere])]
      exact h
    · have hnew : table.contains (withColon text) = false := by
        rw [← Bool.not_eq_true, hcontains]
        exact not_or.mpr ⟨hadds.2, hgiven⟩
      rw [eraseDups_concat_of_not_mem hgiven, if_pos ⟨hadds.1, hnew⟩, ← h]
  · -- a lone colon, or a standard token, which the table contains
    have hkept : ¬ (1 < (withColon text).bytes ∧ table.contains (withColon text) = false) := by
      rintro ⟨hlong, hnew⟩
      have hstandard := Classical.not_not.mp (not_and.mp hadds hlong)
      rw [hcontains.mpr (.inl hstandard)] at hnew
      cases hnew
    rw [if_neg hadds, List.append_nil, if_neg hkept]
    exact h

/-- **A call** adds the tokens that were not given before. -/
theorem Holds.withExtra (h : table.Holds given) (texts : List Text) :
    (table.withExtra texts).Holds (given ++ texts) := by
  induction texts generalizing table given with
  | nil =>
    rw [List.append_nil]
    exact h
  | cons text rest ih =>
    have hrest := ih (h.add text)
    rw [List.append_assoc] at hrest
    exact hrest

/-- A table is determined by what it was given. -/
theorem Holds.unique {other : PseudoTable} (h : table.Holds given) (h' : other.Holds given) :
    table = other :=
  congrArg PseudoTable.mk (h.trans h'.symm)

/-- What was given before adds nothing to what is held. -/
theorem Holds.append_of_subset (h : table.Holds given) {texts : List Text} (hsub : texts ⊆ given) :
    table.Holds (given ++ texts) := by
  have hnone : (additions texts).removeAll (additions given) = [] := by
    refine List.filter_eq_nil_iff.mpr fun token htoken => ?_
    simpa using additions_subset hsub htoken
  unfold Holds
  rw [additions_append, List.eraseDups_append, hnone, List.eraseDups_nil, List.append_nil]
  exact h

/-- **Tokens that were given before are not added again.** -/
theorem Holds.again (h : table.Holds given) {texts : List Text} (hsub : texts ⊆ given) :
    table.withExtra texts = table :=
  (h.withExtra texts).unique (h.append_of_subset hsub)

/-- The tokens of a table that holds what it was given are distinct. -/
theorem Holds.nodup (h : table.Holds given) : table.tokens.Nodup := by
  have hstandard : standardTokens.Nodup := by decide +kernel
  rw [tokens, h]
  refine List.nodup_append.mpr ⟨hstandard, eraseDups_nodup _, ?_⟩
  rintro token htoken other hother rfl
  -- an addition is no standard token
  have hadds := (List.mem_filter.mp (List.mem_eraseDups.mp hother)).2
  rw [List.contains_iff_mem.mpr htoken, Bool.not_true, Bool.and_false] at hadds
  cases hadds

end

/-! ## Any number of calls -/

/-- Calls one after another are one call with all their texts. -/
theorem foldl_withExtra (calls : List (List Text)) (table : PseudoTable) :
    calls.foldl withExtra table = table.withExtra calls.flatten :=
  List.foldl_flatten.symm

/-- What a table holds after any calls are the texts of all calls. -/
theorem holds_calls (calls : List (List Text)) :
    (calls.foldl withExtra standard).Holds calls.flatten := by
  rw [foldl_withExtra]
  exact holds_standard.withExtra calls.flatten

/-- **The tokens after any calls** are the standard ones, then the first occurrences of what the
texts stand for. They are distinct, each is a colon and something after it, they are the same
however the texts are grouped into calls, and an earlier call changes nothing when it is repeated. -/
theorem withExtra_tokens (calls : List (List Text)) :
    let table := calls.foldl withExtra standard
    table.tokens = standardTokens ++ (additions calls.flatten).eraseDups ∧
      table.tokens.Nodup ∧ (∀ token ∈ table.tokens, Named token) ∧
      (∀ others : List (List Text), others.flatten = calls.flatten →
        others.foldl withExtra standard = table) ∧
      ∀ call ∈ calls, table.withExtra call = table := by
  intro table
  have hholds : table.Holds calls.flatten := holds_calls calls
  refine ⟨congrArg (standardTokens ++ ·) hholds, hholds.nodup, named_tokens calls, ?_, ?_⟩
  · intro others hflatten
    have hothers := holds_calls others
    rw [hflatten] at hothers
    exact hothers.unique hholds
  · intro call hcall
    exact hholds.again fun text htext => List.mem_flatten_of_mem hcall htext

/-- Colons that are missing, alone or doubled, a standard token, and tokens that come again in the
same call and in a later one. -/
theorem withExtra_tokens_repeated :
    let first := ["hover", "part", "", ":", ":part"].map String.toList
    let second := ["é", ":part", "::part"].map String.toList
    let others := [["hover", "part"], [], ["", ":", ":part", "é", ":part"], ["::part"]].map
      (List.map String.toList)
    let table := [first, second].foldl withExtra standard
    first ∈ [first, second] ∧ others.flatten = [first, second].flatten ∧
      table.tokens = standardTokens ++ [":part", ":é", "::part"].map String.toList ∧
      table.tokens.Nodup ∧ others.foldl withExtra standard = table ∧
      table.withExtra first = table := by
  intro first second others table
  obtain ⟨htokens, hnodup, -, hgrouping, hrepeated⟩ := withExtra_tokens [first, second]
  have hfirst : first ∈ [first, second] := List.mem_cons_self
  have hflatten : others.flatten = [first, second].flatten := by decide +kernel
  have hadditions : (additions [first, second].flatten).eraseDups =
      [":part", ":é", "::part"].map String.toList := by decide +kernel
  rw [hadditions] at htokens
  exact ⟨hfirst, hflatten, htokens, hnodup, hgrouping others hflatten, hrepeated first hfirst⟩

end StyleAudit.PseudoTable
