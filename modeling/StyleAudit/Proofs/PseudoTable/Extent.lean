import StyleAudit.Proofs.PseudoTable.Stability

/-!
# What stripping touches

Stripping takes whole names out of a selector and touches nothing else, so a selector in which no
token is a whole name comes back as it was.

- `IsWhole`, `isWhole_iff`: an occurrence of a token that is a whole name, told by the end of the
  token and by what follows it.
- `strip_deletes`, `strip_sublist`: stripping takes out one mark after another, and leaves the rest
  in its order.
- `strip_standard`: both, and what is left alone, for the standard tokens.
-/

namespace StyleAudit.PseudoTable

/-! ## Whole names -/

/-- An occurrence of a token before some text is a whole name: the token ends with its argument, or
no character of a name follows. -/
def IsWhole (token after : Text) : Prop :=
  token.getLast? = some ')' ∨ ∀ c ∈ after.head?, Text.isNameChar c = false

/-- A token ends in a character of a name, or with its argument. -/
def EndsPlainly (token : Text) : Prop :=
  ∃ c, token.getLast? = some c ∧ (Text.isNameChar c = true ∨ c = ')')

theorem endsPlainly_standardTokens : ∀ token ∈ standardTokens, EndsPlainly token := by
  have hlast : ∀ token ∈ standardTokens,
      token.getLast?.any (fun c => Text.isNameChar c || c == ')') = true := by decide +kernel
  intro token htoken
  have hends := hlast token htoken
  cases hc : token.getLast? with
  | none =>
    rw [hc] at hends
    cases hends
  | some c =>
    rw [hc, Option.any_some, Bool.or_eq_true, beq_iff_eq] at hends
    exact ⟨c, hc, hends⟩

/-- An occurrence belongs to no longer name iff it is a whole one. -/
theorem isWhole_iff {token : Text} (h : EndsPlainly token) (after : Text) :
    IsWhole token after ↔ isContinued token after = false := by
  obtain ⟨c, hc, hends⟩ := h
  have hparen : Text.isNameChar ')' = false := by decide
  have hafter : (∀ d ∈ after.head?, Text.isNameChar d = false) ↔
      after.head?.any Text.isNameChar = false := by
    cases after <;> simp
  unfold IsWhole isContinued
  rw [hafter, hc, Option.any_some]
  rcases hends with hname | rfl
  · -- a character of a name is no parenthesis
    have hne : c ≠ ')' := by
      rintro rfl
      rw [hparen] at hname
      cases hname
    simp [hname, hne]
  · simp [hparen]

theorem whole_iff {token : Text} (h : EndsPlainly token) (text : Text) :
    Whole token text ↔ ∃ before after, text = before ++ token ++ after ∧ IsWhole token after := by
  simp only [Whole, isWhole_iff h]

/-- No end of a standard token starts it again. -/
theorem not_recurs_standardTokens : ∀ token ∈ standardTokens, ¬ Recurs token := by
  decide +kernel

/-! ## What is taken out -/

section

variable {table : PseudoTable} (hnamed : ∀ token ∈ table.tokens, Named token)

include hnamed

theorem byLength_ne_nil : ∀ token ∈ table.byLength, token ≠ [] := fun token htoken =>
  (hnamed token (mem_byLength.mp htoken)).ne_nil

/-- **Stripping takes out one mark after another.** -/
theorem strip_deletes (selector : Text) :
    Relation.ReflTransGen (Deletes table.tokens) selector (table.strip selector) :=
  foldl_removeBoth_deletes (fun _ htoken => mem_byLength.mp htoken) (byLength_ne_nil hnamed)
    selector

/-- What stripping leaves stays in its order. -/
theorem strip_sublist (selector : Text) : (table.strip selector).Sublist selector :=
  foldl_removeBoth_sublist (byLength_ne_nil hnamed) selector

end

/-! ## The standard tokens -/

/-- **Stripping touches whole names and nothing else.** A selector comes back as it was iff no
standard token is a whole name in it; of any selector some characters are left, in their order, and
the others were taken out as marks, one after another. -/
theorem strip_standard (selector : Text) :
    (standard.strip selector = selector ↔
      ¬ ∃ token ∈ standardTokens, ∃ before after,
        selector = before ++ token ++ after ∧ IsWhole token after) ∧
    (standard.strip selector).Sublist selector ∧
    Relation.ReflTransGen (Deletes standardTokens) selector (standard.strip selector) := by
  refine ⟨?_, strip_sublist named_standard selector,
    tokens_standard ▸ strip_deletes named_standard selector⟩
  rw [strip_eq_self_iff named_standard (tokens_standard ▸ not_recurs_standardTokens),
    tokens_standard]
  constructor
  · rintro hnone ⟨token, htoken, hwhole⟩
    have hends := endsPlainly_standardTokens token htoken
    exact hnone token htoken ((whole_iff hends selector).mpr hwhole)
  · intro hnone token htoken hwhole
    have hends := endsPlainly_standardTokens token htoken
    exact hnone ⟨token, htoken, (whole_iff hends selector).mp hwhole⟩

end StyleAudit.PseudoTable
