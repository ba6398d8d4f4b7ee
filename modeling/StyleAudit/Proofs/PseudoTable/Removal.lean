import StyleAudit.PseudoTable
import StyleAudit.Proofs.Text
import Mathlib.Logic.Relation

/-!
# Removing tokens

A pass goes through a selector from left to right and takes out the occurrences of a token that are
whole names; a selector is stripped by two such passes for each token.

- `remove_nil`, `remove_skip`, `remove_found`: one pass, step by step.
- `Whole`, `remove_eq_self`: a pass leaves a selector alone in which no whole name is the token.
- `removeBoth_eq`: a pass that finds nothing may be left out.
- `Named`, `named_tokens`: the tokens of a table are a colon and something after it.
- `IsMark`: the forms in which a token is taken out.
- `Cuts`, `Deletes`, `foldl_removeBoth_deletes`: the passes take out one mark after another.
-/

namespace StyleAudit.PseudoTable

/-! ## One pass -/

section

variable {token : Text}

theorem removeFrom_skip (token passed rest : Text) :
    removeFrom token passed.length (passed ++ rest) = removeFrom token 0 rest := by
  induction passed with
  | nil => rfl
  | cons c cs ih => exact ih

@[simp] theorem remove_nil (token : Text) : remove token [] = [] := rfl

/-- A character at which no occurrence starts stays. -/
theorem remove_skip {c : Char} {cs : Text} (h : ¬ token <+: c :: cs) :
    remove token (c :: cs) = c :: remove token cs := by
  rw [remove, removeFrom, Text.dropLead?_eq_none_iff.mpr h]
  rfl

/-- An occurrence goes unless it belongs to a longer name. -/
theorem remove_found (hne : token ≠ []) (rest : Text) :
    remove token (token ++ rest) =
      (if isContinued token rest then token else []) ++ remove token rest := by
  have hlead : Text.dropLead? token (token ++ rest) = some rest := Text.dropLead?_eq_some.mpr rfl
  cases token with
  | nil => exact absurd rfl hne
  | cons c cs =>
    rw [List.cons_append] at hlead ⊢
    rw [remove, removeFrom, hlead]
    simp only [List.length_cons, Nat.add_sub_cancel, removeFrom_skip]
    rfl

theorem remove_sublist (hne : token ≠ []) (text : Text) : (remove token text).Sublist text := by
  induction text using Text.pass_induction hne with
  | nil => exact .slnil
  | skip c cs hlead ih =>
    rw [remove_skip hlead]
    exact ih.cons_cons c
  | found rest ih =>
    rw [remove_found hne]
    split
    · exact ih.append_left token
    · exact ih.trans (List.sublist_append_right token rest)

end

/-! ## Whole names -/

theorem isContinued_eq_false_of_head {token rest : Text}
    (h : rest.head?.any Text.isNameChar = false) : isContinued token rest = false := by
  rw [isContinued, h, Bool.and_false]

/-- With one more colon in front, a token ends as before. -/
theorem isContinued_cons {token : Text} (hne : token ≠ []) (c : Char) (rest : Text) :
    isContinued (c :: token) rest = isContinued token rest := by
  cases token with
  | nil => exact absurd rfl hne
  | cons d ds => rw [isContinued, isContinued, List.getLast?_cons_cons]

/-- A token stands in a text as a whole name. -/
def Whole (token text : Text) : Prop :=
  ∃ before after, text = before ++ token ++ after ∧ isContinued token after = false

theorem Whole.append_left {token text : Text} (h : Whole token text) (front : Text) :
    Whole token (front ++ text) := by
  obtain ⟨before, after, rfl, hend⟩ := h
  exact ⟨front ++ before, after, by simp, hend⟩

/-- A whole name with one more colon in front is one without. -/
theorem Whole.of_cons {token text : Text} {c : Char} (hne : token ≠ [])
    (h : Whole (c :: token) text) : Whole token text := by
  obtain ⟨before, after, rfl, hend⟩ := h
  rw [isContinued_cons hne] at hend
  exact ⟨before ++ [c], after, by simp, hend⟩

/-- **A pass leaves a text alone in which the token is no whole name.** -/
theorem remove_eq_self {token text : Text} (hne : token ≠ []) (h : ¬ Whole token text) :
    remove token text = text := by
  induction text using Text.pass_induction hne with
  | nil => rfl
  | skip c cs hlead ih => rw [remove_skip hlead, ih fun hwhole => h (hwhole.append_left [c])]
  | found rest ih =>
    have hcontinued : isContinued token rest = true := by
      rw [← Bool.not_eq_false]
      exact fun hend => h ⟨[], rest, rfl, hend⟩
    rw [remove_found hne, if_pos hcontinued, ih fun hwhole => h (hwhole.append_left token)]

theorem not_whole_of_not_part {token text : Text} (h : ¬ token <:+: text) : ¬ Whole token text := by
  rintro ⟨before, after, rfl, -⟩
  exact h ⟨before, after, rfl⟩

/-- A pass that finds nothing may be left out. -/
theorem removeBoth_eq {token : Text} (hne : token ≠ []) (text : Text) :
    removeBoth text token = remove token (remove (':' :: token) text) := by
  rw [removeBoth]
  split
  · rfl
  · rename_i hnone
    have hwhole := not_whole_of_not_part (mt Text.contains_iff.mpr hnone)
    rw [remove_eq_self (List.cons_ne_nil _ _) (mt (Whole.of_cons hne) hwhole),
      remove_eq_self hne hwhole]

/-! ## Tables -/

theorem mem_byLength {table : PseudoTable} {token : Text} :
    token ∈ table.byLength ↔ token ∈ table.tokens :=
  List.mem_mergeSort

/-- A token is a colon and something after it. -/
def Named (token : Text) : Prop := ∃ name, name ≠ [] ∧ token = ':' :: name

theorem Named.ne_nil {token : Text} (h : Named token) : token ≠ [] := by
  obtain ⟨name, -, rfl⟩ := h
  exact List.cons_ne_nil _ _

theorem named_standardTokens : ∀ token ∈ standardTokens, Named token := by
  have hshape : ∀ token ∈ standardTokens, token.head? = some ':' ∧ token.tail ≠ [] := by
    decide +kernel
  intro token htoken
  obtain ⟨hcolon, hname⟩ := hshape token htoken
  cases token with
  | nil => cases hcolon
  | cons c name => exact ⟨name, hname, by rw [Option.some.inj hcolon]⟩

theorem tokens_standard : standard.tokens = standardTokens := List.append_nil _

theorem named_standard : ∀ token ∈ standard.tokens, Named token :=
  tokens_standard ▸ named_standardTokens

theorem withColon_eq_cons (text : Text) : ∃ name, withColon text = ':' :: name := by
  fun_cases withColon text with
  | case1 rest => exact ⟨rest, rfl⟩
  | case2 => exact ⟨text, rfl⟩

theorem named_add {table : PseudoTable} (h : ∀ token ∈ table.tokens, Named token) (text : Text) :
    ∀ token ∈ (table.add text).tokens, Named token := by
  obtain ⟨name, hname⟩ := withColon_eq_cons text
  rw [add, hname]
  split
  · rename_i hnew
    -- a lone colon has one byte
    have hne : name ≠ [] := by
      rintro rfl
      exact absurd hnew.1 (by decide)
    rw [tokens, ← List.append_assoc]
    exact List.forall_mem_append.mpr ⟨h, by simpa [Named] using hne⟩
  · exact h

theorem named_withExtra {table : PseudoTable} (h : ∀ token ∈ table.tokens, Named token)
    (texts : List Text) : ∀ token ∈ (table.withExtra texts).tokens, Named token := by
  rw [withExtra]
  induction texts generalizing table with
  | nil => exact h
  | cons text rest ih => exact ih (named_add h text)

/-- Each token of a table built by additions is a colon and something after it. -/
theorem named_tokens (calls : List (List Text)) :
    ∀ token ∈ (calls.foldl withExtra standard).tokens, Named token := by
  have hstandard := named_standard
  revert hstandard
  generalize standard = table
  induction calls generalizing table with
  | nil => exact id
  | cons call rest ih => exact fun h => ih _ (named_withExtra h call)

/-! ## Marks taken out one after another -/

/-- A token of the list, or one with one more colon in front. -/
def IsMark (tokens : List Text) (mark : Text) : Prop :=
  mark ∈ tokens ∨ ∃ token ∈ tokens, mark = ':' :: token

instance (tokens : List Text) (mark : Text) : Decidable (IsMark tokens mark) :=
  inferInstanceAs (Decidable (_ ∨ _))

/-- A text is cut where a mark stands as a whole name: this is before it, and this after it. -/
def Cuts (tokens : List Text) (text before after : Text) : Prop :=
  ∃ mark, IsMark tokens mark ∧ isContinued mark after = false ∧ text = before ++ mark ++ after

/-- One mark is taken out. -/
def Deletes (tokens : List Text) (text result : Text) : Prop :=
  ∃ before after, Cuts tokens text before after ∧ result = before ++ after

section

variable {tokens : List Text}

theorem cons_of_isMark (hnamed : ∀ token ∈ tokens, Named token) {mark : Text}
    (h : IsMark tokens mark) : ∃ name, mark = ':' :: name := by
  rcases h with h | ⟨token, -, rfl⟩
  · obtain ⟨name, -, rfl⟩ := hnamed mark h
    exact ⟨name, rfl⟩
  · exact ⟨token, rfl⟩

theorem Deletes.append_left {text result : Text} (h : Deletes tokens text result) (front : Text) :
    Deletes tokens (front ++ text) (front ++ result) := by
  obtain ⟨before, after, ⟨mark, hmark, hend, rfl⟩, rfl⟩ := h
  exact ⟨front ++ before, after, ⟨mark, hmark, hend, by simp⟩, by simp⟩

/-- **A pass takes out marks**, each at a time when it is a whole name. -/
theorem remove_deletes {mark : Text} (hmark : IsMark tokens mark) (hne : mark ≠ []) (text : Text) :
    Relation.ReflTransGen (Deletes tokens) text (remove mark text) := by
  have hfront : ∀ (front : Text) {text result : Text},
      Relation.ReflTransGen (Deletes tokens) text result →
      Relation.ReflTransGen (Deletes tokens) (front ++ text) (front ++ result) := fun front _ _ h =>
    h.lift (front ++ ·) fun _ _ hstep => hstep.append_left front
  induction text using Text.pass_induction hne with
  | nil => exact .refl
  | skip c cs hlead ih =>
    rw [remove_skip hlead]
    exact hfront [c] ih
  | found rest ih =>
    rw [remove_found hne]
    split
    · exact hfront mark ih
    · rename_i hend
      have hcut : Cuts tokens (mark ++ rest) [] rest :=
        ⟨mark, hmark, Bool.not_eq_true _ ▸ hend, rfl⟩
      exact .head ⟨[], rest, hcut, rfl⟩ ih

theorem removeBoth_deletes {token : Text} (htoken : token ∈ tokens) (hne : token ≠ [])
    (text : Text) : Relation.ReflTransGen (Deletes tokens) text (removeBoth text token) := by
  rw [removeBoth_eq hne]
  exact (remove_deletes (.inr ⟨token, htoken, rfl⟩) (List.cons_ne_nil _ _) text).trans
    (remove_deletes (.inl htoken) hne _)

/-- **The passes take out one mark after another.** -/
theorem foldl_removeBoth_deletes {order : List Text} (horder : order ⊆ tokens)
    (hne : ∀ token ∈ order, token ≠ []) (text : Text) :
    Relation.ReflTransGen (Deletes tokens) text (order.foldl removeBoth text) := by
  induction order generalizing text with
  | nil => exact .refl
  | cons token rest ih =>
    obtain ⟨htoken, hrest⟩ := List.cons_subset.mp horder
    obtain ⟨hfirst, hlater⟩ := List.forall_mem_cons.mp hne
    exact (removeBoth_deletes htoken hfirst text).trans (ih hrest hlater _)

end

end StyleAudit.PseudoTable
