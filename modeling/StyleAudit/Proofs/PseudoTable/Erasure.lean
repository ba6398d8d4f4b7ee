import StyleAudit.Proofs.PseudoTable.Removal
import Mathlib.Data.List.Basic
import Mathlib.Data.List.Infix

/-!
# Marks among other text

A selector that is written as marks with texts between them is stripped of exactly the marks, in
whatever order the tokens come.

- `PrefixFree`: tokens of a colon and a name, none of which starts another.
- `remove_free`, `remove_other`: a pass goes over texts without colons and over other marks.
- `spell`, `Spelled`: marks and texts, some marks taken out already.
- `remove_spell`, `foldl_removeBoth_spell`: a pass takes out one mark, and the passes take out all.
- `strip_spelled`: all of it for the standard tokens.
-/

namespace StyleAudit.PseudoTable

/-- Tokens of a colon and a name without colons, none of which starts another. -/
structure PrefixFree (tokens : List Text) : Prop where
  named : ∀ token ∈ tokens, ∃ name, token = ':' :: name ∧ name ≠ [] ∧ ':' ∉ name
  apart : ∀ token ∈ tokens, ∀ other ∈ tokens, token <+: other → token = other

theorem prefixFree_standard : PrefixFree standardTokens where
  named := by
    have hshape : ∀ token ∈ standardTokens, ':' ∉ token.tail := by decide +kernel
    intro token htoken
    obtain ⟨name, hname, rfl⟩ := named_standardTokens token htoken
    exact ⟨name, rfl, hname, hshape _ htoken⟩
  apart := by decide +kernel

/-! ## What a pass goes over -/

/-- A text without colons stays. -/
theorem remove_free {front : Text} (hfront : ':' ∉ front) (name rest : Text) :
    remove (':' :: name) (front ++ rest) = front ++ remove (':' :: name) rest := by
  induction front with
  | nil => rfl
  | cons c cs ih =>
    have hc : ':' ≠ c := List.ne_of_not_mem_cons hfront
    have hcs : ':' ∉ cs := List.not_mem_of_not_mem_cons hfront
    rw [List.cons_append, remove_skip fun hlead => hc (List.cons_prefix_cons.mp hlead).1, ih hcs]
    rfl

/-- A colon and a name stay if no occurrence starts with them. -/
theorem remove_past {mark name rest : Text} (hname : ':' ∉ name)
    (hlead : ¬ ':' :: mark <+: ':' :: (name ++ rest)) :
    remove (':' :: mark) (':' :: name ++ rest) = ':' :: name ++ remove (':' :: mark) rest := by
  rw [List.cons_append, remove_skip hlead, remove_free hname]
  rfl

/-- Two colons do not start a colon and a name. -/
theorem not_lead_of_colons {name : Text} (hne : name ≠ []) (hname : ':' ∉ name) (mark rest : Text) :
    ¬ ':' :: ':' :: mark <+: ':' :: name ++ rest := by
  intro hlead
  cases name with
  | nil => exact hne rfl
  | cons c cs =>
    have hc := (List.cons_prefix_cons.mp (List.cons_prefix_cons.mp hlead).2).1
    exact hname (hc ▸ List.mem_cons_self)

/-- A colon and a name do not start two colons. -/
theorem not_lead_of_name {name : Text} (hne : name ≠ []) (hname : ':' ∉ name) (rest : Text) :
    ¬ ':' :: name <+: ':' :: ':' :: rest := by
  intro hlead
  cases name with
  | nil => exact hne rfl
  | cons c cs =>
    have hc := (List.cons_prefix_cons.mp (List.cons_prefix_cons.mp hlead).2).1
    exact hname (hc ▸ List.mem_cons_self)

section

variable {tokens : List Text} (htokens : PrefixFree tokens)

include htokens

theorem PrefixFree.isNamed : ∀ token ∈ tokens, Named token := by
  intro token htoken
  obtain ⟨name, hcolon, hname, -⟩ := htokens.named token htoken
  exact ⟨name, hname, hcolon⟩

/-- A token that starts a text which starts with a token is that token. -/
theorem PrefixFree.eq_of_lead {token other rest : Text} (htoken : token ∈ tokens)
    (hother : other ∈ tokens) (hlead : token <+: other ++ rest) : token = other := by
  rcases List.prefix_or_prefix_of_prefix hlead (List.prefix_append other rest) with h | h
  · exact htokens.apart token htoken other hother h
  · exact (htokens.apart other hother token htoken h).symm

/-- **Another mark stays**, unless it is the token of this one with one more colon. -/
theorem remove_other {mark other : Text} (hmark : IsMark tokens mark) (hother : IsMark tokens other)
    (hne : other ≠ mark) (hcolon : other ≠ ':' :: mark) (rest : Text) :
    remove mark (other ++ rest) = other ++ remove mark rest := by
  rcases hmark with hmark | ⟨token, htoken, rfl⟩
  · obtain ⟨name, rfl, hname, hfree⟩ := htokens.named mark hmark
    rcases hother with hother | ⟨token, htoken, rfl⟩
    · have hlead : ¬ ':' :: name <+: other ++ rest := fun hlead =>
        hne (htokens.eq_of_lead hmark hother hlead).symm
      obtain ⟨letters, rfl, -, hletters⟩ := htokens.named other hother
      exact remove_past hletters hlead
    · have hlead : ¬ ':' :: name <+: token ++ rest := fun hlead =>
        hcolon (by rw [htokens.eq_of_lead hmark htoken hlead])
      obtain ⟨letters, rfl, -, hletters⟩ := htokens.named token htoken
      have hcolons : ¬ ':' :: name <+: ':' :: (':' :: letters ++ rest) :=
        not_lead_of_name hname hfree _
      rw [List.cons_append, remove_skip hcolons, remove_past hletters hlead]
      rfl
  · rcases hother with hother | ⟨second, hsecond, rfl⟩
    · obtain ⟨name, rfl, -, -⟩ := htokens.named token htoken
      obtain ⟨letters, rfl, hletters, hfree⟩ := htokens.named other hother
      exact remove_past hfree (not_lead_of_colons hletters hfree name rest)
    · have hlead : ¬ ':' :: token <+: ':' :: (second ++ rest) := by
        intro hstart
        have htoken := htokens.eq_of_lead htoken hsecond (List.cons_prefix_cons.mp hstart).2
        exact hne (by rw [htoken])
      obtain ⟨name, rfl, -, -⟩ := htokens.named token htoken
      obtain ⟨letters, rfl, hletters, hfree⟩ := htokens.named second hsecond
      rw [List.cons_append, remove_skip hlead,
        remove_past hfree (not_lead_of_colons hletters hfree name rest)]
      rfl

/-- No mark has three colons in front. -/
theorem PrefixFree.not_isMark {token : Text} (htoken : token ∈ tokens) :
    ¬ IsMark tokens (':' :: ':' :: token) := by
  obtain ⟨name, rfl, -, -⟩ := htokens.named token htoken
  rintro (h | ⟨other, hother, heq⟩)
  · obtain ⟨letters, heq, -, hfree⟩ := htokens.named _ h
    obtain ⟨-, rfl⟩ := List.cons.inj heq
    exact hfree List.mem_cons_self
  · obtain ⟨letters, rfl, -, hfree⟩ := htokens.named other hother
    obtain ⟨-, rfl⟩ := List.cons.inj (List.cons.inj heq).2
    exact hfree List.mem_cons_self

end

/-! ## Marks and texts -/

/-- Marks, each followed by some text. -/
def spell (items : List (Text × Text)) : Text := items.flatMap fun item => item.1 ++ item.2

theorem spell_cons (mark text : Text) (rest : List (Text × Text)) :
    spell ((mark, text) :: rest) = mark ++ (text ++ spell rest) := by
  rw [spell, List.flatMap_cons, List.append_assoc]
  rfl

/-- Take out a mark wherever it stands. -/
def takeOut (mark : Text) (items : List (Text × Text)) : List (Text × Text) :=
  items.map fun item => if item.1 = mark then ([], item.2) else item

/-- Marks of some tokens, or nothing where one was taken out, with texts without colons; no mark is
followed by a character of a name. -/
def Spelled (tokens : List Text) : List (Text × Text) → Prop
  | [] => True
  | (mark, text) :: rest =>
    (mark = [] ∨ IsMark tokens mark) ∧ ':' ∉ text ∧
      (text ++ spell rest).head?.any Text.isNameChar = false ∧ Spelled tokens rest

theorem Spelled.isMark_of_mem {tokens : List Text} {items : List (Text × Text)}
    (h : Spelled tokens items) {item : Text × Text} (hitem : item ∈ items) :
    item.1 = [] ∨ IsMark tokens item.1 := by
  induction items with
  | nil => exact absurd hitem List.not_mem_nil
  | cons first rest ih =>
    rcases List.mem_cons.mp hitem with rfl | hlater
    · exact h.1
    · exact ih h.2.2.2 hlater

/-- Of what is left, nothing is the mark, and each mark was there before. -/
theorem mem_takeOut {mark : Text} (hne : mark ≠ []) {items : List (Text × Text)}
    {item : Text × Text} (h : item ∈ takeOut mark items) :
    item.1 ≠ mark ∧ (item.1 = [] ∨ item ∈ items) := by
  obtain ⟨before, hbefore, rfl⟩ := List.mem_map.mp h
  split
  · exact ⟨hne.symm, .inl rfl⟩
  · rename_i hother
    exact ⟨hother, .inr hbefore⟩

theorem flatMap_takeOut (mark : Text) (items : List (Text × Text)) :
    (takeOut mark items).flatMap Prod.snd = items.flatMap Prod.snd := by
  rw [takeOut, List.flatMap_map]
  refine List.flatMap_congr fun item _ => ?_
  split <;> rfl

section

variable {tokens : List Text} (htokens : PrefixFree tokens) {items : List (Text × Text)}

include htokens

/-- What is spelled does not start with a character of a name. -/
theorem Spelled.head (h : Spelled tokens items) :
    (spell items).head?.any Text.isNameChar = false := by
  cases items with
  | nil => rfl
  | cons item rest =>
    obtain ⟨mark, text⟩ := item
    obtain ⟨hmark, -, hend, -⟩ := h
    rw [spell_cons]
    rcases hmark with rfl | hmark
    · exact hend
    · obtain ⟨name, rfl⟩ := cons_of_isMark htokens.isNamed hmark
      rfl

theorem spelled_takeOut (h : Spelled tokens items) (mark : Text) :
    Spelled tokens (takeOut mark items) := by
  induction items with
  | nil => trivial
  | cons item rest ih =>
    obtain ⟨first, text⟩ := item
    obtain ⟨hfirst, htext, hend, hrest⟩ := h
    have hend' : (text ++ spell (takeOut mark rest)).head?.any Text.isNameChar = false := by
      cases text with
      | nil => exact (ih hrest).head htokens
      | cons c cs => exact hend
    rw [takeOut, List.map_cons]
    by_cases heq : first = mark
    · rw [if_pos heq]
      exact ⟨.inl rfl, htext, hend', ih hrest⟩
    · rw [if_neg heq]
      exact ⟨hfirst, htext, hend', ih hrest⟩

/-- **A pass takes out exactly its mark**, if that mark with one more colon is not there. -/
theorem remove_spell {mark : Text} (hmark : IsMark tokens mark) (h : Spelled tokens items)
    (hcolon : ∀ item ∈ items, item.1 ≠ ':' :: mark) :
    remove mark (spell items) = spell (takeOut mark items) := by
  induction items with
  | nil => exact remove_nil mark
  | cons item rest ih =>
    obtain ⟨first, text⟩ := item
    obtain ⟨hfirst, htext, hend, hrest⟩ := h
    obtain ⟨hitem, hlater⟩ := List.forall_mem_cons.mp hcolon
    obtain ⟨name, rfl⟩ := cons_of_isMark htokens.isNamed hmark
    have htail : remove (':' :: name) (text ++ spell rest) =
        text ++ spell (takeOut (':' :: name) rest) := by
      rw [remove_free htext, ih hrest hlater]
    rw [spell_cons, takeOut, List.map_cons]
    by_cases heq : first = ':' :: name
    · rw [if_pos heq, heq, remove_found (List.cons_ne_nil _ _),
        isContinued_eq_false_of_head hend, htail, spell_cons]
      rfl
    · rw [if_neg heq, spell_cons]
      rcases hfirst with rfl | hother
      · exact htail
      · rw [remove_other htokens hmark hother heq hitem, htail]
        rfl

theorem removeBoth_spell {token : Text} (htoken : token ∈ tokens) (h : Spelled tokens items) :
    removeBoth (spell items) token = spell (takeOut token (takeOut (':' :: token) items)) := by
  have hcolons : ∀ item ∈ items, item.1 ≠ ':' :: ':' :: token := by
    intro item hitem heq
    rcases h.isMark_of_mem hitem with hnone | hmark
    · rw [hnone] at heq
      cases heq
    · exact htokens.not_isMark htoken (heq ▸ hmark)
  have hcolon : ∀ item ∈ takeOut (':' :: token) items, item.1 ≠ ':' :: token := fun item hitem =>
    (mem_takeOut (List.cons_ne_nil _ _) hitem).1
  rw [removeBoth_eq (htokens.isNamed token htoken).ne_nil,
    remove_spell htokens (.inr ⟨token, htoken, rfl⟩) h hcolons,
    remove_spell htokens (.inl htoken) (spelled_takeOut htokens h _) hcolon]

/-- **The passes take out all marks.** -/
theorem foldl_removeBoth_spell {order : List Text} (horder : order ⊆ tokens)
    (h : Spelled tokens items) (hmarks : ∀ item ∈ items, item.1 = [] ∨ IsMark order item.1) :
    order.foldl removeBoth (spell items) = items.flatMap Prod.snd := by
  induction order generalizing items with
  | nil =>
    have hnone : ∀ item ∈ items, item.1 ++ item.2 = item.2 := by
      intro item hitem
      rcases hmarks item hitem with hmark | hmark | ⟨token, htoken, -⟩
      · rw [hmark, List.nil_append]
      · exact absurd hmark List.not_mem_nil
      · exact absurd htoken List.not_mem_nil
    exact List.flatMap_congr hnone
  | cons token rest ih =>
    obtain ⟨htoken, hrest⟩ := List.cons_subset.mp horder
    have hleft : ∀ item ∈ takeOut token (takeOut (':' :: token) items),
        item.1 = [] ∨ IsMark rest item.1 := by
      intro item hitem
      obtain ⟨hone, hnone | hitem⟩ := mem_takeOut (htokens.isNamed token htoken).ne_nil hitem
      · exact .inl hnone
      obtain ⟨htwo, hnone | hitem⟩ := mem_takeOut (List.cons_ne_nil _ _) hitem
      · exact .inl hnone
      -- it is neither form of this token, so it is a mark of a later one
      rcases hmarks item hitem with hnone | hmark | ⟨other, hother, heq⟩
      · exact .inl hnone
      · exact .inr (.inl ((List.mem_cons.mp hmark).resolve_left hone))
      · refine .inr (.inr ⟨other, (List.mem_cons.mp hother).resolve_left ?_, heq⟩)
        rintro rfl
        exact htwo heq
    have hspelled := spelled_takeOut htokens (spelled_takeOut htokens h (':' :: token)) token
    rw [List.foldl_cons, removeBoth_spell htokens htoken h, ih hrest hspelled hleft,
      flatMap_takeOut, flatMap_takeOut]

/-- The passes leave a text without colons in front alone. -/
theorem foldl_removeBoth_free {lead : Text} (hlead : ':' ∉ lead) {order : List Text}
    (horder : order ⊆ tokens) (text : Text) :
    order.foldl removeBoth (lead ++ text) = lead ++ order.foldl removeBoth text := by
  induction order generalizing text with
  | nil => rfl
  | cons token rest ih =>
    obtain ⟨htoken, hrest⟩ := List.cons_subset.mp horder
    obtain ⟨name, rfl, -⟩ := htokens.named token htoken
    have hboth : removeBoth (lead ++ text) (':' :: name) =
        lead ++ removeBoth text (':' :: name) := by
      rw [removeBoth_eq (List.cons_ne_nil _ _), removeBoth_eq (List.cons_ne_nil _ _),
        remove_free hlead, remove_free hlead]
    rw [List.foldl_cons, List.foldl_cons, hboth, ih hrest]

end

/-! ## The standard tokens -/

theorem spelled_of_ends {tokens : List Text} {items : List (Text × Text)}
    (hmarks : ∀ item ∈ items, IsMark tokens item.1) (htexts : ∀ item ∈ items, ':' ∉ item.2)
    (hends : ∀ item back, item :: back <:+ items →
      (item.2 ++ spell back).head?.any Text.isNameChar = false) : Spelled tokens items := by
  induction items with
  | nil => trivial
  | cons item rest ih =>
    obtain ⟨hmark, hlaterMarks⟩ := List.forall_mem_cons.mp hmarks
    obtain ⟨htext, hlaterTexts⟩ := List.forall_mem_cons.mp htexts
    refine ⟨.inr hmark, htext, hends item rest List.suffix_rfl, ?_⟩
    exact ih hlaterMarks hlaterTexts fun other back hback =>
      hends other back (hback.trans (List.suffix_cons item rest))

/-- **A selector is stripped of the standard tokens and of nothing else.** It is some text, then
marks with texts after them; no text holds a colon, and no mark is directly followed by a character
of a name. -/
theorem strip_spelled {lead : Text} {items : List (Text × Text)} (hlead : ':' ∉ lead)
    (hmarks : ∀ item ∈ items, IsMark standardTokens item.1) (htexts : ∀ item ∈ items, ':' ∉ item.2)
    (hends : ∀ item back, item :: back <:+ items →
      (item.2 ++ spell back).head?.any Text.isNameChar = false) :
    standard.strip (lead ++ spell items) = lead ++ items.flatMap Prod.snd := by
  have htokens : standard.tokens = standardTokens := List.append_nil _
  have horder : standard.byLength ⊆ standardTokens := fun token htoken =>
    htokens ▸ mem_byLength.mp htoken
  have hall : ∀ item ∈ items, item.1 = [] ∨ IsMark standard.byLength item.1 := by
    have hmem : ∀ token, token ∈ standardTokens → token ∈ standard.byLength := fun token htoken =>
      mem_byLength.mpr (htokens ▸ htoken)
    intro item hitem
    rcases hmarks item hitem with hmark | ⟨token, htoken, hmark⟩
    · exact .inr (.inl (hmem _ hmark))
    · exact .inr (.inr ⟨token, hmem token htoken, hmark⟩)
  rw [strip, foldl_removeBoth_free prefixFree_standard hlead horder,
    foldl_removeBoth_spell prefixFree_standard horder (spelled_of_ends hmarks htexts hends) hall]

/-- Marks side by side, marks with an argument, and a mark at the end. -/
theorem strip_spelled_list :
    standard.strip "a:hover::before .b:lang(language)::not(selector):focus > c:root".toList =
      "a .b > c".toList := by
  have hspelled : "a:hover::before .b:lang(language)::not(selector):focus > c:root".toList =
      "a".toList ++ spell [(":hover".toList, []), ("::before".toList, " .b".toList),
        (":lang(language)".toList, []), ("::not(selector)".toList, []),
        (":focus".toList, " > c".toList), (":root".toList, [])] := by decide +kernel
  rw [hspelled, strip_spelled (by decide +kernel) (by decide +kernel) (by decide +kernel)]
  · decide +kernel
  · intro item back hback
    simp only [List.suffix_cons_iff, List.cons.injEq, List.suffix_nil, reduceCtorEq,
      or_false] at hback
    rcases hback with ⟨rfl, rfl⟩ | ⟨rfl, rfl⟩ | ⟨rfl, rfl⟩ | ⟨rfl, rfl⟩ | ⟨rfl, rfl⟩ | ⟨rfl, rfl⟩
    all_goals decide +kernel

end StyleAudit.PseudoTable
