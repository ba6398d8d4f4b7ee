import StyleAudit.Proofs.Words
import Mathlib.Data.List.Forall2
import Mathlib.Data.List.Infix

/-!
# Substitution and separators

Substituting a part that does not hold a separator works on each side of the separator alone. So a
substitution goes through the words of a text.

- `Text.Substituted`: some occurrences of a part are replaced; all substitutions are of this kind.
- `Text.Apart`, `Text.Substituted.part`: a part that cannot overlap what is put in was there before.
- `Text.Unmixed`, `Text.Unmixed.occurrence_append`: texts of which no occurrences overlap.
- `Text.Substituted.split`: each occurrence of a part that cannot overlap what is put in was there
  before, and what stands around it comes from what stood around it.
- `Text.cut_induction`: texts from one occurrence of a part to the next.
- `Text.not_part_replaceAll`: where occurrences cannot overlap what is put in, none is left.
- `Text.replaceAll_append`, `Text.replaceFirst_append`, `Text.replaceLast_append`: a substitution on
  both sides of a separator.
- `Text.words_replaceAll`, `Text.words_replaceFirst`, `Text.words_replaceLast`: the words of a text
  after a substitution are a function of its words.
-/

namespace StyleAudit.Text

/-! ## The occurrences that are replaced -/

/-- Some occurrences of `old` in a text are replaced by `new`. -/
inductive Substituted (old new : Text) : Text → Text → Prop
  | none (text : Text) : Substituted old new text text
  | one (before : Text) {after result : Text} (later : Substituted old new after result) :
      Substituted old new (before ++ old ++ after) (before ++ new ++ result)

/-- No occurrence of `part` overlaps one of `new`: the part has not the character with which `new`
starts, and starts with a character that `new` has not. -/
def Apart (part new : Text) : Prop :=
  part ≠ [] ∧ new ≠ [] ∧ (∀ c ∈ new.head?, c ∉ part) ∧ ∀ c ∈ part.head?, c ∉ new

instance (part new : Text) : Decidable (Apart part new) :=
  decidable_of_iff (part.isEmpty = false ∧ new.isEmpty = false ∧
      new.head?.all (fun c => !List.contains part c) = true ∧
      part.head?.all (fun c => !List.contains new c) = true)
    (by simp [Apart, Option.all_eq_true])

/-- No occurrence of `part` overlaps one of `new`: neither holds the other, and no end of one is a
start of the other. -/
structure Unmixed (part new : Text) : Prop where
  outside : ¬ part <:+: new
  around : ¬ new <:+: part
  ends : ∀ tail ∈ part.tails, tail ≠ [] → ¬ tail <+: new
  starts : ∀ tail ∈ new.tails, tail ≠ [] → ¬ tail <+: part

instance (part new : Text) : Decidable (Unmixed part new) :=
  decidable_of_iff (¬ part <:+: new ∧ ¬ new <:+: part ∧
      (∀ tail ∈ part.tails, tail ≠ [] → ¬ tail <+: new) ∧
      ∀ tail ∈ new.tails, tail ≠ [] → ¬ tail <+: part)
    ⟨fun h => ⟨h.1, h.2.1, h.2.2.1, h.2.2.2⟩,
      fun h => ⟨h.outside, h.around, h.ends, h.starts⟩⟩

theorem Unmixed.symm {part new : Text} (h : Unmixed part new) : Unmixed new part :=
  ⟨h.around, h.outside, h.starts, h.ends⟩

/-- A part does not start where a text that it cannot overlap is not yet over. -/
theorem Unmixed.append_ne {part new front gap : Text} (h : Unmixed part new)
    (hnew : new = front ++ gap) (hgap : gap ≠ []) (more after : Text) :
    gap ++ more ≠ part ++ after := by
  intro heq
  rcases List.append_eq_append_iff.mp heq with ⟨rest, hpart, -⟩ | ⟨rest, hpart, -⟩
  · have htail : gap ∈ new.tails := (List.mem_tails _ _).mpr ⟨front, hnew.symm⟩
    exact h.starts gap htail hgap ⟨rest, hpart.symm⟩
  · exact h.outside ⟨front, rest, by rw [hnew, hpart, List.append_assoc]⟩

/-- **An occurrence of a part that cannot overlap a text is before it or after it.** -/
theorem Unmixed.occurrence_append {part new a b before after : Text} (h : Unmixed part new)
    (htext : a ++ new ++ b = before ++ part ++ after) :
    (∃ gap, a = before ++ part ++ gap ∧ after = gap ++ new ++ b) ∨
      ∃ gap, before = a ++ new ++ gap ∧ b = gap ++ part ++ after := by
  rw [List.append_assoc, List.append_assoc] at htext
  rcases List.append_eq_append_iff.mp htext with ⟨middle, rfl, hafter⟩ | ⟨middle, rfl, hafter⟩
  · -- the part starts in that text, or after it
    rcases List.append_eq_append_iff.mp hafter with ⟨gap, rfl, rfl⟩ | ⟨gap, hnew, hgap⟩
    · exact .inr ⟨gap, by simp, by simp⟩
    · by_cases hempty : gap = []
      · subst hempty
        rw [List.append_nil] at hnew
        exact .inr ⟨[], by simp [hnew], by simpa using hgap.symm⟩
      · exact absurd hgap.symm (h.append_ne hnew hempty _ _)
  · -- the part starts before that text
    rcases List.append_eq_append_iff.mp hafter with ⟨gap, rfl, rfl⟩ | ⟨gap, hpart, hgap⟩
    · exact .inl ⟨gap, by simp, by simp⟩
    · by_cases hempty : gap = []
      · subst hempty
        rw [List.append_nil] at hpart
        exact .inl ⟨[], by simp [hpart], by simpa using hgap.symm⟩
      · exact absurd hgap.symm (h.symm.append_ne hpart hempty _ _)

/-- What cannot overlap a text in the middle stands on one side of it. -/
theorem Unmixed.part_append_iff {part new : Text} (h : Unmixed part new) {a b : Text} :
    part <:+: a ++ new ++ b ↔ part <:+: a ∨ part <:+: b := by
  constructor
  · rintro ⟨before, after, htext⟩
    rcases h.occurrence_append htext.symm with ⟨gap, rfl, -⟩ | ⟨gap, -, rfl⟩
    · exact .inl ⟨before, gap, rfl⟩
    · exact .inr ⟨gap, after, rfl⟩
  · rintro (hpart | hpart)
    · exact hpart.trans ⟨[], new ++ b, by simp⟩
    · exact hpart.trans (List.suffix_append _ _).isInfix

/-- What cannot overlap a text put between others stands in one of these. -/
theorem Unmixed.part_flatMap_iff {part new : Text} (h : Unmixed part new) (lead : Text)
    (texts : List Text) :
    part <:+: lead ++ texts.flatMap (new ++ ·) ↔ ∃ text ∈ lead :: texts, part <:+: text := by
  induction texts generalizing lead with
  | nil => simp
  | cons first rest ih =>
    rw [List.flatMap_cons, List.append_assoc, ← List.append_assoc, h.part_append_iff, ih first,
      List.exists_mem_cons_iff (a := lead)]

theorem replaceAllFrom_skip (old new passed rest : Text) :
    replaceAllFrom old new passed.length (passed ++ rest) = replaceAllFrom old new 0 rest := by
  induction passed with
  | nil => rfl
  | cons c cs ih => exact ih

/-- All occurrences are the first one and those after it. -/
theorem replaceAll_eq {old : Text} (hne : old ≠ []) (new text : Text) :
    replaceAll old new text =
      match cut? old text with
      | some (before, after) => before ++ new ++ replaceAll old new after
      | none => text := by
  induction text with
  | nil =>
    cases old with
    | nil => exact absurd rfl hne
    | cons o os => rfl
  | cons c cs ih =>
    rw [replaceAll, replaceAllFrom, startsWith, cut?]
    cases hlead : dropLead? old (c :: cs) with
    | some rest =>
      have htext := dropLead?_eq_some.mp hlead
      cases old with
      | nil => exact absurd rfl hne
      | cons o os =>
        obtain ⟨rfl, rfl⟩ := List.cons.inj htext
        simp only [Option.isSome_some, if_true, List.length_cons, Nat.add_sub_cancel,
          List.nil_append]
        rw [List.append_eq, replaceAllFrom_skip]
        rfl
    | none =>
      simp only [Option.isSome_none, Bool.false_eq_true, if_false]
      have hrest : replaceAllFrom old new 0 cs = _ := ih
      rw [hrest]
      cases cut? old cs <;> rfl

/-- Texts from one occurrence of a part to the next. -/
theorem cut_induction {part : Text} (hne : part ≠ []) {motive : Text → Prop}
    (free : ∀ text, cut? part text = none → motive text)
    (found : ∀ text before after, cut? part text = some (before, after) → motive after →
      motive text) (text : Text) : motive text := by
  induction hlength : text.length using Nat.strongRecOn generalizing text with
  | ind length ih =>
    subst hlength
    cases hcut : cut? part text with
    | none => exact free text hcut
    | some sides =>
      obtain ⟨before, after⟩ := sides
      have hpos := List.length_pos_iff.mpr hne
      have hlt : after.length < text.length := by
        rw [cut?_eq_append hcut, List.length_append, List.length_append]
        omega
      exact found text before after hcut (ih after.length hlt after rfl)

theorem replaceAll_substituted {old : Text} (hne : old ≠ []) (new text : Text) :
    Substituted old new text (replaceAll old new text) := by
  induction text using cut_induction hne with
  | free text hcut =>
    rw [replaceAll_eq hne, hcut]
    exact .none text
  | found text before after hcut ih =>
    rw [replaceAll_eq hne, hcut, cut?_eq_append hcut]
    exact .one before ih

/-- **No occurrence is left after all are replaced** by a text that they cannot overlap. -/
theorem not_part_replaceAll {old new : Text} (hne : old ≠ []) (h : Unmixed old new) (text : Text) :
    ¬ old <:+: replaceAll old new text := by
  induction text using cut_induction hne with
  | free text hcut =>
    rw [replaceAll_eq hne, hcut]
    exact cut?_eq_none_iff.mp hcut
  | found text before after hcut ih =>
    rw [replaceAll_eq hne, hcut]
    intro hleft
    rcases h.part_append_iff.mp hleft with hbefore | hafter
    · exact not_part_before_cut hne hcut hbefore
    · exact ih hafter

theorem replaceFirst_substituted (old new text : Text) :
    Substituted old new text (replaceFirst old new text) := by
  rw [replaceFirst]
  cases hcut : cut? old text with
  | none => exact .none text
  | some sides =>
    rw [cut?_eq_append hcut]
    exact .one sides.1 (.none sides.2)

theorem cutLast?_eq_append {part text before after : Text}
    (h : cutLast? part text = some (before, after)) : text = before ++ part ++ after := by
  induction text generalizing before with
  | nil =>
    simp only [cutLast?, Option.map_eq_some_iff, Prod.mk.injEq] at h
    obtain ⟨rest, hrest, rfl, rfl⟩ := h
    simpa using dropLead?_eq_some.mp hrest
  | cons c cs ih =>
    simp only [cutLast?] at h
    cases hlater : cutLast? part cs with
    | some sides =>
      rw [hlater] at h
      cases h
      rw [ih hlater]
      rfl
    | none =>
      rw [hlater] at h
      simp only [Option.map_eq_some_iff, Prod.mk.injEq] at h
      obtain ⟨rest, hrest, rfl, rfl⟩ := h
      simpa using dropLead?_eq_some.mp hrest

theorem replaceLast_substituted (old new text : Text) :
    Substituted old new text (replaceLast old new text) := by
  rw [replaceLast]
  cases hcut : cutLast? old text with
  | none => exact .none text
  | some sides =>
    rw [cutLast?_eq_append hcut]
    exact .one sides.1 (.none sides.2)

namespace Substituted

variable {old new text result : Text}

/-- What holds of all characters of a text and of what is put in holds of the result. -/
theorem forall_mem {p : Char → Prop} (h : Substituted old new text result)
    (hnew : ∀ c ∈ new, p c) (htext : ∀ c ∈ text, p c) : ∀ c ∈ result, p c := by
  induction h with
  | none => exact htext
  | one before _ ih =>
    simp only [List.forall_mem_append] at htext ⊢
    exact ⟨⟨htext.1.1, hnew⟩, ih htext.2⟩

theorem ne_nil (h : Substituted old new text result) (hnew : new ≠ []) (htext : text ≠ []) :
    result ≠ [] := by
  cases h with
  | none => exact htext
  | one => simp [hnew]

/-- **A part that cannot overlap what is put in was there before.** -/
theorem part (h : Substituted old new text result) {part : Text} (hapart : Apart part new)
    (hpart : part <:+: result) : part <:+: text := by
  obtain ⟨hne, hnew, hstart, hlead⟩ := hapart
  induction h with
  | none => exact hpart
  | @one before after result _ ih =>
    cases new with
    | nil => exact absurd rfl hnew
    | cons c cs =>
      rw [List.append_assoc, List.cons_append] at hpart
      -- the first character of what is put in separates what is before it from what is after it
      rcases (part_append_iff (hstart c rfl)).mp hpart with hbefore | hlater
      · exact hbefore.trans ⟨[], old ++ after, by simp⟩
      · have hrest : ∀ d ∈ part.head?, d ∉ cs := fun d hd hmem =>
          hlead d hd (List.mem_cons_of_mem c hmem)
        have hin := part_of_append hne hrest hlater
        exact (ih hin).trans (List.suffix_append _ _).isInfix

theorem symm (h : Substituted old new text result) : Substituted new old result text := by
  induction h with
  | none text => exact .none text
  | one before _ ih => exact .one before ih

/-- **An occurrence of a part that cannot overlap what is put in was there before**, between what
the texts around it come from. -/
theorem split (h : Substituted old new text result) {part : Text} (hunmixed : Unmixed part new)
    {before after : Text} (hresult : result = before ++ part ++ after) :
    ∃ front back, text = front ++ part ++ back ∧ Substituted old new front before ∧
      Substituted old new back after := by
  induction h generalizing before with
  | none text => exact ⟨before, after, hresult, .none _, .none _⟩
  | @one start rest result later ih =>
    rcases hunmixed.occurrence_append hresult with ⟨gap, rfl, rfl⟩ | ⟨gap, rfl, hlater⟩
    · exact ⟨before, gap ++ old ++ rest, by simp, .none _, .one gap later⟩
    · obtain ⟨front, back, rfl, hfront, hback⟩ := ih hlater
      exact ⟨start ++ old ++ front, back, by simp, .one start hfront, hback⟩

/-- A word stays a word. -/
theorem isWord (h : Substituted old new text result) (hnew : IsWord new) (htext : IsWord text) :
    IsWord result :=
  ⟨h.ne_nil hnew.1 htext.1, h.forall_mem hnew.2 htext.2⟩

end Substituted

/-! ## Both sides of a separator -/

section

variable {c : Char}

theorem dropLead?_append {lead : Text} (hc : c ∉ lead) (a b : Text) :
    dropLead? lead (a ++ c :: b) = (dropLead? lead a).map (· ++ c :: b) := by
  induction lead generalizing a with
  | nil => cases a <;> rfl
  | cons p ps ih =>
    have hp : c ≠ p := List.ne_of_not_mem_cons hc
    have hps : c ∉ ps := List.not_mem_of_not_mem_cons hc
    cases a with
    | nil =>
      rw [List.nil_append, dropLead?.eq_3, if_neg (Ne.symm hp)]
      rfl
    | cons d ds =>
      rw [List.cons_append, dropLead?, dropLead?, ih hps]
      split <;> rfl

/-- The first occurrence on the left, or else the first one on the right. -/
theorem cut?_append {part : Text} (hc : c ∉ part) (a b : Text) :
    cut? part (a ++ c :: b) =
      match cut? part a with
      | some sides => some (sides.1, sides.2 ++ c :: b)
      | none => (cut? part b).map fun sides => (a ++ c :: sides.1, sides.2) := by
  induction a with
  | nil =>
    have hlead := dropLead?_append hc [] b
    rw [List.nil_append] at hlead ⊢
    rw [cut?.eq_2, hlead, cut?]
    cases dropLead? part [] <;> rfl
  | cons d ds ih =>
    have hlead := dropLead?_append hc (d :: ds) b
    rw [List.cons_append] at hlead ⊢
    rw [cut?, hlead, cut?, ih]
    cases dropLead? part (d :: ds) with
    | some rest => rfl
    | none =>
      cases cut? part ds with
      | some sides => rfl
      | none => cases cut? part b <;> rfl

/-- The last occurrence on the right, or else the last one on the left. -/
theorem cutLast?_append {part : Text} (hc : c ∉ part) (a b : Text) :
    cutLast? part (a ++ c :: b) =
      match cutLast? part b with
      | some sides => some (a ++ c :: sides.1, sides.2)
      | none => (cutLast? part a).map fun sides => (sides.1, sides.2 ++ c :: b) := by
  induction a with
  | nil =>
    have hlead := dropLead?_append hc [] b
    rw [List.nil_append] at hlead ⊢
    rw [cutLast?.eq_2, hlead]
    cases cutLast? part b with
    | some sides => rfl
    | none =>
      rw [cutLast?]
      cases dropLead? part [] <;> rfl
  | cons d ds ih =>
    have hlead := dropLead?_append hc (d :: ds) b
    rw [List.cons_append] at hlead ⊢
    rw [cutLast?, hlead, ih, cutLast?]
    cases cutLast? part b with
    | some sides => rfl
    | none =>
      cases cutLast? part ds with
      | some sides => rfl
      | none => cases dropLead? part (d :: ds) <;> rfl

/-- A last occurrence is found where there is one. -/
theorem cutLast?_eq_none_iff {part text : Text} : cutLast? part text = none ↔ ¬ part <:+: text := by
  induction text with
  | nil =>
    rw [cutLast?, Option.map_eq_none_iff, List.infix_nil]
    cases part <;> simp [dropLead?]
  | cons d ds ih =>
    rw [cutLast?, List.infix_cons_iff]
    cases hlater : cutLast? part ds with
    | some sides =>
      have hin : part <:+: ds := by
        have hsome := mt ih.mpr (by simp [hlater])
        exact Classical.not_not.mp hsome
      simp [hin]
    | none => simp [ih.mp hlater, dropLead?_eq_none_iff]

variable {old new : Text} (hc : c ∉ old)

include hc

theorem replaceFirst_append (a b : Text) :
    replaceFirst old new (a ++ c :: b) =
      if contains old a then replaceFirst old new a ++ c :: b
      else a ++ c :: replaceFirst old new b := by
  rw [replaceFirst, cut?_append hc, contains, replaceFirst, replaceFirst]
  cases cut? old a with
  | some sides => simp
  | none => cases cut? old b <;> simp

theorem replaceLast_append (a b : Text) :
    replaceLast old new (a ++ c :: b) =
      if contains old b then a ++ c :: replaceLast old new b
      else replaceLast old new a ++ c :: b := by
  by_cases hb : contains old b = true
  · cases hcut : cutLast? old b with
    | none => exact absurd (contains_iff.mp hb) (cutLast?_eq_none_iff.mp hcut)
    | some sides => simp [replaceLast, cutLast?_append hc, hcut, hb]
  · have hcut := cutLast?_eq_none_iff.mpr (mt contains_iff.mpr hb)
    rw [if_neg hb, replaceLast, cutLast?_append hc, hcut, replaceLast]
    cases cutLast? old a <;> simp

theorem replaceAll_append (hne : old ≠ []) (a b : Text) :
    replaceAll old new (a ++ c :: b) = replaceAll old new a ++ c :: replaceAll old new b := by
  induction a using cut_induction hne with
  | free a hcut =>
    -- the first occurrence, if there is one, is after the separator
    rw [replaceAll_eq hne, cut?_append hc, hcut, replaceAll_eq hne new a, hcut,
      replaceAll_eq hne new b]
    cases cut? old b <;> simp
  | found a before after hcut ih =>
    rw [replaceAll_eq hne, cut?_append hc, hcut, replaceAll_eq hne new a, hcut]
    simp [ih]

end

/-! ## Word by word -/

/-- Replace the first occurrence in the first word that has one. -/
def replaceFirstWord (old new : Text) : List Text → List Text
  | [] => []
  | word :: rest =>
    if contains old word then replaceFirst old new word :: rest
    else word :: replaceFirstWord old new rest

/-- Replace the last occurrence in the last word that has one. -/
def replaceLastWord (old new : Text) : List Text → List Text
  | [] => []
  | word :: rest =>
    if rest.any (contains old) then word :: replaceLastWord old new rest
    else replaceLast old new word :: rest

theorem replaceFirstWord_substituted (old new : Text) (words : List Text) :
    List.Forall₂ (Substituted old new) words (replaceFirstWord old new words) := by
  induction words with
  | nil => exact .nil
  | cons word rest ih =>
    rw [replaceFirstWord]
    split
    · exact .cons (replaceFirst_substituted old new word) (List.forall₂_same.mpr fun _ _ => .none _)
    · exact .cons (.none word) ih

theorem replaceLastWord_substituted (old new : Text) (words : List Text) :
    List.Forall₂ (Substituted old new) words (replaceLastWord old new words) := by
  induction words with
  | nil => exact .nil
  | cons word rest ih =>
    rw [replaceLastWord]
    split
    · exact .cons (.none word) ih
    · exact .cons (replaceLast_substituted old new word) (List.forall₂_same.mpr fun _ _ => .none _)

section

variable {old : Text}

theorem replaceFirst_eq_self {text : Text} (h : ¬ contains old text = true) (new : Text) :
    replaceFirst old new text = text := by
  rw [replaceFirst, cut?_eq_none_iff.mpr (mt contains_iff.mpr h)]

theorem replaceLast_eq_self {text : Text} (h : ¬ contains old text = true) (new : Text) :
    replaceLast old new text = text := by
  rw [replaceLast, cutLast?_eq_none_iff.mpr (mt contains_iff.mpr h)]

theorem replaceFirstWord_append (new : Text) (xs ys : List Text) :
    replaceFirstWord old new (xs ++ ys) =
      if xs.any (contains old) then replaceFirstWord old new xs ++ ys
      else xs ++ replaceFirstWord old new ys := by
  induction xs with
  | nil => rfl
  | cons word rest ih =>
    rw [List.cons_append, replaceFirstWord, replaceFirstWord, List.any_cons, ih]
    by_cases hword : contains old word = true
    · simp [hword]
    · by_cases hrest : rest.any (contains old) = true <;> simp [hword, hrest]

theorem replaceLastWord_append (new : Text) (xs ys : List Text) :
    replaceLastWord old new (xs ++ ys) =
      if ys.any (contains old) then xs ++ replaceLastWord old new ys
      else replaceLastWord old new xs ++ ys := by
  induction xs with
  | nil =>
    by_cases hys : ys.any (contains old) = true
    · rw [if_pos hys, List.nil_append, List.nil_append]
    · -- nothing is replaced where nothing is found
      rw [if_neg hys, replaceLastWord, List.nil_append]
      cases ys with
      | nil => rfl
      | cons word rest =>
        rw [List.any_cons, Bool.or_eq_true, not_or] at hys
        rw [replaceLastWord, if_neg hys.2, replaceLast_eq_self hys.1]
  | cons word rest ih =>
    rw [List.cons_append, replaceLastWord, replaceLastWord, List.any_append, ih]
    by_cases hys : ys.any (contains old) = true
    · simp [hys]
    · by_cases hrest : rest.any (contains old) = true <;> simp [hys, hrest]

variable (hold : IsWord old)

include hold

theorem contains_eq_any_words (text : Text) :
    contains old text = (words text).any (contains old) := by
  rw [Bool.eq_iff_iff, contains_iff, part_words_iff hold, List.any_eq_true]
  simp only [contains_iff]

variable {new : Text} (hnew : IsWord new)

include hnew

/-- All occurrences are replaced in each word. -/
theorem words_replaceAll (text : Text) :
    words (replaceAll old new text) = (words text).map (replaceAll old new) := by
  induction text using words_induction with
  | nil => rfl
  | word word hword =>
    rw [((replaceAll_substituted hold.1 new word).isWord hnew hword).words_eq, hword.words_eq,
      List.map_singleton]
  | blank front c rest hc hfront hrest =>
    rw [replaceAll_append (hold.not_mem hc) hold.1, words_append hc, words_append hc,
      List.map_append, hfront, hrest]

/-- The first occurrence is replaced in the first word that has one. -/
theorem words_replaceFirst (text : Text) :
    words (replaceFirst old new text) = replaceFirstWord old new (words text) := by
  induction text using words_induction with
  | nil =>
    rw [replaceFirst_eq_self (by simp [contains_eq_any_words hold])]
    rfl
  | word word hword =>
    rw [((replaceFirst_substituted old new word).isWord hnew hword).words_eq, hword.words_eq,
      replaceFirstWord, replaceFirstWord]
    by_cases hfound : contains old word = true
    · rw [if_pos hfound]
    · rw [if_neg hfound, replaceFirst_eq_self hfound]
  | blank front c rest hc hfront hrest =>
    rw [replaceFirst_append (hold.not_mem hc), words_append hc, replaceFirstWord_append,
      ← contains_eq_any_words hold]
    split
    · rw [words_append hc, hfront]
    · rw [words_append hc, hrest]

/-- The last occurrence is replaced in the last word that has one. -/
theorem words_replaceLast (text : Text) :
    words (replaceLast old new text) = replaceLastWord old new (words text) := by
  induction text using words_induction with
  | nil =>
    rw [replaceLast_eq_self (by simp [contains_eq_any_words hold])]
    rfl
  | word word hword =>
    rw [((replaceLast_substituted old new word).isWord hnew hword).words_eq, hword.words_eq]
    rfl
  | blank front c rest hc hfront hrest =>
    rw [replaceLast_append (hold.not_mem hc), words_append hc, replaceLastWord_append,
      ← contains_eq_any_words hold]
    split
    · rw [words_append hc, hrest]
    · rw [words_append hc, hfront]

end

end StyleAudit.Text
