import StyleAudit.Override
import StyleAudit.Proofs.Text
import StyleAudit.Proofs.Usage
import Mathlib.Data.List.Infix

/-!
# What is reported as overwritten

- `Css.Scope`, `Css.Stylesheet.scopes`: the top level and each media block, with their style rules.
- `Css.ScopedRule`, `Css.Stylesheet.scopedRules`: the style rules of a stylesheet in its order, each
  with the style rules after it in its own scope.
- `overwrites`: the records of such a rule, as a comprehension over its selectors, the later rules,
  its declarations and theirs.
- `findOverwritten_visits`: the walk visits the same selectors as that for unused ones and returns
  the records of all scoped rules.
- `findOverwritten_eq`: what is reported for a document that rejects nothing it is asked.
-/

namespace StyleAudit

open Css (Rule StyleRule Declaration Stylesheet Occurrence styleRules)

/-! ## Scopes -/

namespace Css

/-- A list of style rules in which later ones replace earlier ones: the top level, or one media
block with its condition. -/
structure Scope where
  media : Option Text
  rules : List StyleRule

/-- The scopes of a stylesheet: its top level and the media blocks in it. -/
def Stylesheet.scopes (sheet : Stylesheet) : List Scope :=
  ⟨none, styleRules sheet.rules⟩ :: sheet.rules.filterMap fun
    | .media condition rules _ => some ⟨some condition, styleRules rules⟩
    | _ => none

/-- A style rule, the condition of its scope, and the style rules after it there. -/
structure ScopedRule where
  media : Option Text
  rule : StyleRule
  later : List StyleRule

/-- The style rules of one scope, in order. -/
def Scope.scopedRules (scope : Scope) : List ScopedRule :=
  scope.rules.tails.filterMap fun
    | rule :: later => some ⟨scope.media, rule, later⟩
    | [] => none

/-- The style rules that stand where a list of top-level rules starts. -/
def scopedRulesAt : List Rule → List ScopedRule
  | .style rule :: later => [⟨none, rule, styleRules later⟩]
  | .media condition rules _ :: _ => Scope.scopedRules ⟨some condition, styleRules rules⟩
  | .atRule .. :: _ => []
  | [] => []

/-- The style rules of a stylesheet, in its order. -/
def Stylesheet.scopedRules (sheet : Stylesheet) : List ScopedRule :=
  sheet.rules.tails.flatMap scopedRulesAt

end Css

open Css (Scope ScopedRule scopedRulesAt)

/-- The records of a rule in its scope: one for each selector with a match, each later rule with that
selector, each declaration not marked important, and each later declaration of the same property. -/
def overwrites (document : Document) (table : PseudoTable) (placed : ScopedRule) :
    List Overwritten :=
  (placed.rule.selectors.filter fun selector => matched document table selector).flatMap
    fun selector =>
      (placed.later.filter fun other => selector ∈ other.selectors).flatMap fun other =>
        (placed.rule.declarations.filter fun earlier =>
          ¬ "!important".toList <:+: earlier.value).flatMap fun earlier =>
            (other.declarations.filter fun replacement =>
              replacement.property = earlier.property).map
                fun _ => ⟨selector, earlier.property, placed.media⟩

variable {document : Document} {table : PseudoTable}

/-! ## The walk -/

theorem replacements_eq (media : Option Text) (rule : StyleRule) (later : List Rule)
    (selector : Text) :
    replacements media rule later selector =
      ((styleRules later).filter fun other => selector ∈ other.selectors).flatMap fun other =>
        (rule.declarations.filter fun earlier =>
          ¬ "!important".toList <:+: earlier.value).flatMap fun earlier =>
            (other.declarations.filter fun replacement =>
              replacement.property = earlier.property).map
                fun _ => ⟨selector, earlier.property, media⟩ := by
  have hsel : ∀ other : StyleRule, other.hasSelector selector = decide (selector ∈ other.selectors) :=
    fun other => List.contains_eq_mem selector other.selectors
  have himp : ∀ earlier : Declaration, (!earlier.isImportant) =
      decide (¬ "!important".toList <:+: earlier.value) := by
    intro earlier
    rw [Bool.eq_iff_iff, Bool.not_eq_true', Bool.eq_false_iff, decide_eq_true_iff, ne_eq,
      Declaration.isImportant, Text.contains_iff]
  have hprop : ∀ earlier replacement : Declaration, (earlier.property == replacement.property) =
      decide (replacement.property = earlier.property) := by
    intro earlier replacement
    rw [Bool.eq_iff_iff, beq_iff_eq, decide_eq_true_iff, eq_comm]
  simp only [replacements, hsel, himp, hprop]

theorem overwrittenAmong_visits (media : Option Text) (rule : StyleRule) (later : List Rule)
    (selectors : List Text) :
    Inquire.Visits document table (overwrittenAmong document table media rule later selectors)
      selectors
      ((selectors.filter fun selector => matched document table selector).flatMap
        (replacements media rule later)) := by
  induction selectors with
  | nil => exact .pure []
  | cons selector rest ih =>
    have hresult : ((selector :: rest).filter fun s => matched document table s).flatMap
        (replacements media rule later) =
          if matched document table selector then
            replacements media rule later selector ++
              (rest.filter fun s => matched document table s).flatMap (replacements media rule later)
          else (rest.filter fun s => matched document table s).flatMap
            (replacements media rule later) := by
      rw [List.filter_cons]
      cases matched document table selector <;> rfl
    rw [hresult]
    exact (isUsed_visits selector).bind ih.bind_pure

/-- All selectors of one rule. -/
theorem overwrittenAmong_rule_visits (media : Option Text) (rule : StyleRule) (later : List Rule) :
    Inquire.Visits document table
      (overwrittenAmong document table media rule later rule.selectors)
      ((rule.occurrences media).map Occurrence.selector)
      (overwrites document table ⟨media, rule, styleRules later⟩) := by
  rw [rule.occurrences_selectors, overwrites]
  simp only [← replacements_eq]
  exact overwrittenAmong_visits media rule later rule.selectors

theorem overwrittenUnder_visits (media : Option Text) (rules : List Rule) :
    Inquire.Visits document table (overwrittenUnder document table media rules)
      (((styleRules rules).flatMap (StyleRule.occurrences media)).map Occurrence.selector)
      ((Scope.scopedRules ⟨media, styleRules rules⟩).flatMap (overwrites document table)) := by
  induction rules with
  | nil => exact .pure []
  | cons rule later ih =>
    cases rule with
    | style rule =>
      have hselectors : ((styleRules (.style rule :: later)).flatMap
          (StyleRule.occurrences media)).map Occurrence.selector =
            (rule.occurrences media).map Occurrence.selector ++
              ((styleRules later).flatMap (StyleRule.occurrences media)).map
                Occurrence.selector := List.map_append
      rw [hselectors]
      exact (overwrittenAmong_rule_visits media rule later).append ih
    | media condition rules span => exact ih
    | atRule name preface hasBlock span => exact ih

theorem overwrittenIn_visits (rules : List Rule) :
    Inquire.Visits document table (overwrittenIn document table rules)
      ((rules.flatMap Rule.occurrences).map Occurrence.selector)
      ((rules.tails.flatMap scopedRulesAt).flatMap (overwrites document table)) := by
  induction rules with
  | nil => exact .pure []
  | cons rule later ih =>
    rw [List.tails_cons, List.flatMap_cons, List.flatMap_cons, List.flatMap_append, List.map_append]
    cases rule with
    | style rule =>
      rw [scopedRulesAt, List.flatMap_singleton]
      exact (overwrittenAmong_rule_visits none rule later).append ih
    | media condition rules span =>
      exact (overwrittenUnder_visits (some condition) rules).append ih
    | atRule name preface hasBlock span => exact ih

/-- The walk visits the occurrences of the stylesheet and returns the records of its rules. -/
theorem findOverwritten_visits (sheet : Stylesheet) :
    Inquire.Visits document table (findOverwritten document table sheet) sheet.selectors
      (sheet.scopedRules.flatMap (overwrites document table)) :=
  overwrittenIn_visits sheet.rules

/-! ## Where the records come from -/

/-- A rule and those after it end the list of their scope. -/
theorem exists_scope_of_mem_scopedRules {sheet : Stylesheet} {placed : ScopedRule}
    (h : placed ∈ sheet.scopedRules) :
    ∃ scope ∈ sheet.scopes, scope.media = placed.media ∧
      placed.rule :: placed.later <:+ scope.rules := by
  obtain ⟨tail, htail, hmem⟩ := List.mem_flatMap.mp h
  have hsuffix : tail <:+ sheet.rules := (List.mem_tails _ _).mp htail
  match tail, hmem with
  | .style rule :: later, hmem =>
    rw [scopedRulesAt, List.mem_singleton] at hmem
    subst hmem
    exact ⟨_, List.mem_cons_self, rfl, hsuffix.filterMap Rule.style?⟩
  | .media condition rules span :: later, hmem =>
    refine ⟨⟨some condition, styleRules rules⟩, List.mem_cons_of_mem _ ?_, ?_⟩
    · exact List.mem_filterMap.mpr ⟨_, hsuffix.subset List.mem_cons_self, rfl⟩
    · obtain ⟨inner, hinner, hplaced⟩ := List.mem_filterMap.mp hmem
      match inner, hplaced with
      | rule :: later, hplaced =>
        cases hplaced
        exact ⟨rfl, (List.mem_tails _ _).mp hinner⟩

/-- A record names a selector of both rules, and a property that the earlier one sets without
marking it important and the later one sets again. -/
theorem mem_overwrites {placed : ScopedRule} {record : Overwritten}
    (h : record ∈ overwrites document table placed) :
    record.media = placed.media ∧ record.selector ∈ placed.rule.selectors ∧
      matched document table record.selector = true ∧
      ∃ other ∈ placed.later, record.selector ∈ other.selectors ∧
        (∃ earlier ∈ placed.rule.declarations, earlier.property = record.property ∧
          ¬ "!important".toList <:+: earlier.value) ∧
        ∃ replacement ∈ other.declarations, replacement.property = record.property := by
  simp only [overwrites, List.mem_flatMap, List.mem_filter, List.mem_map, decide_eq_true_eq] at h
  obtain ⟨selector, ⟨hsel, hmatch⟩, other, ⟨hother, hlists⟩, earlier, ⟨hearlier, himp⟩,
    replacement, ⟨hreplacement, hprop⟩, rfl⟩ := h
  exact ⟨rfl, hsel, hmatch, other, hother, hlists, ⟨earlier, hearlier, rfl, himp⟩,
    replacement, hreplacement, hprop⟩

/-- **What is overwritten**: for a document that rejects none of the queries it is asked,
`findOverwritten` returns the records of the style rules in stylesheet order, and each of them comes
from two rules of one scope, in their order there. -/
theorem findOverwritten_eq (document : Document) (table : PseudoTable) (sheet : Stylesheet)
    (haccepts : ∀ query ∈ (findOverwritten document table sheet).record.2,
      ∃ used, document.query query = .ok used) :
    (findOverwritten document table sheet).record.1 =
        .ok (sheet.scopedRules.flatMap (overwrites document table)) ∧
      ∀ record ∈ sheet.scopedRules.flatMap (overwrites document table),
        ∃ scope ∈ sheet.scopes, scope.media = record.media ∧
          ∃ earlier later, List.Sublist [earlier, later] scope.rules ∧
            record.selector ∈ earlier.selectors ∧ record.selector ∈ later.selectors ∧
            (∃ declaration ∈ earlier.declarations, declaration.property = record.property) ∧
            ∃ replacement ∈ later.declarations, replacement.property = record.property := by
  have hrecord : (findOverwritten document table sheet).record = _ :=
    (findOverwritten_visits sheet).record_eq
  rw [hrecord] at haccepts ⊢
  have hnone : firstRejection? document table sheet.selectors = none := by
    refine firstRejection?_eq_none_of_asked fun selector hasked => ?_
    exact rejection?_eq_none.mpr (haccepts _ (List.mem_map_of_mem hasked))
  refine ⟨verdict_of_accepted hnone, fun record hmem => ?_⟩
  obtain ⟨placed, hplaced, hrec⟩ := List.mem_flatMap.mp hmem
  obtain ⟨hmedia, hsel, -, other, hother, hlists, ⟨declaration, hdecl, hprop, -⟩, hreplacement⟩ :=
    mem_overwrites hrec
  obtain ⟨scope, hscope, hscopeMedia, hsuffix⟩ := exists_scope_of_mem_scopedRules hplaced
  refine ⟨scope, hscope, hscopeMedia.trans hmedia.symm, placed.rule, other, ?_, hsel, hlists,
    ⟨declaration, hdecl, hprop⟩, hreplacement⟩
  have hpair : List.Sublist [placed.rule, other] (placed.rule :: placed.later) :=
    (List.singleton_sublist.mpr hother).cons_cons placed.rule
  exact hpair.trans hsuffix.sublist

/-- A document in which every selector matches something. -/
def Document.matchingAll : Document := ⟨fun _ => .ok true⟩

/-- The color of `.b` is set three times at the top level, and that of `.a` twice in a media block;
the offset of `.b` is set again after an important one. -/
def repeatedColors : Stylesheet :=
  let color (value : String) : Declaration := ⟨"color".toList, value.toList, .origin⟩
  let top (value : String) : Declaration := ⟨"top".toList, value.toList, .origin⟩
  ⟨[.style ⟨[".a".toList, ".b".toList], [color "red", top "0 !important"], .origin⟩,
    .media "print".toList
      [.style ⟨[".a".toList], [color "red"], .origin⟩,
        .style ⟨[".a".toList], [color "blue"], .origin⟩] .origin,
    .style ⟨[".b".toList], [color "blue", color "green", top "1px"], .origin⟩]⟩

/-- Two records at the top level, none for the important offset, and one in the block. -/
theorem findOverwritten_repeatedColors :
    (∀ query ∈ (findOverwritten .matchingAll .standard repeatedColors).record.2,
      ∃ used, Document.matchingAll.query query = .ok used) ∧
    (findOverwritten .matchingAll .standard repeatedColors).record.1 =
      .ok [⟨".b".toList, "color".toList, none⟩, ⟨".b".toList, "color".toList, none⟩,
        ⟨".a".toList, "color".toList, some "print".toList⟩] := by
  have haccepts : ∀ query ∈ (findOverwritten .matchingAll .standard repeatedColors).record.2,
      ∃ used, Document.matchingAll.query query = .ok used := fun _ _ => ⟨true, rfl⟩
  refine ⟨haccepts, (findOverwritten_eq _ _ _ haccepts).1.trans (congrArg Except.ok ?_)⟩
  decide +kernel

end StyleAudit
