import StyleAudit.Findings
import StyleAudit.Proofs.Override
import StyleAudit.Proofs.Usage

/-!
# The two checks together

The walks for unused selectors and for overwritten declarations are written apart and remember
answers apart, but they visit the same selectors in the same order. So they put the same queries, are
stopped by the same rejection, and neither check changes what the other one finds.

- `Checks.run_eq_verdict`: the outcome of a run with some check on.
- `checks_agree`: the two walks side by side, and the runs with one or both checks on.
-/

namespace StyleAudit

open Css (Stylesheet)

variable {document : Document} {table : PseudoTable} {sheet : Stylesheet}

theorem verdict_map {α β : Type} (f : α → β) (selectors : List Text) (result : α) :
    (verdict document table selectors result).map f = verdict document table selectors (f result) := by
  rw [verdict, verdict]
  cases firstRejection? document table selectors <;> rfl

namespace Checks

/-- What is found by the enabled checks, unless a visited selector is rejected. -/
def found (checks : Checks) (document : Document) (sheet : Stylesheet) : Findings where
  unused := if checks.unused then unmatched document checks.table sheet.occurrences else []
  overwritten :=
    if checks.overwritten then sheet.scopedRules.flatMap (overwrites document checks.table) else []

/-- A run with some check on is stopped by the first rejection or returns what is found. -/
theorem run_eq_verdict {checks : Checks} (h : checks.unused = true ∨ checks.overwritten = true) :
    (checks.run document sheet).1 =
      verdict document checks.table sheet.selectors (checks.found document sheet) := by
  obtain ⟨unused, overwritten, table⟩ := checks
  have hunused : (findUnused document table sheet).record = _ := (findUnused_visits sheet).record_eq
  have hoverwritten : (findOverwritten document table sheet).record = _ :=
    (findOverwritten_visits sheet).record_eq
  simp only [run, hunused, hoverwritten, verdict, found]
  cases firstRejection? document table sheet.selectors <;> cases unused <;> cases overwritten <;>
    simp_all

end Checks

/-- A reported selector without a match is not one whose declarations are overwritten. -/
theorem selector_ne_of_unmatched {unused : Unused} {record : Overwritten}
    (hunused : unused ∈ unmatched document table sheet.occurrences)
    (hrecord : record ∈ sheet.scopedRules.flatMap (overwrites document table)) :
    unused.selector ≠ record.selector := by
  intro heq
  obtain ⟨occurrence, hoccurrence, rfl⟩ := List.mem_map.mp hunused
  have hfalse : (!matched document table occurrence.selector) = true :=
    (List.mem_filter.mp hoccurrence).2
  obtain ⟨placed, -, hplaced⟩ := List.mem_flatMap.mp hrecord
  obtain ⟨-, -, htrue, -⟩ := mem_overwrites hplaced
  rw [← heq] at htrue
  rw [htrue] at hfalse
  cases hfalse

/-- **The checks are independent**: both walks put the same queries and succeed or fail alike, with
the same rejection. So whichever checks are on, a run succeeds or fails alike; the list of each check
is that of a run without the other; and no selector is reported by both. -/
theorem checks_agree (document : Document) (table : PseudoTable) (sheet : Stylesheet) :
    (findUnused document table sheet).record.2 = (findOverwritten document table sheet).record.2 ∧
      (findUnused document table sheet).record.1.map (fun _ => ()) =
        (findOverwritten document table sheet).record.1.map (fun _ => ()) ∧
      (∀ checks : Checks, checks.table = table → (checks.unused = true ∨ checks.overwritten = true) →
        (checks.run document sheet).1.map (fun _ => ()) =
          (findUnused document table sheet).record.1.map (fun _ => ())) ∧
      (∀ flag : Bool, (Checks.run ⟨true, flag, table⟩ document sheet).1.map Findings.unused =
        (Checks.run ⟨true, false, table⟩ document sheet).1.map Findings.unused) ∧
      (∀ flag : Bool, (Checks.run ⟨flag, true, table⟩ document sheet).1.map Findings.overwritten =
        (Checks.run ⟨false, true, table⟩ document sheet).1.map Findings.overwritten) ∧
      ∀ findings, (Checks.run ⟨true, true, table⟩ document sheet).1 = .ok findings →
        ∀ unused ∈ findings.unused, ∀ record ∈ findings.overwritten,
          unused.selector ≠ record.selector := by
  have hunused : (findUnused document table sheet).record = _ := (findUnused_visits sheet).record_eq
  have hoverwritten : (findOverwritten document table sheet).record = _ :=
    (findOverwritten_visits sheet).record_eq
  rw [hunused, hoverwritten]
  refine ⟨rfl, ?_, ?_, ?_, ?_, ?_⟩
  · show (verdict ..).map _ = (verdict ..).map _
    rw [verdict_map, verdict_map]
  · rintro checks rfl hon
    rw [Checks.run_eq_verdict hon, verdict_map, verdict_map]
  · intro flag
    rw [Checks.run_eq_verdict (.inl rfl), Checks.run_eq_verdict (.inl rfl), verdict_map, verdict_map]
    rfl
  · intro flag
    rw [Checks.run_eq_verdict (.inr rfl), Checks.run_eq_verdict (.inr rfl), verdict_map, verdict_map]
    rfl
  · intro findings hrun unused hmem record hrecord
    rw [Checks.run_eq_verdict (.inl rfl), verdict] at hrun
    cases hfirst : firstRejection? document table sheet.selectors with
    | none =>
      rw [hfirst] at hrun
      cases hrun
      exact selector_ne_of_unmatched hmem hrecord
    | some rejection =>
      rw [hfirst] at hrun
      cases hrun

end StyleAudit
