import StyleAudit.Locate.Placement
import StyleAudit.Proofs.Text
import Mathlib.Data.List.Basic
import Mathlib.Order.Bounds.Basic

/-!
# The column of a property

A line is searched for a property from left to right, and an occurrence that is not the name of a
declaration is passed over as a whole. No declaration is lost that way: an occurrence that starts
inside another one follows a character of the name, so it is the end of a longer name.

- `isPropertyChar`, `Declares`: a property that stands between two texts is the name of a
  declaration.
- `declarations`: the columns at which it is one.
- `searchAfter`: the search after a part of the line; `searchAfter_skip`, `searchAfter_found`: one
  step of it.
- `declarationsAfter_skip`, `declarationsAfter_pass`: a step passes over no declaration.
- `findProperty?_least`: the search finds the first declaration if there is one.
-/

namespace StyleAudit.Locate

/-! ## Names of declarations -/

/-- Letters and digits of any script, `-` and `_`: the characters of the name of a property. -/
def isPropertyChar (c : Char) : Bool := Text.isAlphanumeric c || c == '-' || c == '_'

/-- What stands between `before` and `after` is the name of a declaration: no character of a name is
directly in front of it, and a colon follows, with nothing but blanks between them. -/
structure Declares (before after : Text) : Prop where
  alone : ∀ c ∈ before.getLast?, isPropertyChar c = false
  colon : ∃ blanks rest, after = blanks ++ ':' :: rest ∧ ∀ c ∈ blanks, Text.isBlank c = true

/-- The columns, in bytes, at which a property is the name of a declaration. -/
def declarations (property line : Text) : Set Nat :=
  {column | ∃ before after, line = before ++ property ++ after ∧ before.bytes = column ∧
    Declares before after}

/-- What the search checks at an occurrence is whether it is the name of a declaration. -/
theorem declares_iff {before after : Text} :
    (!before.getLast?.any isPropertyChar && Text.startsWith [':'] after.trimStart) = true ↔
      Declares before after := by
  have hcolon : Text.isBlank ':' = false := by decide
  rw [Bool.and_eq_true, Bool.not_eq_true', Option.any_eq_false, Text.startsWith_iff,
    Text.lead_trimStart_iff hcolon]
  constructor
  · rintro ⟨halone, hrest⟩
    exact ⟨halone, hrest⟩
  · rintro ⟨halone, hrest⟩
    exact ⟨halone, hrest⟩

instance (before after : Text) : Decidable (Declares before after) :=
  decidable_of_iff _ declares_iff

/-! ## The search, step by step -/

/-- The search in what is left of a line after `taken`. -/
def searchAfter (property taken rest : Text) : Option Nat :=
  findPropertyFrom property taken.getLast? taken.bytes 0 rest

section

variable {property taken : Text}

/-- The search goes on after the characters of an occurrence. -/
theorem findPropertyFrom_skip (property taken passed rest : Text) :
    findPropertyFrom property taken.getLast? taken.bytes passed.length (passed ++ rest) =
      searchAfter property (taken ++ passed) rest := by
  induction passed generalizing taken with
  | nil =>
    rw [List.append_nil]
    rfl
  | cons c cs ih =>
    have hnext := ih (taken ++ [c])
    rw [List.getLast?_concat, Text.bytes_append, List.append_assoc] at hnext
    exact hnext

/-- A character at which no occurrence starts is passed. -/
theorem searchAfter_skip {c : Char} {cs : Text} (h : ¬ property <+: c :: cs) :
    searchAfter property taken (c :: cs) = searchAfter property (taken ++ [c]) cs := by
  unfold searchAfter
  rw [findPropertyFrom, Text.dropLead?_eq_none_iff.mpr h, List.getLast?_concat, Text.bytes_append]
  rfl

/-- An occurrence is the answer if it is the name of a declaration, and is passed otherwise. -/
theorem searchAfter_found (hne : property ≠ []) (rest : Text) :
    searchAfter property taken (property ++ rest) =
      if Declares taken rest then some taken.bytes
      else searchAfter property (taken ++ property) rest := by
  have hlead : Text.dropLead? property (property ++ rest) = some rest :=
    Text.dropLead?_eq_some.mpr rfl
  cases property with
  | nil => exact absurd rfl hne
  | cons c cs =>
    rw [← findPropertyFrom_skip]
    rw [List.cons_append] at hlead ⊢
    unfold searchAfter
    rw [findPropertyFrom, hlead]
    simp only [← declares_iff]
    rfl

end

/-! ## What the search passes over -/

/-- The columns after `taken` at which a property is the name of a declaration. -/
def declarationsAfter (property taken rest : Text) : Set Nat :=
  {column | ∃ gap after, rest = gap ++ property ++ after ∧ (taken ++ gap).bytes = column ∧
    Declares (taken ++ gap) after}

section

variable {property taken rest : Text}

theorem declarationsAfter_nil (hne : property ≠ []) : declarationsAfter property taken [] = ∅ := by
  refine Set.eq_empty_iff_forall_notMem.mpr ?_
  rintro column ⟨gap, after, hrest, -, -⟩
  have hnil := List.append_eq_nil_iff.mp hrest.symm
  exact hne (List.append_eq_nil_iff.mp hnil.1).2

/-- What is declared after more is declared after less. -/
theorem declarationsAfter_subset (passed : Text) :
    declarationsAfter property (taken ++ passed) rest ⊆
      declarationsAfter property taken (passed ++ rest) := by
  rintro column ⟨gap, after, rfl, hcolumn, hdeclares⟩
  rw [List.append_assoc] at hcolumn hdeclares
  exact ⟨passed ++ gap, after, by simp, hcolumn, hdeclares⟩

/-- No declaration starts at a character at which no occurrence starts. -/
theorem declarationsAfter_skip {c : Char} {cs : Text} (h : ¬ property <+: c :: cs) :
    declarationsAfter property taken (c :: cs) = declarationsAfter property (taken ++ [c]) cs := by
  refine Set.Subset.antisymm ?_ (declarationsAfter_subset [c])
  rintro column ⟨gap, after, hrest, hcolumn, hdeclares⟩
  cases gap with
  | nil => exact absurd ⟨after, hrest.symm⟩ h
  | cons d ds =>
    obtain ⟨rfl, rfl⟩ := List.cons.inj hrest
    refine ⟨ds, after, rfl, ?_, ?_⟩
    · rw [List.append_assoc]
      exact hcolumn
    · rw [List.append_assoc]
      exact hdeclares

/-- **No declaration starts inside an occurrence that is passed over.** -/
theorem declarationsAfter_pass (hname : ∀ c ∈ property, isPropertyChar c = true)
    (h : ¬ Declares taken rest) :
    declarationsAfter property taken (property ++ rest) =
      declarationsAfter property (taken ++ property) rest := by
  refine Set.Subset.antisymm ?_ (declarationsAfter_subset property)
  rintro column ⟨gap, after, hrest, hcolumn, hdeclares⟩
  rw [List.append_assoc] at hrest
  rcases List.append_eq_append_iff.mp hrest with ⟨more, rfl, hmore⟩ | ⟨more, hproperty, hmore⟩
  · -- it starts after the occurrence
    rw [← List.append_assoc] at hcolumn hdeclares
    exact ⟨more, after, by rw [hmore, List.append_assoc], hcolumn, hdeclares⟩
  · -- it starts inside, after a part of the name
    rcases List.eq_nil_or_concat' gap with rfl | ⟨front, c, rfl⟩
    · rw [List.nil_append] at hrest
      rw [List.append_nil, ← List.append_cancel_left hrest] at hdeclares
      exact absurd hdeclares h
    · have hlast : c ∈ (taken ++ (front ++ [c])).getLast? := by
        rw [← List.append_assoc, List.getLast?_concat]
        rfl
      have hmem : c ∈ property := by
        rw [hproperty]
        simp
      have hpart := hdeclares.alone c hlast
      rw [hname c hmem] at hpart
      cases hpart

end

/-! ## The first declaration -/

/-- An answer is the least of some columns, or there is none. -/
def IsFirst (columns : Set Nat) : Option Nat → Prop
  | some column => IsLeast columns column
  | none => columns = ∅

theorem IsFirst.eq_some_iff {columns : Set Nat} {answer : Option Nat} (h : IsFirst columns answer)
    (column : Nat) : answer = some column ↔ IsLeast columns column := by
  cases answer with
  | none =>
    have hnone : columns = ∅ := h
    simp [hnone, IsLeast]
  | some found =>
    have hfound : IsLeast columns found := h
    constructor
    · rintro ⟨⟩
      exact hfound
    · intro hcolumn
      rw [hfound.unique hcolumn]

theorem IsFirst.eq_none_iff {columns : Set Nat} {answer : Option Nat} (h : IsFirst columns answer) :
    answer = none ↔ columns = ∅ := by
  cases answer with
  | none => exact iff_of_true rfl h
  | some found =>
    have hfound : IsLeast columns found := h
    exact iff_of_false (Option.some_ne_none found) hfound.nonempty.ne_empty

/-- **The search finds the first declaration** of what is left of a line. -/
theorem searchAfter_isFirst {property : Text} (hne : property ≠ [])
    (hname : ∀ c ∈ property, isPropertyChar c = true) (taken rest : Text) :
    IsFirst (declarationsAfter property taken rest) (searchAfter property taken rest) := by
  induction rest using Text.pass_induction hne generalizing taken with
  | nil => exact declarationsAfter_nil hne
  | skip c cs hlead ih =>
    rw [declarationsAfter_skip hlead, searchAfter_skip hlead]
    exact ih (taken ++ [c])
  | found rest ih =>
    rw [searchAfter_found hne]
    split
    · rename_i hdeclares
      -- every other one comes after what is taken
      constructor
      · exact ⟨[], rest, rfl, by rw [List.append_nil], by rwa [List.append_nil]⟩
      · rintro column ⟨gap, after, -, rfl, -⟩
        rw [Text.bytes_append]
        omega
    · rename_i hpassed
      rw [declarationsAfter_pass hname hpassed]
      exact ih (taken ++ property)

/-- **A property is found where it first is the name of a declaration.** For a name of letters,
digits, `-` and `_`, the column that is found is the least one at which the property stands without
such a character in front and with a colon after it or after the blanks that follow; nothing is
found iff there is no such column. -/
theorem findProperty?_least {property : Text} (hne : property ≠ [])
    (hname : ∀ c ∈ property, isPropertyChar c = true) (line : Text) :
    (∀ column, findProperty? property line = some column ↔
      IsLeast (declarations property line) column) ∧
    (findProperty? property line = none ↔ declarations property line = ∅) := by
  have hsearch : findProperty? property line = searchAfter property [] line := by
    rw [findProperty?, if_neg (by simpa using hne)]
    rfl
  have hfirst : IsFirst (declarations property line) (searchAfter property [] line) :=
    searchAfter_isFirst hne hname [] line
  rw [hsearch]
  exact ⟨hfirst.eq_some_iff, hfirst.eq_none_iff⟩

/-- An occurrence that overlaps one that is passed over, one at the end of a longer name, and one
after a character of several bytes and before a blank of several bytes. -/
theorem findProperty?_least_overlapping :
    let property := "a-a".toList
    property ≠ [] ∧ (∀ c ∈ property, isPropertyChar c = true) ∧
      IsLeast (declarations property "a-a-a: é b-a-a: a-a\u2003: 0".toList) 17 ∧
      declarations property "a-a-a: 0".toList = ∅ := by
  intro property
  have hne : property ≠ [] := by decide
  have hname : ∀ c ∈ property, isPropertyChar c = true := List.all_eq_true.mp (by decide)
  have hfound : findProperty? property "a-a-a: é b-a-a: a-a\u2003: 0".toList = some 17 := by
    decide +kernel
  have hnone : findProperty? property "a-a-a: 0".toList = none := by decide +kernel
  obtain ⟨hleast, -⟩ := findProperty?_least hne hname "a-a-a: é b-a-a: a-a\u2003: 0".toList
  obtain ⟨-, hempty⟩ := findProperty?_least hne hname "a-a-a: 0".toList
  exact ⟨hne, hname, (hleast 17).mp hfound, hempty.mp hnone⟩

end StyleAudit.Locate
