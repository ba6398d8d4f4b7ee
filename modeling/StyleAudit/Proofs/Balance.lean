import StyleAudit.Text.Basic
import Mathlib.Data.List.Infix

/-!
# Balanced brackets

Some items of a list open a bracket and some close one.

- `Leads`: the items never close a bracket that is not open, and lead from one number of open
  brackets to another.
- `Balanced`: they lead from none to none.
- `leads_append`: items lead somewhere in two parts iff they do as a whole.
- `Leads.add`, `Leads.final_eq`: the same items from further inside, and where they lead is unique.
- `LeadAlike`: lists that lead alike can take each other's place.
- `Overcloses`: the list closes a bracket that was open before it.
- `leads_brackets_iff`, `overcloses_brackets_iff`: only the brackets among the items matter.
-/

namespace StyleAudit

variable {α : Type} (opens closes : α → Bool)

/-- From `depth` open brackets the items lead to `final` of them: no start of the list closes more
than are open. -/
structure Leads (depth : Nat) (items : List α) (final : Nat) : Prop where
  starts : ∀ front, front <+: items → front.countP closes ≤ front.countP opens + depth
  totals : items.countP opens + depth = items.countP closes + final

/-- No start of the list closes more brackets than it opens, and the whole list closes as many as
it opens. -/
def Balanced (items : List α) : Prop := Leads opens closes 0 items 0

variable {opens closes} {items : List α} {depth final : Nat}

instance : Decidable (Leads opens closes depth items final) :=
  decidable_of_iff ((∀ front ∈ items.inits, front.countP closes ≤ front.countP opens + depth) ∧
      items.countP opens + depth = items.countP closes + final)
    ⟨fun h => ⟨fun front hfront => h.1 front ((List.mem_inits _ _).mpr hfront), h.2⟩,
      fun h => ⟨fun front hfront => h.starts front ((List.mem_inits _ _).mp hfront), h.totals⟩⟩

instance : Decidable (Balanced opens closes items) :=
  inferInstanceAs (Decidable (Leads opens closes 0 items 0))

theorem leads_nil : Leads opens closes depth [] final ↔ depth = final := by
  constructor
  · intro h
    simpa using h.totals
  · rintro rfl
    exact ⟨fun front hfront => by simp [List.prefix_nil.mp hfront], rfl⟩

theorem leads_singleton {item : α} :
    Leads opens closes depth [item] final ↔
      (opens item).toNat + depth = (closes item).toNat + final := by
  have hcount : ∀ p : α → Bool, [item].countP p = (p item).toNat := by
    intro p
    cases hp : p item <;> simp [hp]
  constructor
  · intro h
    have htotals := h.totals
    rwa [hcount, hcount] at htotals
  · intro h
    refine ⟨fun front hfront => ?_, by rw [hcount, hcount, h]⟩
    rcases List.prefix_cons_iff.mp hfront with rfl | ⟨rest, rfl, hrest⟩
    · simp
    · rw [List.prefix_nil.mp hrest, hcount, hcount]
      omega

/-- **Items lead somewhere in two parts iff they do as a whole.** -/
theorem leads_append {xs ys : List α} :
    Leads opens closes depth (xs ++ ys) final ↔
      ∃ middle, Leads opens closes depth xs middle ∧ Leads opens closes middle ys final := by
  constructor
  · intro h
    have hxs := h.starts xs (List.prefix_append xs ys)
    have htotals := h.totals
    simp only [List.countP_append] at htotals
    refine ⟨xs.countP opens + depth - xs.countP closes, ⟨?_, by omega⟩, ⟨?_, by omega⟩⟩
    · intro front hfront
      exact h.starts front (hfront.trans (List.prefix_append xs ys))
    · intro front hfront
      have hstart := h.starts (xs ++ front) ((List.prefix_append_right_inj xs).mpr hfront)
      simp only [List.countP_append] at hstart
      omega
  · rintro ⟨middle, hxs, hys⟩
    have hmiddle := hxs.totals
    have htotals := hys.totals
    refine ⟨fun front hfront => ?_, by simp only [List.countP_append]; omega⟩
    -- a start of the whole list lies in the first part, or reaches into the second
    obtain ⟨rest, hrest⟩ := hfront
    rcases List.append_eq_append_iff.mp hrest with ⟨more, rfl, -⟩ | ⟨more, rfl, rfl⟩
    · exact hxs.starts front (List.prefix_append front more)
    · have hstart := hys.starts more (List.prefix_append more rest)
      simp only [List.countP_append]
      omega

/-- The same items from further inside. -/
theorem Leads.add (h : Leads opens closes depth items final) (more : Nat) :
    Leads opens closes (depth + more) items (final + more) where
  starts front hfront := by
    have hstart := h.starts front hfront
    omega
  totals := by
    have htotals := h.totals
    omega

theorem Leads.final_eq {other : Nat} (h : Leads opens closes depth items final)
    (h' : Leads opens closes depth items other) : final = other := by
  have htotals := h.totals
  have htotals' := h'.totals
  omega

/-- From any depth balanced items lead back to it. -/
theorem Balanced.leads (h : Balanced opens closes items) (depth : Nat) :
    Leads opens closes depth items depth := by
  have hadd := Leads.add h depth
  rwa [Nat.zero_add] at hadd

/-! ## Lists that lead alike -/

variable (opens closes) in
/-- Two lists lead from the same depths to the same depths. -/
def LeadAlike (xs ys : List α) : Prop :=
  ∀ depth final, Leads opens closes depth xs final ↔ Leads opens closes depth ys final

namespace LeadAlike

variable {xs xs' ys ys' zs : List α}

theorem refl (xs : List α) : LeadAlike opens closes xs xs := fun _ _ => Iff.rfl

theorem symm (h : LeadAlike opens closes xs ys) : LeadAlike opens closes ys xs :=
  fun depth final => (h depth final).symm

theorem trans (h : LeadAlike opens closes xs ys) (h' : LeadAlike opens closes ys zs) :
    LeadAlike opens closes xs zs :=
  fun depth final => (h depth final).trans (h' depth final)

theorem append (h : LeadAlike opens closes xs xs') (h' : LeadAlike opens closes ys ys') :
    LeadAlike opens closes (xs ++ ys) (xs' ++ ys') := by
  intro depth final
  rw [leads_append, leads_append]
  exact exists_congr fun middle => and_congr (h depth middle) (h' middle final)

/-- Balanced items lead nowhere. -/
theorem of_balanced (h : Balanced opens closes xs) : LeadAlike opens closes xs [] := by
  intro depth final
  rw [leads_nil]
  constructor
  · intro hleads
    exact (h.leads depth).final_eq hleads
  · rintro rfl
    exact h.leads depth

end LeadAlike

/-! ## The brackets alone -/

/-- Some start of the list closes more brackets than it opens. -/
def Overcloses (opens closes : α → Bool) (items : List α) : Prop :=
  ∃ front, front <+: items ∧ front.countP opens < front.countP closes

/-- The brackets among some items. -/
def bracketsOf (opens closes : α → Bool) (items : List α) : List α :=
  items.filter fun item => opens item || closes item

theorem countP_opens_brackets (items : List α) :
    (bracketsOf opens closes items).countP opens = items.countP opens := by
  rw [bracketsOf, List.countP_filter]
  refine List.countP_congr fun item _ => ?_
  cases opens item <;> simp

theorem countP_closes_brackets (items : List α) :
    (bracketsOf opens closes items).countP closes = items.countP closes := by
  rw [bracketsOf, List.countP_filter]
  refine List.countP_congr fun item _ => ?_
  cases closes item <;> simp

/-- A start of the brackets is what a start of the list has of them. -/
theorem exists_start_of_brackets {front items : List α}
    (h : front <+: bracketsOf opens closes items) :
    ∃ start, start <+: items ∧ front = bracketsOf opens closes start :=
  List.prefix_filter_iff.mp h

/-- **Only the brackets among the items matter.** -/
theorem leads_brackets_iff :
    Leads opens closes depth (bracketsOf opens closes items) final ↔
      Leads opens closes depth items final := by
  constructor
  · intro h
    refine ⟨fun front hfront => ?_, ?_⟩
    · have hstart := h.starts _ (hfront.filter _)
      rwa [← bracketsOf, countP_opens_brackets, countP_closes_brackets] at hstart
    · have htotals := h.totals
      rwa [countP_opens_brackets, countP_closes_brackets] at htotals
  · intro h
    refine ⟨fun front hfront => ?_, ?_⟩
    · obtain ⟨start, hstart, rfl⟩ := exists_start_of_brackets hfront
      rw [countP_opens_brackets, countP_closes_brackets]
      exact h.starts start hstart
    · rw [countP_opens_brackets, countP_closes_brackets]
      exact h.totals

theorem overcloses_brackets_iff :
    Overcloses opens closes (bracketsOf opens closes items) ↔ Overcloses opens closes items := by
  constructor
  · rintro ⟨front, hfront, hmore⟩
    obtain ⟨start, hstart, rfl⟩ := exists_start_of_brackets hfront
    rw [countP_opens_brackets, countP_closes_brackets] at hmore
    exact ⟨start, hstart, hmore⟩
  · rintro ⟨front, hfront, hmore⟩
    refine ⟨bracketsOf opens closes front, hfront.filter _, ?_⟩
    rwa [countP_opens_brackets, countP_closes_brackets]

/-- Items with the same brackets lead alike. -/
theorem LeadAlike.of_brackets {xs ys : List α}
    (h : bracketsOf opens closes xs = bracketsOf opens closes ys) :
    LeadAlike opens closes xs ys := by
  intro depth final
  rw [← leads_brackets_iff, h, leads_brackets_iff]

end StyleAudit
