import StyleAudit.Inquiry

/-!
# Inquiries without their memory

`isUsed` answers a repeated selector from memory. What an inquiry returns and
which queries it puts can be said without that memory, from the list of the
selectors it visits alone.

- `rejection?`, `matched`: what a document says about one selector.
- `firstRejection?`: the rejection that stops a list of visits.
- `asked`: the selectors whose queries are really put: the distinct ones in order
  of first visit, up to and including the first rejected one.
- `Inquiry.after`: the state that a list of visits leaves behind.
- `Inquire.Visits`: a computation visits these selectors in this order, and
  returns this result if none of them is rejected.

`Visits` is kept by every way in which the checks are put together
(`Visits.pure`, `Visits.bind`) and holds of `isUsed` (`isUsed_visits`); whatever
satisfies it is described from an empty inquiry by `Visits.record_eq`.
-/

namespace StyleAudit

/-! ## What a document says about a selector -/

section Answers

variable (document : Document) (table : PseudoTable)

/-- The rejection of a selector, if the document cannot evaluate its query. -/
def rejection? (selector : Text) : Option Rejection :=
  match document.query (table.queryFor selector) with
  | .ok _ => none
  | .error message => some ⟨selector, message⟩

/-- Whether the query of a selector matches something. -/
def matched (selector : Text) : Bool :=
  match document.query (table.queryFor selector) with
  | .ok used => used
  | .error _ => false

/-- The rejection of the first selector that is rejected. -/
def firstRejection? (selectors : List Text) : Option Rejection :=
  selectors.findSome? (rejection? document table)

/-- The elements of a list up to and including the first one that satisfies `p`. -/
def throughFirst {α : Type} (p : α → Bool) (l : List α) : List α := l.take (l.findIdx p + 1)

/-- The selectors whose queries are put when `selectors` are visited. -/
def asked (selectors : List Text) : List Text :=
  throughFirst (fun selector => (rejection? document table selector).isSome) selectors.eraseDups

/-- What a visit of `selectors` returns that yields `result` unless one is rejected. -/
def verdict {α : Type} (selectors : List Text) (result : α) : Except Rejection α :=
  match firstRejection? document table selectors with
  | none => .ok result
  | some rejection => .error rejection

/-- What is on record after a visit of `selectors`. -/
def Inquiry.after (selectors : List Text) : Inquiry where
  answers :=
    (((asked document table selectors).filter fun selector =>
      (rejection? document table selector).isNone).map fun selector =>
        (selector, matched document table selector)).reverse
  queries := (asked document table selectors).map table.queryFor

end Answers

variable {document : Document} {table : PseudoTable}

theorem rejection?_eq_none {selector : Text} :
    rejection? document table selector = none ↔
      ∃ used, document.query (table.queryFor selector) = .ok used := by
  rw [rejection?]
  cases document.query (table.queryFor selector) <;> simp

theorem firstRejection?_eq_none {selectors : List Text} :
    firstRejection? document table selectors = none ↔
      ∀ selector ∈ selectors, rejection? document table selector = none :=
  List.findSome?_eq_none_iff

theorem verdict_of_accepted {α : Type} {selectors : List Text} {result : α}
    (h : firstRejection? document table selectors = none) :
    verdict document table selectors result = .ok result := by
  rw [verdict, h]

theorem verdict_isOk {α : Type} {selectors : List Text} {result : α} :
    (verdict document table selectors result).isOk ↔
      firstRejection? document table selectors = none := by
  rw [verdict]
  cases firstRejection? document table selectors <;> simp [Except.isOk, Except.toBool]

/-! ## The cut at the first rejection -/

theorem throughFirst_eq_self {α : Type} {p : α → Bool} {l : List α} (h : ∀ a ∈ l, p a = false) :
    throughFirst p l = l := by
  rw [throughFirst, List.findIdx_eq_length_of_false h]
  exact List.take_of_length_le (Nat.le_succ _)

/-- Nothing after the first hit matters. -/
theorem throughFirst_append_of_hit {α : Type} {p : α → Bool} {a : α} {l more : List α}
    (ha : a ∈ l) (hp : p a = true) : throughFirst p (l ++ more) = throughFirst p l := by
  have hlt : l.findIdx p < l.length := List.findIdx_lt_length_of_exists ⟨a, ha, hp⟩
  rw [throughFirst, throughFirst, List.findIdx_append, if_pos hlt]
  exact List.take_append_of_le_length hlt

theorem throughFirst_concat {α : Type} {p : α → Bool} {l : List α} (h : ∀ a ∈ l, p a = false)
    (a : α) : throughFirst p (l ++ [a]) = l ++ [a] := by
  have hlen : l.findIdx p = l.length := List.findIdx_eq_length_of_false h
  rw [throughFirst, List.findIdx_append, hlen, if_neg (Nat.lt_irrefl _)]
  refine List.take_of_length_le ?_
  rw [List.length_append, List.length_singleton]
  omega

theorem asked_eq_eraseDups {selectors : List Text}
    (h : firstRejection? document table selectors = none) :
    asked document table selectors = selectors.eraseDups := by
  refine throughFirst_eq_self fun selector hs => ?_
  rw [firstRejection?_eq_none.mp h selector (List.mem_eraseDups.mp hs)]
  rfl

/-- The first hit is the last element that is kept. -/
theorem exists_mem_throughFirst {α : Type} {p : α → Bool} {a : α} {l : List α} (ha : a ∈ l)
    (hp : p a = true) : ∃ b ∈ throughFirst p l, p b = true := by
  have hlt : l.findIdx p < l.length := List.findIdx_lt_length_of_exists ⟨a, ha, hp⟩
  refine ⟨l[l.findIdx p], List.mem_take_iff_getElem.mpr ⟨l.findIdx p, ?_, rfl⟩, ?_⟩
  · omega
  · exact List.findIdx_getElem

/-- If none that is asked is rejected, none is. -/
theorem firstRejection?_eq_none_of_asked {selectors : List Text}
    (h : ∀ selector ∈ asked document table selectors,
      rejection? document table selector = none) :
    firstRejection? document table selectors = none := by
  rw [firstRejection?_eq_none]
  intro selector hs
  cases hr : rejection? document table selector with
  | none => rfl
  | some rejection =>
    have hsome : (rejection? document table selector).isSome = true := by rw [hr]; rfl
    obtain ⟨other, hother, hrejected⟩ := exists_mem_throughFirst (List.mem_eraseDups.mpr hs)
      (p := fun s => (rejection? document table s).isSome) hsome
    rw [h other hother] at hrejected
    cases hrejected

/-- What comes after a rejected selector is never asked. -/
theorem asked_append_of_rejected {selectors : List Text} {rejection : Rejection}
    (h : firstRejection? document table selectors = some rejection) (more : List Text) :
    asked document table (selectors ++ more) = asked document table selectors := by
  obtain ⟨selector, hs, hr⟩ := List.exists_of_findSome?_eq_some h
  rw [asked, List.eraseDups_append]
  refine throughFirst_append_of_hit (List.mem_eraseDups.mpr hs) ?_
  rw [hr]
  rfl

theorem eraseDups_concat_of_mem {selectors : List Text} {selector : Text}
    (h : selector ∈ selectors) : (selectors ++ [selector]).eraseDups = selectors.eraseDups := by
  simp [List.eraseDups_append, List.cons_removeAll, h]

theorem eraseDups_concat_of_not_mem {selectors : List Text} {selector : Text}
    (h : selector ∉ selectors) :
    (selectors ++ [selector]).eraseDups = selectors.eraseDups ++ [selector] := by
  simp [List.eraseDups_append, List.cons_removeAll, h, List.eraseDups_cons]

/-- A selector that was visited before is not asked again. -/
theorem asked_concat_of_mem {before : List Text} {selector : Text} (h : selector ∈ before) :
    asked document table (before ++ [selector]) = asked document table before := by
  rw [asked, eraseDups_concat_of_mem h, asked]

/-- A new selector is asked last, whatever the answer. -/
theorem asked_concat_of_not_mem {before : List Text} {selector : Text}
    (hbefore : firstRejection? document table before = none) (h : selector ∉ before) :
    asked document table (before ++ [selector]) = asked document table before ++ [selector] := by
  rw [asked_eq_eraseDups hbefore, asked, eraseDups_concat_of_not_mem h]
  refine throughFirst_concat (fun other hother => ?_) selector
  rw [firstRejection?_eq_none.mp hbefore other (List.mem_eraseDups.mp hother)]
  rfl

theorem eraseDups_nodup : ∀ l : List Text, l.eraseDups.Nodup
  | [] => List.nodup_nil
  | a :: l => by
    rw [List.eraseDups_cons, List.nodup_cons]
    refine ⟨fun h => ?_, eraseDups_nodup _⟩
    simpa using List.mem_eraseDups.mp h
  termination_by l => l.length
  decreasing_by exact Nat.lt_succ_of_le (List.length_filter_le _ _)

/-- No selector is asked twice. -/
theorem asked_nodup (selectors : List Text) : (asked document table selectors).Nodup :=
  (eraseDups_nodup selectors).sublist (List.take_sublist _ _)

/-! ## The state after a list of visits -/

/-- A table of the values of a function finds each of its keys. -/
theorem lookup_map_of_mem {f : Text → Bool} {selector : Text} :
    ∀ {l : List Text}, selector ∈ l → (l.map fun s => (s, f s)).lookup selector = some (f selector)
  | s :: rest, h => by
    rw [List.map_cons, List.lookup_cons]
    by_cases hs : selector = s
    · simp [hs]
    · have hbeq : (selector == s) = false := by simpa using hs
      rw [hbeq]
      exact lookup_map_of_mem ((List.mem_cons.mp h).resolve_left hs)

/-- What is remembered after `before` about a selector visited there. -/
theorem lookup_after_of_mem {before : List Text} {selector : Text}
    (hbefore : firstRejection? document table before = none) (h : selector ∈ before) :
    (Inquiry.after document table before).answers.lookup selector =
      some (matched document table selector) := by
  have haccepted := firstRejection?_eq_none.mp hbefore selector h
  rw [Inquiry.after, asked_eq_eraseDups hbefore, ← List.map_reverse]
  refine lookup_map_of_mem ?_
  simp [List.mem_eraseDups, h, haccepted]

/-- Nothing is remembered about a selector that was not visited. -/
theorem lookup_after_of_not_mem {before : List Text} {selector : Text} (h : selector ∉ before) :
    (Inquiry.after document table before).answers.lookup selector = none := by
  rw [List.lookup_eq_none_iff]
  rintro ⟨other, used⟩ hmem
  simp only [Inquiry.after, List.mem_reverse, List.mem_map, List.mem_filter, Prod.mk.injEq] at hmem
  obtain ⟨s, ⟨hs, -⟩, rfl, -⟩ := hmem
  have hvisited : s ∈ before := List.mem_eraseDups.mp (List.mem_of_mem_take hs)
  have hne : selector ≠ s := fun heq => h (heq ▸ hvisited)
  simpa using hne

theorem after_concat_of_mem {before : List Text} {selector : Text} (h : selector ∈ before) :
    Inquiry.after document table (before ++ [selector]) = Inquiry.after document table before := by
  rw [Inquiry.after, asked_concat_of_mem h, Inquiry.after]

/-- A new selector leaves its query on record, and its answer if it has one. -/
theorem after_concat_of_not_mem {before : List Text} {selector : Text}
    (hbefore : firstRejection? document table before = none) (h : selector ∉ before) :
    Inquiry.after document table (before ++ [selector]) =
      { answers :=
          (if (rejection? document table selector).isNone then
            [(selector, matched document table selector)] else []) ++
            (Inquiry.after document table before).answers
        queries := (Inquiry.after document table before).queries ++ [table.queryFor selector] } := by
  rw [Inquiry.after, asked_concat_of_not_mem hbefore h, List.filter_append, List.map_append,
    List.reverse_append, List.map_append]
  cases hr : rejection? document table selector <;> simp [Inquiry.after, hr]

theorem after_append_of_rejected {selectors : List Text} {rejection : Rejection}
    (h : firstRejection? document table selectors = some rejection) (more : List Text) :
    Inquiry.after document table (selectors ++ more) = Inquiry.after document table selectors := by
  rw [Inquiry.after, asked_append_of_rejected h, Inquiry.after]

/-! ## Running a computation -/

namespace Inquire

variable {α β : Type}

/-- What a computation returns and what is on record after it. -/
def runFrom (inquire : Inquire α) (inquiry : Inquiry) : Except Rejection α × Inquiry :=
  StateT.run (ExceptT.run inquire) inquiry

@[simp] theorem runFrom_pure (a : α) (inquiry : Inquiry) :
    runFrom (pure a) inquiry = (.ok a, inquiry) := rfl

@[simp] theorem runFrom_get (inquiry : Inquiry) :
    runFrom (get : Inquire Inquiry) inquiry = (.ok inquiry, inquiry) := rfl

@[simp] theorem runFrom_modify (change : Inquiry → Inquiry) (inquiry : Inquiry) :
    runFrom (modify change : Inquire PUnit) inquiry = (.ok ⟨⟩, change inquiry) := rfl

@[simp] theorem runFrom_throw (rejection : Rejection) (inquiry : Inquiry) :
    runFrom (throw rejection : Inquire α) inquiry = (.error rejection, inquiry) := rfl

/-- A rejection skips what would come next. -/
theorem runFrom_bind (inquire : Inquire α) (next : α → Inquire β) (inquiry : Inquiry) :
    runFrom (inquire >>= next) inquiry =
      match runFrom inquire inquiry with
      | (.ok a, later) => runFrom (next a) later
      | (.error rejection, later) => (.error rejection, later) := by
  show runFrom (ExceptT.bind inquire next) inquiry = _
  cases h : runFrom inquire inquiry with
  | mk outcome later =>
    have hrun : inquire inquiry = (outcome, later) := h
    simp only [runFrom, ExceptT.bind, ExceptT.mk, ExceptT.run, StateT.run, bind, StateT.bind, hrun]
    cases outcome with
    | ok a => rfl
    | error rejection => rfl

theorem record_eq_runFrom (inquire : Inquire α) :
    inquire.record =
      ((runFrom inquire Inquiry.empty).1, (runFrom inquire Inquiry.empty).2.queries) := rfl

end Inquire

/-- One question: from memory if there is an answer, from the document if not. -/
theorem runFrom_isUsed (selector : Text) (inquiry : Inquiry) :
    Inquire.runFrom (isUsed document table selector) inquiry =
      match inquiry.answers.lookup selector with
      | some used => (.ok used, inquiry)
      | none =>
        match document.query (table.queryFor selector) with
        | .ok used =>
          (.ok used, ⟨(selector, used) :: inquiry.answers,
            inquiry.queries ++ [table.queryFor selector]⟩)
        | .error message =>
          (.error ⟨selector, message⟩, ⟨inquiry.answers,
            inquiry.queries ++ [table.queryFor selector]⟩) := by
  rw [isUsed, Inquire.runFrom_bind, Inquire.runFrom_get]
  cases hmemory : inquiry.answers.lookup selector with
  | some used => simp only [hmemory, Inquire.runFrom_pure]
  | none =>
    simp only [hmemory, Inquire.runFrom_bind, Inquire.runFrom_modify]
    cases document.query (table.queryFor selector) with
    | ok used =>
      simp only [Inquire.runFrom_bind, Inquire.runFrom_modify, Inquire.runFrom_pure]
    | error message => rw [Inquire.runFrom_throw]

/-! ## Computations that visit selectors -/

/-- A computation visits `selectors` in this order and returns `result` unless one of
them is rejected, whatever was visited before without a rejection. -/
def Inquire.Visits {α : Type} (document : Document) (table : PseudoTable)
    (inquire : Inquire α) (selectors : List Text) (result : α) : Prop :=
  ∀ before, firstRejection? document table before = none →
    inquire.runFrom (.after document table before) =
      (verdict document table selectors result, .after document table (before ++ selectors))

theorem firstRejection?_append (xs ys : List Text) :
    firstRejection? document table (xs ++ ys) =
      (firstRejection? document table xs).or (firstRejection? document table ys) :=
  List.findSome?_append

namespace Inquire.Visits

variable {α β : Type}

theorem pure (a : α) : Inquire.Visits document table (Pure.pure a) [] a := by
  intro before _
  rw [List.append_nil]
  rfl

theorem bind {inquire : Inquire α} {next : α → Inquire β} {xs ys : List Text} {a : α} {b : β}
    (hfirst : Inquire.Visits document table inquire xs a)
    (hnext : Inquire.Visits document table (next a) ys b) :
    Inquire.Visits document table (inquire >>= next) (xs ++ ys) b := by
  intro before hbefore
  rw [runFrom_bind, hfirst before hbefore, verdict, verdict, firstRejection?_append]
  cases hxs : firstRejection? document table xs with
  | none =>
    have hboth : firstRejection? document table (before ++ xs) = none := by
      rw [firstRejection?_append, hbefore, hxs]
      rfl
    show runFrom (next a) (.after document table (before ++ xs)) = _
    rw [hnext _ hboth, List.append_assoc]
    rfl
  | some rejection =>
    -- the first part was stopped, and nothing of the second part is on record
    have hboth : firstRejection? document table (before ++ xs) = some rejection := by
      rw [firstRejection?_append, hbefore, hxs]
      rfl
    show (_, _) = (_, _)
    rw [← List.append_assoc, after_append_of_rejected hboth]
    rfl

/-- What is returned may be put into another form. -/
theorem bind_pure {inquire : Inquire α} {f : α → β} {xs : List Text} {a : α}
    (h : Inquire.Visits document table inquire xs a) :
    Inquire.Visits document table (inquire >>= fun a => Pure.pure (f a)) xs (f a) := by
  have hbind : Inquire.Visits document table (inquire >>= fun a => Pure.pure (f a)) (xs ++ [])
      (f a) := h.bind (Visits.pure (f a))
  rwa [List.append_nil] at hbind

/-- Two lists of findings, one after the other. -/
theorem append {here others : Inquire (List α)} {xs ys : List Text} {as bs : List α}
    (hhere : Inquire.Visits document table here xs as)
    (hothers : Inquire.Visits document table others ys bs) :
    Inquire.Visits document table
      (here >>= fun as => others >>= fun bs => Pure.pure (as ++ bs)) (xs ++ ys) (as ++ bs) :=
  hhere.bind hothers.bind_pure

/-- From an empty inquiry: the outcome follows the first rejection, and the queries are
those of the distinct selectors up to it. -/
theorem record_eq {inquire : Inquire α} {selectors : List Text} {result : α}
    (h : Inquire.Visits document table inquire selectors result) :
    inquire.record =
      (verdict document table selectors result,
        (asked document table selectors).map table.queryFor) := by
  have hrun := h [] rfl
  have hempty : Inquiry.after document table [] = Inquiry.empty := rfl
  rw [hempty, List.nil_append] at hrun
  rw [record_eq_runFrom, hrun]
  rfl

end Inquire.Visits

/-- One question is one visit. -/
theorem isUsed_visits (selector : Text) :
    Inquire.Visits document table (isUsed document table selector) [selector]
      (matched document table selector) := by
  intro before hbefore
  rw [runFrom_isUsed]
  by_cases hseen : selector ∈ before
  · have haccepted := firstRejection?_eq_none.mp hbefore selector hseen
    rw [lookup_after_of_mem hbefore hseen, after_concat_of_mem hseen, verdict,
      firstRejection?, List.findSome?_singleton, haccepted]
  · rw [lookup_after_of_not_mem hseen, after_concat_of_not_mem hbefore hseen, verdict,
      firstRejection?, List.findSome?_singleton, rejection?, matched]
    cases document.query (table.queryFor selector) <;> rfl

end StyleAudit
