import StyleAudit.Proofs.Template.Parentheses

/-!
# Host calls of a word

A word falls apart into texts without host calls and the calls between them. Turning hosts into the
root keeps these texts and the arguments of the calls, and puts the root where a call was opened; a
host that stands in what is kept is still there afterwards.

- `closing?_of_leads`, `closing?_eq_none`: where a call is closed, and when it never is.
- `Call`, `Reads`: a word as it is read, from call to call.
- `exists_reads`, `Reads.hostCallsToRoot_eq`: every word is read so, and the result is made of the
  root and what is kept of each call.
- `hostToRoot_calls`: words whose calls are all closed, and words with a call that never is.
- `hostToRoot_of_free`, `hostToRoot_hostless`: a word without calls loses all its hosts, and any
  other one does iff there is none in what is kept.
-/

namespace StyleAudit.Template

/-! ## The parenthesis that closes a call -/

theorem closing?_open (depth : Nat) (text : Text) :
    closing? depth ('(' :: text) =
      (closing? (depth + 1) text).map fun sides => ('(' :: sides.1, sides.2) := by
  cases depth <;> rfl

theorem closing?_other {c : Char} (hopen : c ≠ '(') (hclose : c ≠ ')') (depth : Nat) (text : Text) :
    closing? depth (c :: text) =
      (closing? depth text).map fun sides => (c :: sides.1, sides.2) := by
  cases depth <;> simp [closing?, hclose]

/-- **A call is closed after what closes all that was opened since.** -/
theorem closing?_of_leads {depth : Nat} {inside : Text}
    (h : Leads opensParen closesParen depth inside 0) (rest : Text) :
    closing? depth (inside ++ ')' :: rest) = some (inside, rest) := by
  induction inside generalizing depth with
  | nil =>
    obtain rfl := leads_nil.mp h
    rfl
  | cons c cs ih =>
    -- the first character leads to the depth from which the others lead to none
    obtain ⟨middle, hfirst, hlater⟩ := leads_append.mp (show Leads _ _ depth ([c] ++ cs) 0 from h)
    have hstep := leads_singleton.mp hfirst
    rw [List.cons_append]
    by_cases hopen : c = '('
    · subst hopen
      have hmiddle : middle = depth + 1 := by
        have hcount : 1 + depth = 0 + middle := hstep
        omega
      subst hmiddle
      rw [closing?_open, ih hlater]
      rfl
    · by_cases hclose : c = ')'
      · subst hclose
        have hdepth : depth = middle + 1 := by
          have hcount : 0 + depth = 1 + middle := hstep
          omega
        subst hdepth
        show (closing? middle (cs ++ ')' :: rest)).map _ = _
        rw [ih hlater]
        rfl
      · have hsame := (leads_other hopen hclose depth).final_eq hfirst
        subst hsame
        rw [closing?_other hopen hclose, ih hlater]
        rfl

/-- A call is never closed in a text that closes nothing that was open before it. -/
theorem closing?_eq_none {text : Text} (h : ¬ Overcloses opensParen closesParen text) :
    closing? 0 text = none := by
  cases hclose : closing? 0 text with
  | none => rfl
  | some sides =>
    obtain ⟨inside, rest⟩ := sides
    rw [closing?_eq_append hclose] at h
    exact absurd (overcloses_of_balanced (closing?_leads hclose) rest) h

/-! ## Words from call to call -/

/-- A host call, with the text after it up to the next call: one that is closed has an argument, one
that is never closed has only that text. -/
inductive Call where
  | closed (argument after : Text)
  | unclosed (after : Text)

/-- What is kept of a call: its argument, joined with the text after it. -/
def Call.kept : Call → Text
  | closed argument after => argument ++ after
  | unclosed after => after

/-- A word is read as a text without calls and the calls after it. -/
inductive Reads : Text → Text → List Call → Prop
  | free {lead : Text} (hlead : ¬ hostCall <:+: lead) : Reads lead lead []
  | closed {lead argument rest after : Text} {calls : List Call} (hlead : ¬ hostCall <:+: lead)
      (hargument : ParensBalanced argument) (later : Reads rest after calls) :
      Reads (lead ++ hostCall ++ (argument ++ ')' :: rest)) lead (.closed argument after :: calls)
  | unclosed {lead inner after : Text} {calls : List Call} (hlead : ¬ hostCall <:+: lead)
      (hinner : ¬ Overcloses opensParen closesParen inner) (later : Reads inner after calls) :
      Reads (lead ++ hostCall ++ inner) lead (.unclosed after :: calls)

/-- The first call of a word is the one that no other is before. -/
theorem cut?_hostCall {lead : Text} (hlead : ¬ hostCall <:+: lead) (inner : Text) :
    Text.cut? hostCall (lead ++ hostCall ++ inner) = some (lead, inner) := by
  have hsome : (Text.cut? hostCall (lead ++ hostCall ++ inner)).isSome :=
    Text.cut?_isSome_of_append lead
  obtain ⟨⟨before, after⟩, hcut⟩ := Option.isSome_iff_exists.mp hsome
  have hfirst : ¬ hostCall <:+: before := Text.not_part_before_cut (by decide +kernel) hcut
  have hsame := Text.cut?_eq_append hcut
  have hafter : after = inner := by
    rcases call_after hlead hsame with hafter | ⟨gap, hgap⟩
    · exact hafter
    · -- a call inside what follows has this one before it
      rw [hgap, ← List.append_assoc, ← List.append_assoc] at hsame
      have hbefore := List.append_cancel_right (List.append_cancel_right hsame)
      exact absurd ⟨lead, gap, hbefore⟩ hfirst
  subst hafter
  rw [hcut, List.append_cancel_right (List.append_cancel_right hsame)]

/-- Host calls are replaced one after another, each where the last one ends. -/
theorem hostCallsToRoot_eq (word : Text) :
    hostCallsToRoot word =
      match Text.cut? hostCall word with
      | none => word
      | some (before, inner) =>
        before ++ rootTag ++
          match closing? 0 inner with
          | some (inside, rest) => inside ++ hostCallsToRoot rest
          | none => hostCallsToRoot inner := by
  rw [hostCallsToRoot]
  cases Text.cut? hostCall word with
  | none => rfl
  | some sides =>
    obtain ⟨before, inner⟩ := sides
    show before ++ rootTag ++ _ = before ++ rootTag ++ _
    congr 1
    cases closing? 0 inner <;> rfl

/-- **What is read is what is rewritten**: the root takes the place of each call, before what is
kept of it. -/
theorem Reads.hostCallsToRoot_eq {word lead : Text} {calls : List Call}
    (h : Reads word lead calls) :
    hostCallsToRoot word = lead ++ calls.flatMap fun call => rootTag ++ call.kept := by
  induction h with
  | free hlead =>
    rw [Template.hostCallsToRoot_eq, Text.cut?_eq_none_iff.mpr hlead, List.flatMap_nil,
      List.append_nil]
  | closed hlead hargument _ ih =>
    rw [Template.hostCallsToRoot_eq, cut?_hostCall hlead]
    simp only [closing?_of_leads hargument, ih]
    simp [Call.kept]
  | unclosed hlead hinner _ ih =>
    rw [Template.hostCallsToRoot_eq, cut?_hostCall hlead]
    simp only [closing?_eq_none hinner, ih]
    simp [Call.kept]

/-- **Every word is read from call to call.** -/
theorem exists_reads (word : Text) : ∃ lead calls, Reads word lead calls := by
  fun_induction hostCallsToRoot word with
  | case1 word hcut => exact ⟨word, [], .free (Text.cut?_eq_none_iff.mp hcut)⟩
  | case2 word before inner hcut ihRest ihInner =>
    have hbefore : ¬ hostCall <:+: before := Text.not_part_before_cut (by decide +kernel) hcut
    rw [Text.cut?_eq_append hcut]
    -- reading goes on after the argument of a closed call, and inside one that is never closed
    cases hclose : closing? 0 inner with
    | some sides =>
      obtain ⟨inside, rest⟩ := sides
      obtain ⟨after, calls, hreads⟩ := ihRest inside rest hclose
      rw [closing?_eq_append hclose]
      exact ⟨before, _, .closed hbefore (closing?_leads hclose) hreads⟩
    | none =>
      obtain ⟨after, calls, hreads⟩ := ihInner
      exact ⟨before, _, .unclosed hbefore (not_overcloses_of_closing? hclose) hreads⟩

/-- A word with a call has one that is read. -/
theorem Reads.calls_eq_nil_iff {word lead : Text} {calls : List Call} (h : Reads word lead calls) :
    calls = [] ↔ ¬ hostCall <:+: word := by
  cases h with
  | free hlead => exact iff_of_true rfl hlead
  | closed => exact iff_of_false (List.cons_ne_nil _ _) (not_not.mpr ⟨_, _, rfl⟩)
  | unclosed => exact iff_of_false (List.cons_ne_nil _ _) (not_not.mpr ⟨_, _, rfl⟩)

theorem hostToRoot_of_call {word : Text} (h : hostCall <:+: word) :
    hostToRoot word = hostCallsToRoot word := by
  rw [hostToRoot, if_pos (Text.contains_iff.mpr h)]

/-! ## Closed calls and unclosed ones -/

/-- Calls with their arguments, each followed by some text. -/
def spellCalls (calls : List (Text × Text)) : Text :=
  calls.flatMap fun call => hostCall ++ (call.1 ++ ')' :: call.2)

theorem reads_spellCalls {lead : Text} {calls : List (Text × Text)} (hlead : ¬ hostCall <:+: lead)
    (hcalls : ∀ call ∈ calls, ParensBalanced call.1 ∧ ¬ hostCall <:+: call.2) :
    Reads (lead ++ spellCalls calls) lead (calls.map fun call => .closed call.1 call.2) := by
  induction calls generalizing lead with
  | nil =>
    rw [spellCalls, List.flatMap_nil, List.append_nil]
    exact .free hlead
  | cons call rest ih =>
    obtain ⟨⟨hargument, hafter⟩, hrest⟩ := List.forall_mem_cons.mp hcalls
    have hword : lead ++ spellCalls (call :: rest) =
        lead ++ hostCall ++ (call.1 ++ ')' :: (call.2 ++ spellCalls rest)) := by
      simp [spellCalls]
    rw [hword]
    exact .closed hlead hargument (ih hafter hrest)

/-- **Each call becomes the root and its argument.** A word whose calls are all closed loses their
parentheses; a call that is never closed loses only its opening, and the calls after that are
replaced as in a word of their own. -/
theorem hostToRoot_calls :
    (∀ (lead : Text) (calls : List (Text × Text)), calls ≠ [] → ¬ hostCall <:+: lead →
      (∀ call ∈ calls, ParensBalanced call.1 ∧ ¬ hostCall <:+: call.2) →
      hostToRoot (lead ++ spellCalls calls) =
        lead ++ calls.flatMap fun call => rootTag ++ (call.1 ++ call.2)) ∧
    ∀ lead rest : Text, ¬ hostCall <:+: lead → ¬ Overcloses opensParen closesParen rest →
      hostToRoot (lead ++ hostCall ++ rest) = lead ++ rootTag ++ hostCallsToRoot rest := by
  constructor
  · intro lead calls hne hlead hcalls
    have hreads := reads_spellCalls hlead hcalls
    have hword : hostCall <:+: lead ++ spellCalls calls := by
      by_contra hnone
      exact hne (List.map_eq_nil_iff.mp (hreads.calls_eq_nil_iff.mpr hnone))
    rw [hostToRoot_of_call hword, hreads.hostCallsToRoot_eq, List.flatMap_map]
    rfl
  · intro lead rest hlead hrest
    rw [hostToRoot_of_call ⟨lead, rest, rfl⟩, hostCallsToRoot_eq, cut?_hostCall hlead]
    simp only [closing?_eq_none hrest]

/-- A call in an argument, an empty argument, and a call that is never closed before one that is. -/
theorem hostToRoot_calls_nested :
    hostToRoot ".a:host(:not(.é:host(b)))>c:host()".toList = ".ahtml:not(.é:host(b))>chtml".toList ∧
      hostToRoot ".a:host((b:host(c)".toList =
        ".ahtml".toList ++ hostCallsToRoot "(b:host(c)".toList := by
  constructor
  · have hword : ".a:host(:not(.é:host(b)))>c:host()".toList = ".a".toList ++
        spellCalls [(":not(.é:host(b))".toList, ">c".toList), ([], [])] := by decide +kernel
    rw [hword, hostToRoot_calls.1 _ _ (List.cons_ne_nil _ _) (by decide +kernel)
      (by decide +kernel)]
    decide +kernel
  · have hnever : ¬ Overcloses opensParen closesParen "(b:host(c)".toList :=
      not_overcloses_of_closing? (by decide +kernel)
    exact hostToRoot_calls.2 ".a".toList _ (by decide +kernel) hnever

/-! ## Hosts that stay -/

/-- A word without calls has no host afterwards: all are replaced, or the whole word is. -/
theorem hostToRoot_of_free {word : Text} (h : ¬ hostCall <:+: word) :
    ¬ ":host".toList <:+: hostToRoot word := by
  rw [hostToRoot, if_neg (mt Text.contains_iff.mp h)]
  split
  · decide +kernel
  · exact Text.not_part_replaceAll (by decide +kernel) (by decide +kernel) word

/-- **A host stays iff it stands in what is kept of a word with calls.** However a word is read, and
it can be read, it has no host afterwards iff it has no call, or there is no host in the text before
the first call nor in what is kept of each call. -/
theorem hostToRoot_hostless (word : Text) :
    (∃ lead calls, Reads word lead calls) ∧
      ∀ lead calls, Reads word lead calls →
        (¬ ":host".toList <:+: hostToRoot word ↔
          calls = [] ∨ ∀ text ∈ lead :: calls.map Call.kept, ¬ ":host".toList <:+: text) := by
  refine ⟨exists_reads word, fun lead calls hreads => ?_⟩
  by_cases hcall : hostCall <:+: word
  · have hne : calls ≠ [] := mt hreads.calls_eq_nil_iff.mp (not_not.mpr hcall)
    have hunmixed : Text.Unmixed ":host".toList rootTag := by decide +kernel
    have hresult : hostToRoot word = lead ++ (calls.map Call.kept).flatMap (rootTag ++ ·) := by
      rw [hostToRoot_of_call hcall, hreads.hostCallsToRoot_eq, List.flatMap_map]
    rw [hresult, hunmixed.part_flatMap_iff, or_iff_right hne]
    push Not
    rfl
  · exact iff_of_true (hostToRoot_of_free hcall) (.inl (hreads.calls_eq_nil_iff.mpr hcall))

/-- A call that is closed and one that never is, with no host in what is kept of them. -/
theorem hostToRoot_hostless_mixed :
    Reads ".a:host(:not(.b))>c:host(d".toList ".a".toList
        [.closed ":not(.b)".toList ">c".toList, .unclosed "d".toList] ∧
      ¬ ":host".toList <:+: hostToRoot ".a:host(:not(.b))>c:host(d".toList := by
  have hreads : Reads ".a:host(:not(.b))>c:host(d".toList ".a".toList
      [.closed ":not(.b)".toList ">c".toList, .unclosed "d".toList] := by
    have hword : ".a:host(:not(.b))>c:host(d".toList = ".a".toList ++ hostCall ++
        (":not(.b)".toList ++ ')' :: (">c".toList ++ hostCall ++ "d".toList)) := by decide +kernel
    have hnever : ¬ Overcloses opensParen closesParen "d".toList :=
      not_overcloses_of_closing? (by decide +kernel)
    rw [hword]
    exact .closed (by decide +kernel) (by decide +kernel)
      (.unclosed (by decide +kernel) hnever (.free (by decide +kernel)))
  exact ⟨hreads, ((hostToRoot_hostless _).2 _ _ hreads).mpr (.inr (by decide +kernel))⟩

/-- Where a word has a call, a host without an argument beside it stays. -/
theorem hostToRoot_beside_call :
    Text.IsWord ":host(.x),:host".toList ∧
      hostToRoot ":host(.x),:host".toList = "html.x,:host".toList ∧
      ":host".toList <:+: hostToRoot ":host(.x),:host".toList := by
  decide +kernel

end StyleAudit.Template
