import StyleAudit.Proofs.PseudoTable.Removal
import Mathlib

/-!
# Stripping twice

Taking out a mark joins the texts on its two sides, and the two may make up a token whose passes are
over. Where this does not happen, nothing is left for a second time.

- `Recurs`: a kept occurrence of the token may hide another one from a pass.
- `Across`, `Unjoined`: a token made up of two sides; no mark taken out leaves one.
- `sides`, `unjoined_of_closed`: how to check this, text by text.
- `Clear`: no whole name starts in what a pass has gone over; kept by each of its steps.
- `not_whole_of_remove_eq`, `strip_eq_self_iff`: what stripping leaves alone.
- `not_whole_remove`, `not_whole_of_deletes`, `not_whole_foldl`: after its passes a token is no whole
  name, and it stays so where nothing is joined.
- `strip_strip`: when stripping twice is stripping once.
-/

namespace StyleAudit.PseudoTable

/-! ## Tokens that overlap -/

/-- An end of the token starts it again, and goes on there as a name: an occurrence that belongs to
a longer name may overlap another one. -/
def Recurs (token : Text) : Prop :=
  ∃ k < token.length, 0 < k ∧ token.drop k <+: token ∧
    (token.drop (token.length - k)).head?.any Text.isNameChar = true

instance (token : Text) : Decidable (Recurs token) := Nat.decidableExistsLT _

/-- A token is made up of the end of one text and the start of the next. -/
def Across (token before after : Text) : Prop :=
  ∃ k < token.length, 0 < k ∧ token.take k <:+ before ∧ token.drop k <+: after

instance (token before after : Text) : Decidable (Across token before after) :=
  Nat.decidableExistsLT _

/-- An occurrence in two texts is in one of them, or made up of both. -/
theorem occurrence_of_append {token before after front back : Text}
    (h : before ++ after = front ++ token ++ back) :
    Across token before after ∨ (∃ gap, before = front ++ token ++ gap ∧ back = gap ++ after) ∨
      ∃ gap, front = before ++ gap ∧ after = gap ++ token ++ back := by
  rw [List.append_assoc] at h
  rcases List.append_eq_append_iff.mp h with ⟨gap, rfl, hafter⟩ | ⟨gap, rfl, hback⟩
  · exact .inr (.inr ⟨gap, rfl, by rw [hafter, List.append_assoc]⟩)
  · rcases List.append_eq_append_iff.mp hback with ⟨more, rfl, rfl⟩ | ⟨more, rfl, rfl⟩
    · exact .inr (.inl ⟨more, by rw [List.append_assoc], rfl⟩)
    · by_cases hgap : gap = []
      · exact .inr (.inr ⟨[], by simp [hgap], by simp [hgap]⟩)
      · by_cases hmore : more = []
        · exact .inr (.inl ⟨[], by simp [hmore], by simp [hmore]⟩)
        · have hgapPos := List.length_pos_iff.mpr hgap
          have hmorePos := List.length_pos_iff.mpr hmore
          refine .inl ⟨gap.length, by rw [List.length_append]; omega, hgapPos, ?_, ?_⟩
          · rw [List.take_left]
            exact List.suffix_append front gap
          · rw [List.drop_left]
            exact List.prefix_append more back

/-- A token that overlaps a later one of its own and is followed by a character of a name recurs. -/
theorem recurs_of_overlap {token front more rest after : Text} (hfront : front ≠ [])
    (hmore : more ≠ []) (htoken : token = front ++ more) (hoverlap : token ++ after = more ++ rest)
    (hrest : rest.head?.any Text.isNameChar = true) : Recurs token := by
  have hfrontPos := List.length_pos_iff.mpr hfront
  have hmorePos := List.length_pos_iff.mpr hmore
  have hlength : token.length = front.length + more.length := by rw [htoken, List.length_append]
  have hdrop : token.drop front.length = more := by rw [htoken, List.drop_left]
  have hlead : more <+: token := by
    refine List.prefix_of_prefix_length_le ⟨rest, rfl⟩ ?_ (by omega)
    exact ⟨after, hoverlap⟩
  refine ⟨front.length, by omega, hfrontPos, by rwa [hdrop], ?_⟩
  -- what the token has after its start is what follows it
  obtain ⟨tail, htail⟩ := hlead
  have hsize : token.length - front.length = more.length := by omega
  have htokenTail : token.drop (token.length - front.length) = tail := by
    rw [hsize, ← htail, List.drop_left]
  rw [htokenTail]
  rw [← htail, List.append_assoc] at hoverlap
  rw [← List.append_cancel_left hoverlap] at hrest
  cases tail with
  | nil =>
    rw [List.append_nil] at htail
    rw [htail] at hlength
    omega
  | cons c cs => exact hrest

/-! ## Selectors without joins -/

/-- However marks are taken out of a text, one after another, no token is made up of the two sides
of a mark. -/
def Unjoined (tokens : List Text) (text : Text) : Prop :=
  ∀ later, Relation.ReflTransGen (Deletes tokens) text later →
    ∀ before after, Cuts tokens later before after → ∀ token ∈ tokens, ¬ Across token before after

section

variable {tokens : List Text}

theorem Unjoined.later {text result : Text} (h : Unjoined tokens text)
    (hresult : Relation.ReflTransGen (Deletes tokens) text result) : Unjoined tokens result :=
  fun later hlater => h later (hresult.trans hlater)

theorem Unjoined.not_across {text before after token : Text} (h : Unjoined tokens text)
    (hcut : Cuts tokens text before after) (htoken : token ∈ tokens) :
    ¬ Across token before after :=
  h text .refl before after hcut token htoken

/-- What stands before and after each mark of a text that is a whole name. -/
def sides (tokens : List Text) : Text → List (Text × Text)
  | [] => []
  | c :: cs =>
    let marks := if c = ':' then tokens ++ tokens.map (':' :: ·) else []
    let here := marks.filterMap fun mark =>
      (Text.dropLead? mark (c :: cs)).filter fun after => !isContinued mark after
    here.map ([], ·) ++ (sides tokens cs).map fun side => (c :: side.1, side.2)

theorem mem_sides (hnamed : ∀ token ∈ tokens, Named token) {text before after : Text}
    (h : Cuts tokens text before after) : (before, after) ∈ sides tokens text := by
  obtain ⟨mark, hmark, hend, rfl⟩ := h
  induction before with
  | nil =>
    have hlist : mark ∈ tokens ++ tokens.map (':' :: ·) := by
      rcases hmark with hmark | ⟨token, htoken, rfl⟩
      · exact List.mem_append_left _ hmark
      · exact List.mem_append_right _ (List.mem_map_of_mem htoken)
    have hafter : (Text.dropLead? mark (mark ++ after)).filter
        (fun after => !isContinued mark after) = some after := by
      rw [Text.dropLead?_eq_some.mpr rfl, Option.filter_some, hend]
      rfl
    obtain ⟨name, rfl⟩ := cons_of_isMark hnamed hmark
    refine List.mem_append_left _ (List.mem_map_of_mem ?_)
    rw [if_pos rfl]
    exact List.mem_filterMap.mpr ⟨_, hlist, hafter⟩
  | cons c before ih => exact List.mem_append_right _ (List.mem_map.mpr ⟨_, ih, rfl⟩)

/-- Texts out of which marks lead only to texts of the same list, without joining a token. -/
theorem unjoined_of_closed (hnamed : ∀ token ∈ tokens, Named token) {texts : List Text}
    (h : ∀ text ∈ texts, ∀ side ∈ sides tokens text,
      side.1 ++ side.2 ∈ texts ∧ ∀ token ∈ tokens, ¬ Across token side.1 side.2)
    {text : Text} (htext : text ∈ texts) : Unjoined tokens text := by
  have hlater : ∀ later, Relation.ReflTransGen (Deletes tokens) text later → later ∈ texts := by
    intro later hsteps
    induction hsteps with
    | refl => exact htext
    | tail _ hstep ih =>
      obtain ⟨before, after, hcut, rfl⟩ := hstep
      exact (h _ ih _ (mem_sides hnamed hcut)).1
  intro later hsteps before after hcut
  exact (h later (hlater later hsteps) _ (mem_sides hnamed hcut)).2

/-- An occurrence before a mark that was taken out ended before a colon, or where it ends now. -/
theorem isContinued_of_gap {token gap rest : Text} (h : isContinued token (gap ++ rest) = false)
    (name : Text) : isContinued token (gap ++ ':' :: name) = false := by
  cases gap with
  | nil => exact isContinued_eq_false_of_head rfl
  | cons c cs => exact h

end

/-! ## What a pass has gone over -/

/-- No whole name that is the token starts in the first of two texts. -/
def Clear (token done rest : Text) : Prop :=
  ∀ before after, done ++ rest = before ++ token ++ after → isContinued token after = false →
    done <+: before

section

variable {token done rest : Text}

theorem clear_nil (token text : Text) : Clear token [] text :=
  fun _ _ _ _ => List.nil_prefix

theorem Clear.not_whole (h : Clear token done []) (hne : token ≠ []) : ¬ Whole token done := by
  rintro ⟨before, after, hdone, hend⟩
  obtain ⟨gap, rfl⟩ := h before after (by rw [List.append_nil, hdone]) hend
  have hlength := congrArg List.length hdone
  have hpos := List.length_pos_iff.mpr hne
  simp only [List.length_append] at hlength
  omega

/-- A character at which no occurrence starts is gone over. -/
theorem Clear.skip {c : Char} (h : Clear token done (c :: rest)) (hlead : ¬ token <+: c :: rest) :
    Clear token (done ++ [c]) rest := by
  intro before after htext hend
  rw [List.append_assoc, List.singleton_append] at htext
  obtain ⟨gap, rfl⟩ := h before after htext hend
  have hgap : c :: rest = gap ++ (token ++ after) := by simpa using htext
  cases gap with
  | nil => exact absurd ⟨after, hgap.symm⟩ hlead
  | cons d gap =>
    obtain ⟨rfl, -⟩ := List.cons.inj hgap
    exact ⟨gap, by simp⟩

/-- An occurrence that belongs to a longer name is gone over. -/
theorem Clear.keep (h : Clear token done (token ++ rest)) (hrecurs : ¬ Recurs token)
    (hcontinued : isContinued token rest = true) : Clear token (done ++ token) rest := by
  intro before after htext hend
  rw [List.append_assoc] at htext
  obtain ⟨gap, rfl⟩ := h before after htext hend
  have hgap : token ++ rest = gap ++ (token ++ after) := by simpa using htext
  rcases List.append_eq_append_iff.mp hgap with ⟨more, rfl, -⟩ | ⟨more, htoken, hoverlap⟩
  · exact ⟨more, by simp⟩
  · by_cases hempty : gap = []
    · -- it is the occurrence itself, and that is no whole name
      subst hempty
      rw [List.nil_append] at htoken
      subst htoken
      rw [← List.append_cancel_left hoverlap, hend] at hcontinued
      cases hcontinued
    · by_cases hmore : more = []
      · subst hmore
        rw [List.append_nil] at htoken
        exact ⟨[], by simp [htoken]⟩
      · have hhead : rest.head?.any Text.isNameChar = true := by
          rw [isContinued, Bool.and_eq_true] at hcontinued
          exact hcontinued.2
        exact absurd (recurs_of_overlap hempty hmore htoken hoverlap hhead) hrecurs

/-- An occurrence that is taken out leaves no other, if no token is made up of its sides. -/
theorem Clear.delete {name : Text} (htoken : token = ':' :: name)
    (h : Clear token done (token ++ rest)) (hacross : ¬ Across token done rest) :
    Clear token done rest := by
  intro before after htext hend
  rcases occurrence_of_append htext with hjoin | ⟨gap, hdone, rfl⟩ | ⟨gap, rfl, -⟩
  · exact absurd hjoin hacross
  · -- an occurrence that was gone over was a whole name before
    have hbefore : isContinued token (gap ++ (token ++ rest)) = false := by
      rw [htoken, List.cons_append, ← htoken]
      exact isContinued_of_gap hend (name ++ rest)
    exact h before _ (by rw [hdone, List.append_assoc _ gap]) hbefore
  · exact List.prefix_append done gap

end

/-! ## What stripping leaves alone -/

/-- **If a pass leaves a text alone, the token is no whole name in it.** -/
theorem not_whole_of_remove_eq {token : Text} (hne : token ≠ []) (hrecurs : ¬ Recurs token)
    {text : Text} (h : remove token text = text) : ¬ Whole token text := by
  have hscan : ∀ rest done, remove token rest = rest → Clear token done rest →
      ¬ Whole token (done ++ rest) := by
    intro rest
    induction rest using Text.pass_induction hne with
    | nil =>
      intro done _ hclear
      rw [List.append_nil]
      exact hclear.not_whole hne
    | skip c cs hlead ih =>
      intro done heq hclear
      rw [remove_skip hlead] at heq
      have hskip := ih (done ++ [c]) (List.cons.inj heq).2 (hclear.skip hlead)
      rwa [List.append_assoc] at hskip
    | found rest ih =>
      intro done heq hclear
      rw [remove_found hne] at heq
      split at heq
      · rename_i hcontinued
        have hkeep := ih (done ++ token) (List.append_cancel_left heq)
          (hclear.keep hrecurs hcontinued)
        rwa [List.append_assoc] at hkeep
      · -- an occurrence that is taken out makes the text shorter
        have hlength := (remove_sublist hne rest).length_le
        have hpos := List.length_pos_iff.mpr hne
        have hsame := congrArg List.length heq
        simp only [List.nil_append, List.length_append] at hsame
        omega
  exact hscan text [] h (clear_nil token text)

theorem removeBoth_sublist {token : Text} (hne : token ≠ []) (text : Text) :
    (removeBoth text token).Sublist text := by
  rw [removeBoth_eq hne]
  exact (remove_sublist hne _).trans (remove_sublist (List.cons_ne_nil _ _) text)

theorem foldl_removeBoth_sublist {order : List Text} (horder : ∀ token ∈ order, token ≠ [])
    (text : Text) : (order.foldl removeBoth text).Sublist text := by
  induction order generalizing text with
  | nil => exact .refl text
  | cons token rest ih =>
    obtain ⟨htoken, hrest⟩ := List.forall_mem_cons.mp horder
    exact (ih hrest _).trans (removeBoth_sublist htoken text)

theorem removeBoth_eq_self_iff {token : Text} (hne : token ≠ []) (hrecurs : ¬ Recurs token)
    (text : Text) : removeBoth text token = text ↔ ¬ Whole token text := by
  rw [removeBoth_eq hne]
  constructor
  · intro h
    have hcolons := remove_sublist (List.cons_ne_nil ':' token) text
    have hsecond := remove_sublist hne (remove (':' :: token) text)
    rw [h] at hsecond
    rw [hcolons.antisymm hsecond] at h
    exact not_whole_of_remove_eq hne hrecurs h
  · intro h
    rw [remove_eq_self (List.cons_ne_nil _ _) (mt (Whole.of_cons hne) h), remove_eq_self hne h]

/-- The passes leave a text alone iff each of them does. -/
theorem foldl_removeBoth_eq_self_iff {order : List Text}
    (horder : ∀ token ∈ order, token ≠ [] ∧ ¬ Recurs token) (text : Text) :
    order.foldl removeBoth text = text ↔ ∀ token ∈ order, ¬ Whole token text := by
  induction order with
  | nil => simp
  | cons token rest ih =>
    obtain ⟨⟨hne, hrecurs⟩, hrest⟩ := List.forall_mem_cons.mp horder
    rw [List.foldl_cons, List.forall_mem_cons, ← ih hrest, ← removeBoth_eq_self_iff hne hrecurs]
    constructor
    · intro h
      have hlater := foldl_removeBoth_sublist (fun other hother => (hrest other hother).1)
        (removeBoth text token)
      rw [h] at hlater
      have hfirst := (removeBoth_sublist hne text).antisymm hlater
      rw [hfirst] at h
      exact ⟨hfirst, h⟩
    · rintro ⟨hfirst, hlater⟩
      rw [hfirst, hlater]

/-- **Stripping leaves a selector alone iff no token is a whole name in it.** -/
theorem strip_eq_self_iff {table : PseudoTable} (hnamed : ∀ token ∈ table.tokens, Named token)
    (hrecurs : ∀ token ∈ table.tokens, ¬ Recurs token) (selector : Text) :
    table.strip selector = selector ↔ ∀ token ∈ table.tokens, ¬ Whole token selector := by
  have horder : ∀ token ∈ table.byLength, token ≠ [] ∧ ¬ Recurs token := fun token htoken =>
    ⟨(hnamed token (mem_byLength.mp htoken)).ne_nil, hrecurs token (mem_byLength.mp htoken)⟩
  rw [strip, foldl_removeBoth_eq_self_iff horder]
  simp only [mem_byLength]

/-! ## What the passes leave -/

section

variable {tokens : List Text}

/-- **After its pass, the token is no whole name.** -/
theorem not_whole_remove {token : Text} (hnamed : Named token) (htoken : token ∈ tokens)
    (hrecurs : ¬ Recurs token) {text : Text} (h : Unjoined tokens text) :
    ¬ Whole token (remove token text) := by
  have hne := hnamed.ne_nil
  obtain ⟨name, -, hcolon⟩ := hnamed
  have hscan : ∀ rest done, Unjoined tokens (done ++ rest) → Clear token done rest →
      ¬ Whole token (done ++ remove token rest) := by
    intro rest
    induction rest using Text.pass_induction hne with
    | nil =>
      intro done _ hclear
      rw [remove_nil, List.append_nil]
      exact hclear.not_whole hne
    | skip c cs hlead ih =>
      intro done hunjoined hclear
      have hskip := ih (done ++ [c]) (by rwa [List.append_assoc]) (hclear.skip hlead)
      rwa [List.append_assoc, List.singleton_append, ← remove_skip hlead] at hskip
    | found rest ih =>
      intro done hunjoined hclear
      rw [remove_found hne]
      split
      · rename_i hcontinued
        have hkeep := ih (done ++ token) (by rwa [List.append_assoc])
          (hclear.keep hrecurs hcontinued)
        rwa [List.append_assoc] at hkeep
      · rename_i hend
        have hcut : Cuts tokens (done ++ (token ++ rest)) done rest :=
          ⟨token, .inl htoken, Bool.not_eq_true _ ▸ hend, by rw [List.append_assoc]⟩
        have hdelete : Relation.ReflTransGen (Deletes tokens) (done ++ (token ++ rest))
            (done ++ rest) := .single ⟨done, rest, hcut, rfl⟩
        exact ih done (hunjoined.later hdelete)
          (hclear.delete hcolon (hunjoined.not_across hcut htoken))
  exact hscan text [] h (clear_nil token text)

/-- **A mark that is taken out makes no token a whole name.** -/
theorem not_whole_of_deletes (hnamed : ∀ token ∈ tokens, Named token) {token text result : Text}
    (htoken : token ∈ tokens) (h : Unjoined tokens text) (hdeletes : Deletes tokens text result)
    (hwhole : ¬ Whole token text) : ¬ Whole token result := by
  obtain ⟨before, after, hcut, rfl⟩ := hdeletes
  have hacross := h.not_across hcut htoken
  obtain ⟨mark, hmark, -, rfl⟩ := hcut
  obtain ⟨name, rfl⟩ := cons_of_isMark hnamed hmark
  rintro ⟨front, back, htext, hend⟩
  rcases occurrence_of_append htext with hjoin | ⟨gap, rfl, rfl⟩ | ⟨gap, rfl, rfl⟩
  · exact hacross hjoin
  · exact hwhole ⟨front, gap ++ ':' :: (name ++ after), by simp, isContinued_of_gap hend _⟩
  · exact hwhole ⟨before ++ ':' :: name ++ gap, back, by simp, hend⟩

theorem not_whole_later (hnamed : ∀ token ∈ tokens, Named token) {token text later : Text}
    (htoken : token ∈ tokens) (h : Unjoined tokens text)
    (hlater : Relation.ReflTransGen (Deletes tokens) text later) (hwhole : ¬ Whole token text) :
    ¬ Whole token later := by
  induction hlater with
  | refl => exact hwhole
  | tail hsteps hstep ih =>
    exact not_whole_of_deletes hnamed htoken (h.later hsteps) hstep ih

/-- **After all passes, no token is a whole name.** -/
theorem not_whole_foldl (hnamed : ∀ token ∈ tokens, Named token)
    (hrecurs : ∀ token ∈ tokens, ¬ Recurs token) {order : List Text} (horder : order ⊆ tokens)
    {text : Text} (h : Unjoined tokens text) :
    ∀ token ∈ order, ¬ Whole token (order.foldl removeBoth text) := by
  induction order generalizing text with
  | nil => exact fun _ hmem => absurd hmem List.not_mem_nil
  | cons token rest ih =>
    obtain ⟨htoken, hrest⟩ := List.cons_subset.mp horder
    have hne := (hnamed token htoken).ne_nil
    have hboth := h.later (removeBoth_deletes htoken hne text)
    refine List.forall_mem_cons.mpr ⟨?_, ih hrest hboth⟩
    -- it is none after its own passes, and stays so through the later ones
    have hcolons : Unjoined tokens (remove (':' :: token) text) :=
      h.later (remove_deletes (.inr ⟨token, htoken, rfl⟩) (List.cons_ne_nil _ _) text)
    have hwhole := not_whole_remove (hnamed token htoken) htoken (hrecurs token htoken) hcolons
    rw [← removeBoth_eq hne] at hwhole
    have hdeletes := foldl_removeBoth_deletes hrest
      (fun other hother => (hnamed other (hrest hother)).ne_nil) (removeBoth text token)
    exact not_whole_later hnamed htoken hboth hdeletes hwhole

end

/-! ## Stripping twice -/

/-- **Stripping twice is stripping once iff the first time leaves no token as a whole name**, and it
leaves none if no mark that is taken out joins one. This is for all tables built by additions whose
tokens do not recur. -/
theorem strip_strip {calls : List (List Text)}
    (hrecurs : ∀ token ∈ (calls.foldl withExtra standard).tokens, ¬ Recurs token)
    (selector : Text) :
    ((calls.foldl withExtra standard).strip ((calls.foldl withExtra standard).strip selector) =
        (calls.foldl withExtra standard).strip selector ↔
      ∀ token ∈ (calls.foldl withExtra standard).tokens,
        ¬ Whole token ((calls.foldl withExtra standard).strip selector)) ∧
    (Unjoined (calls.foldl withExtra standard).tokens selector →
      (calls.foldl withExtra standard).strip ((calls.foldl withExtra standard).strip selector) =
        (calls.foldl withExtra standard).strip selector) := by
  have hnamed := named_tokens calls
  have hiff := strip_eq_self_iff hnamed hrecurs ((calls.foldl withExtra standard).strip selector)
  refine ⟨hiff, fun hunjoined => hiff.mpr fun token htoken => ?_⟩
  have horder : (calls.foldl withExtra standard).byLength ⊆
      (calls.foldl withExtra standard).tokens := fun other hother => mem_byLength.mp hother
  exact not_whole_foldl hnamed hrecurs horder hunjoined token (mem_byLength.mpr htoken)

/-- A table with additions, and a selector with a token that belongs to a longer name. -/
theorem strip_strip_additions :
    ([["::part".toList], ["is(a)".toList]].foldl withExtra standard).strip
        (([["::part".toList], ["is(a)".toList]].foldl withExtra standard).strip
          "a:is(a)::part:focus-in".toList) =
      ([["::part".toList], ["is(a)".toList]].foldl withExtra standard).strip
        "a:is(a)::part:focus-in".toList := by
  have hrecurs : ∀ token ∈ ([["::part".toList], ["is(a)".toList]].foldl withExtra standard).tokens,
      ¬ Recurs token := by decide +kernel
  refine (strip_strip hrecurs _).2 (@unjoined_of_closed _ (named_tokens _)
    ["a:is(a)::part:focus-in".toList, "a::part:focus-in".toList, "a:is(a):focus-in".toList,
      "a:focus-in".toList] ?_ _ ?_)
  · decide +kernel
  · exact List.mem_cons_self

/-- The two sides of a mark make up a token that is longer, so its passes are over. -/
theorem strip_joins :
    standard.strip ":lang:hover(language)".toList = ":lang(language)".toList ∧
      standard.strip (standard.strip ":lang:hover(language)".toList) ≠
        standard.strip ":lang:hover(language)".toList := by
  have hfirst : standard.strip ":lang:hover(language)".toList = ":lang(language)".toList := by cbv
  have hsecond : standard.strip ":lang(language)".toList = [] := by cbv
  rw [hfirst, hsecond]
  exact ⟨rfl, by decide +kernel⟩

end StyleAudit.PseudoTable
