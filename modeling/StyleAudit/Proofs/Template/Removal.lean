import StyleAudit.Template
import StyleAudit.Proofs.Text
import Mathlib

/-!
# What normalisation removes

Normalisation walks over the words of a page once and drops each part that a word opens, up to the
next word with the marker that closes it. What it drops can be said without a walk: the parts are
disjoint, each runs from a word that opens it to the first later word with its marker, and no word
outside of them opens anything. There is at most one such set of parts.

- `OpensAt`, `Closes`: where a part is opened, and where it is closed.
- `IsRemoval`: a set of parts as above, for the words before an index; `kept`: the other words.
- `IsRemoval.mem_iff`: such sets agree, so there is at most one.
- `Walk`: the walk over the words; `Walk.isRemoval`: the parts it drops are such a set.
- `stripFrom_walk`: `strip` is the walk, and fails where the walk cannot go on.
- `normalize_removal`: all of it for a source.
-/

namespace StyleAudit.Template

/-! ## Parts of a page -/

/-- The words of a page: tags are substituted and the lines that apply a mixin are dropped. -/
def pageWords (source : Text) : List Text := (asPage source).words

/-- The word with a given index opens a part of some kind, which a marker closes. -/
inductive OpensAt (words : List Text) (i : Nat) : Construct → Text → Prop
  /-- A mixin with a block: the next word has a brace. -/
  | block {word next : Text} (isWord : words[i]? = some word) (starts : ['-', '-'] <+: word)
      (isNext : words[i + 1]? = some next) (braced : ['{'] <:+: next) :
      OpensAt words i .mixin ['}']
  /-- A mixin with a value: there is no next word, or it has no brace. -/
  | value {word : Text} (isWord : words[i]? = some word) (starts : ['-', '-'] <+: word)
      (unbraced : ∀ next, words[i + 1]? = some next → ¬ ['{'] <:+: next) :
      OpensAt words i .mixin [';']
  /-- A script. -/
  | script {word : Text} (isWord : words[i]? = some word) (noMixin : ¬ ['-', '-'] <+: word)
      (holds : "<script".toList <:+: word) :
      OpensAt words i .script "</script".toList
  /-- A comment. -/
  | comment {word : Text} (isWord : words[i]? = some word) (noMixin : ¬ ['-', '-'] <+: word)
      (noScript : ¬ "<script".toList <:+: word) (holds : "<!--".toList <:+: word) :
      OpensAt words i .comment "-->".toList

/-- The word with a given index holds a marker. -/
def HoldsAt (words : List Text) (marker : Text) (i : Nat) : Prop :=
  ∃ word, words[i]? = some word ∧ marker <:+: word

/-- The word with index `first` opens a part, and the one with index `last` is the first later one
that holds its marker. -/
def Closes (words : List Text) (first last : Nat) : Prop :=
  ∃ construct marker, OpensAt words first construct marker ∧
    IsLeast {i | first < i ∧ HoldsAt words marker i} last

/-- The parts that are removed from the words before the index `stop`; a part is given by the
indices of its first and last word. -/
structure IsRemoval (words : List Text) (stop : Nat) (parts : Finset (Nat × Nat)) : Prop where
  within : ∀ part ∈ parts, part.2 < stop
  closes : ∀ part ∈ parts, Closes words part.1 part.2
  disjoint : (parts : Set (Nat × Nat)).PairwiseDisjoint fun part => Set.Icc part.1 part.2
  /-- No word outside of the parts opens one. -/
  complete : ∀ i < stop, ∀ construct marker, OpensAt words i construct marker →
    ∃ part ∈ parts, i ∈ Set.Icc part.1 part.2

/-- The words outside of some parts. -/
def kept (words : List Text) (parts : Finset (Nat × Nat)) : List Text :=
  (words.zipIdx.filter fun place => ∀ part ∈ parts, ¬ (part.1 ≤ place.2 ∧ place.2 ≤ part.2)).map
    Prod.fst

/-! ## Where parts are opened and closed -/

theorem word_of_opening {word : Text} {next : Option Text} {part : Opening}
    (h : opening? word next = some part) : part.word = word := by
  unfold opening? at h
  split_ifs at h <;> cases h <;> rfl

/-- A word opens what `opening?` says it does. -/
theorem opensAt_iff {words : List Text} {i : Nat} {construct : Construct} {marker : Text} :
    OpensAt words i construct marker ↔
      ∃ word, words[i]? = some word ∧
        opening? word words[i + 1]? = some ⟨construct, word, marker⟩ := by
  constructor
  · intro h
    cases h with
    | @block word next isWord starts isNext braced =>
      refine ⟨word, isWord, ?_⟩
      rw [opening?, if_pos (Text.startsWith_iff.mpr starts), isNext, Option.any_some,
        if_pos (Text.contains_iff.mpr braced)]
    | @value word isWord starts unbraced =>
      refine ⟨word, isWord, ?_⟩
      have hnone : ¬ words[i + 1]?.any (Text.contains ['{']) = true := by
        rw [Option.any_eq_true]
        rintro ⟨next, hnext, hbraced⟩
        exact unbraced next hnext (Text.contains_iff.mp hbraced)
      rw [opening?, if_pos (Text.startsWith_iff.mpr starts), if_neg hnone]
    | @script word isWord noMixin holds =>
      refine ⟨word, isWord, ?_⟩
      rw [opening?, if_neg (mt Text.startsWith_iff.mp noMixin),
        if_pos (Text.contains_iff.mpr holds)]
    | @comment word isWord noMixin noScript holds =>
      refine ⟨word, isWord, ?_⟩
      rw [opening?, if_neg (mt Text.startsWith_iff.mp noMixin),
        if_neg (mt Text.contains_iff.mp noScript), if_pos (Text.contains_iff.mpr holds)]
  · rintro ⟨word, isWord, hopening⟩
    rw [opening?] at hopening
    by_cases starts : Text.startsWith ['-', '-'] word = true
    · rw [if_pos starts] at hopening
      by_cases braced : words[i + 1]?.any (Text.contains ['{']) = true
      · rw [if_pos braced] at hopening
        cases hopening
        obtain ⟨next, isNext, hnext⟩ := (Option.any_eq_true _ _).mp braced
        exact .block isWord (Text.startsWith_iff.mp starts) isNext (Text.contains_iff.mp hnext)
      · rw [if_neg braced] at hopening
        cases hopening
        refine .value isWord (Text.startsWith_iff.mp starts) fun next isNext hnext => braced ?_
        exact (Option.any_eq_true _ _).mpr ⟨next, isNext, Text.contains_iff.mpr hnext⟩
    have noMixin := mt Text.startsWith_iff.mpr starts
    rw [if_neg starts] at hopening
    by_cases script : Text.contains "<script".toList word = true
    · rw [if_pos script] at hopening
      cases hopening
      exact .script isWord noMixin (Text.contains_iff.mp script)
    rw [if_neg script] at hopening
    by_cases comment : Text.contains "<!--".toList word = true
    · rw [if_pos comment] at hopening
      cases hopening
      exact .comment isWord noMixin (mt Text.contains_iff.mpr script) (Text.contains_iff.mp comment)
    · rw [if_neg comment] at hopening
      cases hopening

/-- A part has one marker ... -/
theorem OpensAt.marker_eq {words : List Text} {i : Nat} {construct construct' : Construct}
    {marker marker' : Text} (h : OpensAt words i construct marker)
    (h' : OpensAt words i construct' marker') : marker = marker' := by
  obtain ⟨word, hword, hopening⟩ := opensAt_iff.mp h
  obtain ⟨word', hword', hopening'⟩ := opensAt_iff.mp h'
  rw [hword] at hword'
  cases hword'
  rw [hopening] at hopening'
  cases hopening'
  rfl

/-- ... and one end. -/
theorem Closes.last_eq {words : List Text} {first last last' : Nat} (h : Closes words first last)
    (h' : Closes words first last') : last = last' := by
  obtain ⟨construct, marker, hopens, hleast⟩ := h
  obtain ⟨construct', marker', hopens', hleast'⟩ := h'
  have hmarker := hopens.marker_eq hopens'
  subst hmarker
  exact hleast.unique hleast'

theorem Closes.first_lt {words : List Text} {first last : Nat} (h : Closes words first last) :
    first < last := by
  obtain ⟨construct, marker, hopens, hleast⟩ := h
  exact hleast.1.1

/-! ## At most one set of parts -/

namespace IsRemoval

variable {words : List Text} {stop : Nat} {parts : Finset (Nat × Nat)}

/-- Two parts that share a word are one. -/
theorem eq_of_mem (h : IsRemoval words stop parts) {part other : Nat × Nat} (hpart : part ∈ parts)
    (hother : other ∈ parts) {i : Nat} (hi : i ∈ Set.Icc part.1 part.2)
    (hi' : i ∈ Set.Icc other.1 other.2) : part = other := by
  by_contra hne
  exact Set.disjoint_left.mp (h.disjoint hpart hother hne) hi hi'

/-- A removed part is in another set of removed parts, if the two sets agree before it. -/
theorem mem_of_agree (h : IsRemoval words stop parts) {stop' : Nat} {others : Finset (Nat × Nat)}
    (h' : IsRemoval words stop' others) {part : Nat × Nat} (hpart : part ∈ parts)
    (hlt : part.1 < stop')
    (hbefore : ∀ other ∈ others, other.1 < part.1 → other ∈ parts) : part ∈ others := by
  have hcloses := h.closes part hpart
  obtain ⟨construct, marker, hopens, -⟩ := h.closes part hpart
  obtain ⟨other, hother, hin⟩ := h'.complete part.1 hlt construct marker hopens
  -- the other part starts with the same word, or it would share a word with a part of its own set
  have heq : part = other := by
    rcases Nat.lt_or_eq_of_le hin.1 with hearlier | hfirst
    · have hself : part.1 ∈ Set.Icc part.1 part.2 := ⟨Nat.le_refl _, Nat.le_of_lt hcloses.first_lt⟩
      exact h.eq_of_mem hpart (hbefore other hother hearlier) hself hin
    · have hcloses' := h'.closes other hother
      rw [hfirst] at hcloses'
      exact Prod.ext hfirst.symm (hcloses.last_eq hcloses')
  rwa [heq]

/-- Sets of removed parts agree as far as both go. -/
theorem mem_iff (h : IsRemoval words stop parts) {later : Nat} {others : Finset (Nat × Nat)}
    (h' : IsRemoval words later others) (hle : stop ≤ later) (part : Nat × Nat) :
    part ∈ parts ↔ part ∈ others ∧ part.1 < stop := by
  -- on the first word of the part: both sets agree on all parts that start before it
  induction hfirst : part.1 using Nat.strong_induction_on generalizing part with
  | _ first ih =>
    subst hfirst
    constructor
    · intro hpart
      have hlt : part.1 < stop := by
        have hcloses := (h.closes part hpart).first_lt
        have hwithin := h.within part hpart
        omega
      refine ⟨h.mem_of_agree h' hpart (Nat.lt_of_lt_of_le hlt hle) ?_, hlt⟩
      intro other hother hearlier
      exact (ih other.1 hearlier other rfl).mpr ⟨hother, Nat.lt_trans hearlier hlt⟩
    · rintro ⟨hpart, hlt⟩
      refine h'.mem_of_agree h hpart hlt ?_
      intro other hother hearlier
      exact ((ih other.1 hearlier other rfl).mp hother).1

/-- **There is at most one set of removed parts.** -/
theorem unique (h : IsRemoval words stop parts) {others : Finset (Nat × Nat)}
    (h' : IsRemoval words stop others) : others = parts := by
  ext part
  rw [h'.mem_iff h (Nat.le_refl _)]
  constructor
  · exact fun hpart => hpart.1
  · intro hpart
    exact ⟨hpart, ((h.mem_iff h (Nat.le_refl _) part).mp hpart).2⟩

/-- Where a part is opened and no later word holds its marker, no set of parts goes on. -/
theorem not_isRemoval_of_open (h : IsRemoval words stop parts) {construct : Construct}
    {marker : Text} (hopens : OpensAt words stop construct marker)
    (hnone : ∀ i, stop < i → ¬ HoldsAt words marker i) {later : Nat} (hlt : stop < later)
    (others : Finset (Nat × Nat)) : ¬ IsRemoval words later others := by
  intro h'
  obtain ⟨part, hpart, hin⟩ := h'.complete stop hlt construct marker hopens
  rcases Nat.lt_or_eq_of_le hin.1 with hearlier | hfirst
  · -- a part that starts before would be closed before
    have hwithin := h.within part ((h.mem_iff h' (Nat.le_of_lt hlt) part).mpr ⟨hpart, hearlier⟩)
    exact absurd hin.2 (Nat.not_le_of_lt hwithin)
  · obtain ⟨construct', marker', hopens', hleast⟩ := h'.closes part hpart
    rw [hfirst] at hopens' hleast
    have hmarker := hopens.marker_eq hopens'
    subst hmarker
    exact hnone part.2 hleast.1.1 hleast.1.2

/-! ## One step of the walk -/

theorem nil (words : List Text) : IsRemoval words 0 ∅ where
  within := by simp
  closes := by simp
  disjoint := by simp
  complete := by simp

/-- A word that opens nothing stays. -/
theorem keep (h : IsRemoval words stop parts)
    (hnone : ∀ construct marker, ¬ OpensAt words stop construct marker) :
    IsRemoval words (stop + 1) parts where
  within part hpart := Nat.lt_succ_of_lt (h.within part hpart)
  closes := h.closes
  disjoint := h.disjoint
  complete := by
    intro i hi construct marker hopens
    rcases Nat.lt_or_eq_of_le (Nat.le_of_lt_succ hi) with hlt | rfl
    · exact h.complete i hlt construct marker hopens
    · exact absurd hopens (hnone construct marker)

/-- A part that is opened here is removed up to its end. -/
theorem remove (h : IsRemoval words stop parts) {last : Nat} (hcloses : Closes words stop last) :
    IsRemoval words (last + 1) (insert (stop, last) parts) where
  within := by
    have hlt := hcloses.first_lt
    refine Finset.forall_mem_insert .. |>.mpr ⟨Nat.lt_succ_self last, fun part hpart => ?_⟩
    have hwithin := h.within part hpart
    omega
  closes := Finset.forall_mem_insert .. |>.mpr ⟨hcloses, h.closes⟩
  disjoint := by
    rw [Finset.coe_insert]
    refine h.disjoint.insert fun part hpart _ => Set.disjoint_left.mpr fun i hi hi' => ?_
    have hwithin := h.within part hpart
    exact absurd (Nat.le_trans hi.1 hi'.2) (Nat.not_le_of_lt hwithin)
  complete := by
    intro i hi construct marker hopens
    by_cases hlt : i < stop
    · obtain ⟨part, hpart, hin⟩ := h.complete i hlt construct marker hopens
      exact ⟨part, Finset.mem_insert_of_mem hpart, hin⟩
    · exact ⟨(stop, last), Finset.mem_insert_self _ _, Nat.not_lt.mp hlt, Nat.le_of_lt_succ hi⟩

end IsRemoval

/-! ## The words that stay -/

theorem kept_append (words more : List Text) (parts : Finset (Nat × Nat)) :
    kept (words ++ more) parts = kept words parts ++
      ((more.zipIdx words.length).filter fun place =>
        ∀ part ∈ parts, ¬ (part.1 ≤ place.2 ∧ place.2 ≤ part.2)).map Prod.fst := by
  rw [kept, List.zipIdx_append, List.filter_append, List.map_append, Nat.zero_add]
  rfl

/-- A word after all parts stays. -/
theorem kept_concat {words : List Text} {parts : Finset (Nat × Nat)}
    (h : ∀ part ∈ parts, part.2 < words.length) (word : Text) :
    kept (words ++ [word]) parts = kept words parts ++ [word] := by
  rw [kept_append, List.zipIdx_singleton, List.filter_cons_of_pos, List.filter_nil]
  · rfl
  · refine decide_eq_true fun part hpart hin => ?_
    exact absurd hin.2 (Nat.not_le_of_lt (h part hpart))

/-- A last part has no words that stay. -/
theorem kept_insert (words more : List Text) (parts : Finset (Nat × Nat)) (last : Nat)
    (hlast : words.length + more.length ≤ last + 1) :
    kept (words ++ more) (insert (words.length, last) parts) = kept words parts := by
  have hmore : (more.zipIdx words.length).filter (fun place =>
      ∀ part ∈ insert (words.length, last) parts,
        ¬ (part.1 ≤ place.2 ∧ place.2 ≤ part.2)) = [] := by
    refine List.filter_eq_nil_iff.mpr fun place hplace hout => ?_
    have hbounds := List.mem_zipIdx hplace
    have hin := of_decide_eq_true hout (words.length, last) (Finset.mem_insert_self _ _)
    simp only at hin
    omega
  rw [kept_append, hmore, List.map_nil, List.append_nil, kept, kept]
  congr 1
  refine List.filter_congr fun place hplace => ?_
  -- a word before the new part is outside of it
  have hbounds := List.mem_zipIdx hplace
  have hout : ¬ (words.length ≤ place.2 ∧ place.2 ≤ last) := by omega
  simp only [Finset.forall_mem_insert, hout, not_false_eq_true, true_and]

/-! ## The walk -/

/-- The walk has come to an index, with some parts removed and some words kept. -/
inductive Walk (words : List Text) : Nat → Finset (Nat × Nat) → List Text → Prop
  | start : Walk words 0 ∅ []
  | keep {i : Nat} {parts : Finset (Nat × Nat)} {stays : List Text} {word : Text}
      (before : Walk words i parts stays) (isWord : words[i]? = some word)
      (opensNone : ∀ construct marker, ¬ OpensAt words i construct marker) :
      Walk words (i + 1) parts (stays ++ [word])
  | remove {i last : Nat} {parts : Finset (Nat × Nat)} {stays : List Text}
      (before : Walk words i parts stays) (closes : Closes words i last) :
      Walk words (last + 1) (insert (i, last) parts) stays

theorem HoldsAt.lt_length {words : List Text} {marker : Text} {i : Nat}
    (h : HoldsAt words marker i) : i < words.length := by
  obtain ⟨word, hword, -⟩ := h
  exact (List.getElem?_eq_some_iff.mp hword).1

theorem Closes.lt_length {words : List Text} {first last : Nat} (h : Closes words first last) :
    last < words.length := by
  obtain ⟨construct, marker, -, hleast⟩ := h
  exact hleast.1.2.lt_length

/-- **The parts that a walk removes are the ones to be removed**, and it keeps the other words. -/
theorem Walk.isRemoval {words : List Text} {i : Nat} {parts : Finset (Nat × Nat)}
    {stays : List Text} (h : Walk words i parts stays) :
    IsRemoval words i parts ∧ i ≤ words.length ∧ kept (words.take i) parts = stays := by
  induction h with
  | start => exact ⟨.nil words, Nat.zero_le _, rfl⟩
  | @keep i parts stays word _ isWord opensNone ih =>
    obtain ⟨hremoval, hle, rfl⟩ := ih
    have hlt := (List.getElem?_eq_some_iff.mp isWord).1
    refine ⟨hremoval.keep opensNone, hlt, ?_⟩
    rw [List.take_add_one, isWord, Option.toList_some]
    refine kept_concat (fun part hpart => ?_) word
    rw [List.length_take_of_le hle]
    exact hremoval.within part hpart
  | @remove i last parts stays _ closes ih =>
    obtain ⟨hremoval, hle, rfl⟩ := ih
    refine ⟨hremoval.remove closes, closes.lt_length, ?_⟩
    have hsplit : words.take (last + 1) = words.take i ++ (words.drop i).take (last + 1 - i) := by
      have hlt := closes.first_lt
      rw [← List.take_add]
      congr 1
      omega
    have hinsert := kept_insert (words.take i) ((words.drop i).take (last + 1 - i)) parts last
    rw [List.length_take_of_le hle] at hinsert
    rw [hsplit]
    refine hinsert ?_
    rw [List.length_take]
    have hlt := closes.first_lt
    omega

/-- The walk has come to an index, or a part was opened before it and is not closed yet. -/
def Reaches (words : List Text) (i : Nat) (stays : List Text) : Option Opening → Prop
  | none => ∃ parts, Walk words i parts stays
  | some part => ∃ first < i, (∃ parts, Walk words first parts stays) ∧
      words[first]? = some part.word ∧ OpensAt words first part.construct part.marker ∧
      ∀ j, first < j → j < i → ¬ HoldsAt words part.marker j

/-- The walk has come to a word that opens a part which no later word closes. -/
def Stuck (words : List Text) (failure : Unterminated) : Prop :=
  ∃ i parts stays, Walk words i parts stays ∧ words[i]? = some failure.opening ∧
    OpensAt words i failure.construct failure.expected ∧
    ∀ j, i < j → ¬ HoldsAt words failure.expected j

/-- What comes of the walk: it goes to the end and keeps more words, or it is stuck. -/
def Ends (words stays : List Text) : Except Unterminated (List Text) → Prop
  | .ok more => ∃ parts others, Walk words words.length parts (stays ++ others) ∧
      more = others.map hostToRoot
  | .error failure => Stuck words failure

theorem drop_eq_cons {words rest : List Text} {i : Nat} {word : Text}
    (h : words.drop i = word :: rest) :
    words[i]? = some word ∧ words[i + 1]? = rest.head? ∧ words.drop (i + 1) = rest := by
  have hrest : words.drop (i + 1) = rest := by rw [← List.tail_drop, h, List.tail_cons]
  refine ⟨?_, ?_, hrest⟩
  · rw [← List.head?_drop, h, List.head?_cons]
  · rw [← List.head?_drop, hrest]

/-- **Stripping is the walk.** -/
theorem stripFrom_walk {words : List Text} {inside : Option Opening} {rest : List Text} {i : Nat}
    {stays : List Text} (hrest : words.drop i = rest) (h : Reaches words i stays inside) :
    Ends words stays (stripFrom inside rest) := by
  fun_induction stripFrom inside rest generalizing i stays with
  | case1 =>
    -- the last word is reached
    obtain ⟨parts, hwalk⟩ := h
    have hend : i = words.length :=
      Nat.le_antisymm hwalk.isRemoval.2.1 (List.drop_eq_nil_iff.mp hrest)
    subst hend
    exact ⟨parts, [], by rwa [List.append_nil], rfl⟩
  | case2 part =>
    -- the words run out inside a part
    obtain ⟨first, -, ⟨parts, hwalk⟩, hword, hopens, hnone⟩ := h
    refine ⟨first, parts, stays, hwalk, hword, hopens, fun j hj hholds => ?_⟩
    have hlt := hholds.lt_length
    have hle := List.drop_eq_nil_iff.mp hrest
    exact hnone j hj (Nat.lt_of_lt_of_le hlt hle) hholds
  | case3 part word rest hmarker ih =>
    obtain ⟨hword, -, hdrop⟩ := drop_eq_cons hrest
    obtain ⟨first, hfirst, ⟨parts, hwalk⟩, -, hopens, hnone⟩ := h
    -- no word in between holds the marker, so this is the first one that does
    have hcloses : Closes words first i := by
      refine ⟨part.construct, part.marker, hopens, ⟨hfirst, word, hword, ?_⟩, ?_⟩
      · exact Text.contains_iff.mp hmarker
      · rintro j ⟨hj, hholds⟩
        by_contra hlt
        exact hnone j hj (Nat.lt_of_not_le hlt) hholds
    exact ih hdrop ⟨_, hwalk.remove hcloses⟩
  | case4 part word rest hmarker ih =>
    obtain ⟨hword, -, hdrop⟩ := drop_eq_cons hrest
    obtain ⟨first, hfirst, hwalk, hopening, hopens, hnone⟩ := h
    refine ih hdrop ⟨first, Nat.lt_succ_of_lt hfirst, hwalk, hopening, hopens, ?_⟩
    intro j hj hlt hholds
    rcases Nat.lt_or_eq_of_le (Nat.le_of_lt_succ hlt) with hbefore | rfl
    · exact hnone j hj hbefore hholds
    · obtain ⟨word', hword', hin⟩ := hholds
      rw [hword] at hword'
      cases hword'
      exact hmarker (Text.contains_iff.mpr hin)
  | case5 word rest part hopening ih =>
    obtain ⟨hword, hnext, hdrop⟩ := drop_eq_cons hrest
    have hself := word_of_opening hopening
    subst hself
    have hopens : OpensAt words i part.construct part.marker :=
      opensAt_iff.mpr ⟨part.word, hword, by rw [hnext, hopening]⟩
    refine ih hdrop ⟨i, Nat.lt_succ_self i, h, hword, hopens, ?_⟩
    intro j hj hlt
    omega
  | case6 word rest hopening ih =>
    obtain ⟨hword, hnext, hdrop⟩ := drop_eq_cons hrest
    obtain ⟨parts, hwalk⟩ := h
    have hnone : ∀ construct marker, ¬ OpensAt words i construct marker := by
      intro construct marker hopens
      obtain ⟨word', hword', hopening'⟩ := opensAt_iff.mp hopens
      rw [hword] at hword'
      cases hword'
      rw [hnext, hopening] at hopening'
      cases hopening'
    -- the word is put in front of what stays of the rest
    have hends := ih hdrop ⟨parts, hwalk.keep hword hnone⟩
    cases hstrip : stripFrom none rest with
    | error failure =>
      rw [hstrip] at hends
      exact hends
    | ok more =>
      rw [hstrip] at hends
      obtain ⟨parts', others, hwalk', rfl⟩ := hends
      rw [List.append_assoc, List.singleton_append] at hwalk'
      exact ⟨parts', word :: others, hwalk', rfl⟩

/-! ## Normalisation -/

theorem strip_ends (words : List Text) : Ends words [] (strip words) :=
  stripFrom_walk List.drop_zero ⟨∅, .start⟩

/-- Where normalisation fails, the walk is stuck. -/
theorem stuck_of_normalize {source : Text} {failure : Unterminated}
    (h : normalize source = .error failure) : Stuck (pageWords source) failure := by
  have hends := strip_ends (pageWords source)
  change (strip (pageWords source)).map (Text.join [' ']) = .error failure at h
  cases hstrip : strip (pageWords source) with
  | ok words =>
    rw [hstrip] at h
    cases h
  | error other =>
    rw [hstrip] at h hends
    cases h
    exact hends

/-- A walk that is stuck leaves no set of parts to be removed. -/
theorem Stuck.not_isRemoval {words : List Text} {failure : Unterminated} (h : Stuck words failure)
    (parts : Finset (Nat × Nat)) : ¬ IsRemoval words words.length parts := by
  obtain ⟨i, before, stays, hwalk, hword, hopens, hnone⟩ := h
  have hlt := (List.getElem?_eq_some_iff.mp hword).1
  exact hwalk.isRemoval.1.not_isRemoval_of_open hopens hnone hlt parts

/-- **Normalisation removes the one set of parts that is to be removed**, joins the other words, and
fails iff there is no such set. It then names a word whose part is not closed; before that word,
there is one set of parts to be removed. -/
theorem normalize_removal (source : Text) :
    (∀ markup, normalize source = .ok markup →
      ∃ parts, IsRemoval (pageWords source) (pageWords source).length parts ∧
        (∀ others, IsRemoval (pageWords source) (pageWords source).length others → others = parts) ∧
        markup = Text.join [' '] ((kept (pageWords source) parts).map hostToRoot)) ∧
    ((∃ failure, normalize source = .error failure) ↔
      ¬ ∃ parts, IsRemoval (pageWords source) (pageWords source).length parts) ∧
    ∀ failure, normalize source = .error failure →
      ∃ k, (pageWords source)[k]? = some failure.opening ∧
        OpensAt (pageWords source) k failure.construct failure.expected ∧
        (∃! parts, IsRemoval (pageWords source) k parts) ∧
        ∀ j, k < j → ¬ HoldsAt (pageWords source) failure.expected j := by
  have hends := strip_ends (pageWords source)
  have hnormalize : normalize source = (strip (pageWords source)).map (Text.join [' ']) := rfl
  rw [hnormalize]
  cases hstrip : strip (pageWords source) with
  | ok words =>
    rw [hstrip] at hends
    obtain ⟨parts, stays, hwalk, rfl⟩ := hends
    obtain ⟨hremoval, -, hkept⟩ := hwalk.isRemoval
    rw [List.take_length, List.nil_append] at hkept
    refine ⟨?_, ?_, fun _ h => (by cases h)⟩
    · intro markup hmarkup
      cases hmarkup
      exact ⟨parts, hremoval, fun others h => hremoval.unique h, by rw [hkept]⟩
    · constructor
      · rintro ⟨_, h⟩
        cases h
      · exact fun hnone => absurd ⟨parts, hremoval⟩ hnone
  | error failure =>
    rw [hstrip] at hends
    refine ⟨fun _ h => (by cases h), ?_, ?_⟩
    · constructor
      · rintro - ⟨parts, hremoval⟩
        exact hends.not_isRemoval parts hremoval
      · exact fun _ => ⟨failure, rfl⟩
    · intro other hother
      cases hother
      obtain ⟨k, parts, stays, hwalk, hword, hopens, hnone⟩ := hends
      have hremoval := hwalk.isRemoval.1
      exact ⟨k, hword, hopens, ⟨parts, hremoval, fun others h => hremoval.unique h⟩, hnone⟩

/-- A mixin in a comment and one with a block, and a block that is not closed. -/
theorem normalize_removal_mixins :
    (∃ parts, IsRemoval (pageWords "<!-- --a --> :host --b: \x7b c; \x7d d".toList) 9 parts ∧
      "html d".toList = Text.join [' ']
        ((kept (pageWords "<!-- --a --> :host --b: \x7b c; \x7d d".toList) parts).map hostToRoot)) ∧
    ∃ k, (pageWords "<i> --b: \x7b c;".toList)[k]? = some "--b:".toList ∧
      OpensAt (pageWords "<i> --b: \x7b c;".toList) k .mixin ['}'] ∧
      ∃! parts, IsRemoval (pageWords "<i> --b: \x7b c;".toList) k parts := by
  have hclosed : normalize "<!-- --a --> :host --b: \x7b c; \x7d d".toList =
      .ok "html d".toList := by decide +kernel
  have hopen : normalize "<i> --b: \x7b c;".toList =
      .error ⟨.mixin, "--b:".toList, ['}']⟩ := by decide +kernel
  have hlength : (pageWords "<!-- --a --> :host --b: \x7b c; \x7d d".toList).length = 9 := by
    decide +kernel
  obtain ⟨parts, hremoval, -, hmarkup⟩ := (normalize_removal _).1 _ hclosed
  obtain ⟨k, hword, hopens, hunique, -⟩ := (normalize_removal _).2.2 _ hopen
  rw [hlength] at hremoval
  exact ⟨⟨parts, hremoval, hmarkup⟩, k, hword, hopens, hunique⟩

end StyleAudit.Template
