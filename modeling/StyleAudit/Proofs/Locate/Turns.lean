import StyleAudit.Proofs.Locate.Exactness

/-!
# Repeated selectors take turns

An unused selector that is recorded again is placed on the next line that mentions it, and after the
last such line on the first one again. Each selector has a next line of its own, so what is placed
in between does not matter.

- `Region.mentioning`, `FirstOn`: the lines that mention a text, and its first place on a line.
- `Region.Next`: a line from which on the mentioning lines are left that are still to come.
- `Region.exists_place`: one record takes the first of those, and all but that one are left.
- `Cursors`, `exists_turn`: so does each record of a list, in turn with those of its selector.
- `placeUnused_turns`: all of it for the unused selectors of a region.
-/

namespace StyleAudit

namespace Locate

/-! ## Lines that mention a text -/

/-- Whether a text stands on a line. -/
def mentions (part : Text) (line : Line) : Bool := Text.contains part line.text

/-- The lines of a region on which a text stands. -/
def Region.mentioning (region : Region) (part : Text) : List Line :=
  region.lines.filter (mentions part)

/-- The span of the first occurrence of a text on a line. -/
def FirstOn (part : Text) (line : Line) (span : Span) : Prop :=
  ∃ front back : Text, line.text = front ++ part ++ back ∧
    (∀ front' back' : Text, line.text = front' ++ part ++ back' → front.length ≤ front'.length) ∧
    span = line.spanAt front.bytes part.bytes

namespace Region

variable {region : Region} {part : Text} {position : Nat}

theorem findFrom_eq_none {lines : List Line} (h : lines.filter (mentions part) = [])
    (position : Nat) : findFrom part position lines = none := by
  induction lines generalizing position with
  | nil => rfl
  | cons line rest ih =>
    obtain ⟨hline, hrest⟩ := List.forall_mem_cons.mp (List.filter_eq_nil_iff.mp h)
    have hnone : Text.offsetOf? part line.text = none := by
      rw [Text.offsetOf?_eq_none_iff, ← Text.contains_iff]
      exact hline
    rw [findFrom, hnone]
    exact ih (List.filter_eq_nil_iff.mpr hrest) _

/-- A search ends on the first line that mentions the text, and leaves the others. -/
theorem exists_findFrom_eq {lines : List Line} {line : Line} {others : List Line}
    (h : lines.filter (mentions part) = line :: others) (position : Nat) :
    ∃ passed span, findFrom part position lines = some (position + passed, span) ∧
      FirstOn part line span ∧ (lines.drop (passed + 1)).filter (mentions part) = others := by
  induction lines generalizing position with
  | nil => cases h
  | cons first rest ih =>
    rw [findFrom, Text.offsetOf?]
    cases hcut : Text.cut? part first.text with
    | some sides =>
      have hfirst : mentions part first = true := by
        rw [mentions, Text.contains, hcut]
        rfl
      rw [List.filter_cons_of_pos hfirst] at h
      cases h
      refine ⟨0, line.spanAt (Text.bytes sides.1) part.bytes, rfl, ?_, rfl⟩
      exact ⟨sides.1, sides.2, Text.cut?_eq_append hcut, fun _ _ => Text.cut?_least hcut, rfl⟩
    | none =>
      have hfirst : ¬ mentions part first = true := by
        rw [mentions, Text.contains, hcut]
        exact Bool.false_ne_true
      rw [List.filter_cons_of_neg hfirst] at h
      obtain ⟨passed, span, hfound, hspan, hleft⟩ := ih h (position + 1)
      refine ⟨passed + 1, span, ?_, hspan, hleft⟩
      rw [Nat.add_comm passed, ← Nat.add_assoc]
      exact hfound

theorem find?_eq_none (h : (region.lines.drop position).filter (mentions part) = []) :
    region.find? part position = none := by
  rw [find?]
  split
  · rfl
  · exact findFrom_eq_none h position

theorem exists_find?_eq (hne : part ≠ []) {line : Line} {others : List Line}
    (h : (region.lines.drop position).filter (mentions part) = line :: others) :
    ∃ found span, region.find? part position = some (found, span) ∧ FirstOn part line span ∧
      (region.lines.drop (found + 1)).filter (mentions part) = others := by
  obtain ⟨passed, span, hfound, hspan, hleft⟩ := exists_findFrom_eq h position
  refine ⟨position + passed, span, ?_, hspan, ?_⟩
  · rw [find?, if_neg (by simpa using hne)]
    exact hfound
  · rwa [List.drop_drop, ← Nat.add_assoc] at hleft

theorem find?_eq_none_of_unplaced (h : part = [] ∨ region.mentioning part = []) (position : Nat) :
    region.find? part position = none := by
  rcases h with rfl | hnone
  · rfl
  · apply find?_eq_none
    rw [mentioning, List.filter_eq_nil_iff] at hnone
    exact List.filter_eq_nil_iff.mpr fun line hline => hnone line (List.mem_of_mem_drop hline)

/-! ## One record -/

/-- A line from which on the lines that mention a text are left that are still to come after `count`
turns; the turns go around. -/
def Next (region : Region) (part : Text) (position count : Nat) : Prop :=
  ∃ passed ≤ (region.mentioning part).length,
    passed % (region.mentioning part).length = count % (region.mentioning part).length ∧
    (region.lines.drop position).filter (mentions part) = (region.mentioning part).drop passed

theorem next_zero : region.Next part 0 0 := ⟨0, Nat.zero_le _, rfl, rfl⟩

/-- While mentioning lines are left, the first of them is found. -/
theorem exists_find?_of_left (hne : part ≠ []) {passed : Nat}
    (hlt : passed < (region.mentioning part).length)
    (h : (region.lines.drop position).filter (mentions part) =
      (region.mentioning part).drop passed) :
    ∃ found span line, region.find? part position = some (found, span) ∧
      (region.mentioning part)[passed]? = some line ∧ FirstOn part line span ∧
      (region.lines.drop (found + 1)).filter (mentions part) =
        (region.mentioning part).drop (passed + 1) := by
  rw [List.drop_eq_getElem_cons hlt] at h
  obtain ⟨found, span, hfound, hspan, hleft⟩ := exists_find?_eq hne h
  exact ⟨found, span, _, hfound, List.getElem?_eq_getElem hlt, hspan, hleft⟩

/-- **A record takes the next turn.** -/
theorem exists_place (hne : part ≠ []) (hlines : region.mentioning part ≠ []) {count : Nat}
    (h : region.Next part position count) :
    ∃ found span line, (region.find? part position).or (region.find? part 0) = some (found, span) ∧
      (region.mentioning part)[count % (region.mentioning part).length]? = some line ∧
      FirstOn part line span ∧ region.Next part (found + 1) (count + 1) := by
  obtain ⟨passed, hle, hmod, hleft⟩ := h
  have hpos := List.length_pos_iff.mpr hlines
  rcases Nat.lt_or_eq_of_le hle with hlt | rfl
  · obtain ⟨found, span, line, hfound, hline, hspan, hrest⟩ := exists_find?_of_left hne hlt hleft
    refine ⟨found, span, line, ?_, ?_, hspan, passed + 1, hlt, ?_, hrest⟩
    · rw [hfound, Option.some_or]
    · rw [← hmod, Nat.mod_eq_of_lt hlt]
      exact hline
    · rw [Nat.add_mod, hmod, ← Nat.add_mod]
  · -- none is left, so the search starts over at the first line
    rw [List.drop_length] at hleft
    have hall : (region.lines.drop 0).filter (mentions part) =
        (region.mentioning part).drop 0 := rfl
    obtain ⟨found, span, line, hfound, hline, hspan, hrest⟩ := exists_find?_of_left hne hpos hall
    rw [Nat.mod_self] at hmod
    refine ⟨found, span, line, ?_, ?_, hspan, 1, hpos, ?_, hrest⟩
    · rw [find?_eq_none hleft, Option.none_or, hfound]
    · rw [← hmod]
      exact hline
    · rw [Nat.add_mod, ← hmod, Nat.zero_add, Nat.mod_mod]

end Region

/-! ## A list of records -/

/-- How often a selector is recorded. -/
def timesRecorded (selector : Text) (records : List Unused) : Nat :=
  (records.map Unused.selector).count selector

/-- What is remembered after some records: for each selector, the line of its next turn. -/
def Cursors (region : Region) (earlier : List Unused) (next : List (Text × Nat)) : Prop :=
  ∀ selector, selector ≠ [] → region.mentioning selector ≠ [] →
    region.Next selector ((next.lookup selector).getD 0) (timesRecorded selector earlier)

/-- The place of a text in its turn: on that of the mentioning lines, counted around. -/
def TakesTurn (region : Region) (part : Text) (turn : Nat) (span : Span) : Prop :=
  (part ≠ [] → region.mentioning part ≠ [] → ∃ line,
    (region.mentioning part)[turn % (region.mentioning part).length]? = some line ∧
      FirstOn part line span) ∧
  (part = [] ∨ region.mentioning part = [] → span = region.anchor)

variable {region : Region} {earlier : List Unused} {next : List (Text × Nat)}

theorem timesRecorded_concat (selector : Text) (record : Unused) :
    timesRecorded selector (earlier ++ [record]) =
      timesRecorded selector earlier + if record.selector = selector then 1 else 0 := by
  rw [timesRecorded, List.map_append, List.count_append, List.map_singleton, List.count_singleton,
    timesRecorded]
  simp only [beq_iff_eq]

/-- One record takes its turn, and what is remembered afterwards is right again. -/
theorem Cursors.exists_step (h : Cursors region earlier next) (record : Unused)
    (rest : List Unused) :
    ∃ span later, placeUnusedFrom region next (record :: rest) =
        span :: placeUnusedFrom region later rest ∧
      TakesTurn region record.selector (timesRecorded record.selector earlier) span ∧
      Cursors region (earlier ++ [record]) later := by
  by_cases hplaced : record.selector ≠ [] ∧ region.mentioning record.selector ≠ []
  · obtain ⟨hne, hlines⟩ := hplaced
    obtain ⟨found, span, line, hfound, hline, hspan, hnext⟩ :=
      Region.exists_place hne hlines (h record.selector hne hlines)
    refine ⟨span, (record.selector, found + 1) :: next, ?_,
      ⟨fun _ _ => ⟨line, hline, hspan⟩, ?_⟩, ?_⟩
    · rw [placeUnusedFrom, hfound]
    · rintro (hempty | hnone)
      · exact absurd hempty hne
      · exact absurd hnone hlines
    · intro selector hselector hmentioned
      rw [timesRecorded_concat]
      by_cases hsame : record.selector = selector
      · subst hsame
        rw [List.lookup_cons_self, if_pos rfl]
        exact hnext
      · rw [List.lookup_cons, beq_false_of_ne (Ne.symm hsame), if_neg hsame]
        exact h selector hselector hmentioned
  · -- nothing is found, and no other selector is touched
    have hunplaced : record.selector = [] ∨ region.mentioning record.selector = [] := by
      rwa [not_and_or, not_not, not_not] at hplaced
    refine ⟨region.anchor, next, ?_, ⟨fun hne hlines => absurd ⟨hne, hlines⟩ hplaced, fun _ => rfl⟩,
      ?_⟩
    · rw [placeUnusedFrom, Region.find?_eq_none_of_unplaced hunplaced,
        Region.find?_eq_none_of_unplaced hunplaced]
      rfl
    · intro selector hselector hmentioned
      have hother : record.selector ≠ selector := by
        rintro rfl
        exact hplaced ⟨hselector, hmentioned⟩
      rw [timesRecorded_concat, if_neg hother]
      exact h selector hselector hmentioned

/-- **Each record of a list takes its turn.** -/
theorem Cursors.exists_turn (h : Cursors region earlier next) {records : List Unused} {n : Nat}
    {record : Unused} (hrecord : records[n]? = some record) :
    ∃ span, (placeUnusedFrom region next records)[n]? = some span ∧
      TakesTurn region record.selector
        (timesRecorded record.selector (earlier ++ records.take n)) span := by
  induction records generalizing next earlier n with
  | nil => cases hrecord
  | cons first rest ih =>
    obtain ⟨span, later, hplaced, hturn, hlater⟩ := h.exists_step first rest
    rw [hplaced]
    cases n with
    | zero =>
      cases hrecord
      refine ⟨span, rfl, ?_⟩
      rw [List.take_zero, List.append_nil]
      exact hturn
    | succ n =>
      obtain ⟨other, hother, hturn⟩ := ih hlater hrecord
      refine ⟨other, hother, ?_⟩
      rwa [List.append_assoc] at hturn

theorem cursors_nil (region : Region) : Cursors region [] [] :=
  fun _ _ _ => Region.next_zero

/-- **Repeated selectors take turns.** If a selector is not empty and stands on `m` lines of the
region, at least one, then its `k`-th record, counted from 0, is placed on line `k mod m` of those,
where it stands there first. If it is empty or stands on no line, its records are anchored. -/
theorem placeUnused_turns (region : Region) (records : List Unused) {n : Nat} {record : Unused}
    (hrecord : records[n]? = some record) :
    ∃ span, (placeUnused region records)[n]? = some span ∧
      (record.selector ≠ [] → ∀ m, (region.mentioning record.selector).length = m → 1 ≤ m →
        ∃ line, (region.mentioning record.selector)[
            timesRecorded record.selector (records.take n) % m]? = some line ∧
          FirstOn record.selector line span) ∧
      (record.selector = [] ∨ region.mentioning record.selector = [] → span = region.anchor) := by
  obtain ⟨span, hspan, hturn, hanchor⟩ := (cursors_nil region).exists_turn hrecord
  refine ⟨span, hspan, ?_, hanchor⟩
  rintro hne m rfl hpos
  exact hturn hne (List.length_pos_iff.mp hpos)

/-- A selector on two lines is recorded for the third time, with another one in between. -/
theorem placeUnused_turns_over :
    let region := Region.ofSource "<style>\n.x \x7b \x7d\n.y .x \x7b \x7d\n</style>".toList
    let records : List Unused :=
      [⟨".x".toList, none⟩, ⟨".y".toList, none⟩, ⟨".x".toList, none⟩, ⟨".x".toList, none⟩]
    records[3]? = some ⟨".x".toList, none⟩ ∧ (region.mentioning ".x".toList).length = 2 ∧
      ∃ line, (region.mentioning ".x".toList)[2 % 2]? = some line ∧
        FirstOn ".x".toList line ⟨8, 10⟩ := by
  intro region records
  have hlength : (region.mentioning ".x".toList).length = 2 := by decide +kernel
  have hplaced : (placeUnused region records)[3]? = some ⟨8, 10⟩ := by decide +kernel
  have htimes : timesRecorded ".x".toList (records.take 3) = 2 := by decide +kernel
  obtain ⟨span, hspan, hturn, -⟩ := placeUnused_turns region records (n := 3) rfl
  rw [hplaced] at hspan
  cases hspan
  obtain ⟨line, hline, hfirst⟩ := hturn (by decide) 2 hlength (by decide)
  rw [htimes] at hline
  exact ⟨rfl, hlength, line, hline, hfirst⟩

end Locate

end StyleAudit
