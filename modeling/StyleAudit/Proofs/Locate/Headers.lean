import StyleAudit.Proofs.Locate.Exactness
import Mathlib.Data.List.DropRight
import Mathlib.Data.List.Infix

/-!
# The rule that a line belongs to

An overwritten property is placed on the first line that sets it in a rule that mentions its
selector. What a rule mentions is kept in a running header: a line with a closing brace starts it
anew, and once a block is open only lines that open another one are added.

- `afterClose`, `lastClose?`, `headerThrough`: the header after some lines, without running through
  them.
- `getElem?_withHeaders`: the running header is that one.
- `Hits`, `PlacedAt`: the lines that set a property under its selector, and the first of them.
- `placeOverwritten_first`: each property is placed there, whatever else is placed.
- `ruleText`, `mentioned_of_header`: the text of a rule, and when it mentions what its header does.
- `placeOverwritten_in_rule`: when properties are placed in rules that mention their selectors.
-/

namespace StyleAudit.Locate

/-! ## Headers -/

/-- Whether a line has an opening brace. -/
def opens (line : Line) : Bool := Text.contains ['{'] line.text

/-- Whether a line has a closing brace. -/
def closes (line : Line) : Bool := Text.contains ['}'] line.text

/-- The texts of lines, put together. -/
def joined (lines : List Line) : Text := lines.flatMap Line.text

/-- The last line with a closing brace. -/
def lastClose? (lines : List Line) : Option Line :=
  (lines.rdropWhile fun line => !closes line).getLast?

/-- The lines after the last one with a closing brace. -/
def afterClose (lines : List Line) : List Line := lines.rtakeWhile fun line => !closes line

/-- The lines through the first one with an opening brace, and those after it that have one too. -/
def headLines (lines : List Line) : List Line :=
  lines.takeWhile (fun line => !opens line) ++
    (lines.dropWhile fun line => !opens line).filter opens

/-- The header after some lines: the last line with a closing brace and the lines after it, without
those that come after an opening brace and have no brace themselves. -/
def headerThrough (lines : List Line) : Text :=
  joined ((lastClose? lines).toList ++ headLines (afterClose lines))

/-- Whether a block is open after some lines. -/
def blockOpen (lines : List Line) : Bool := (afterClose lines).any opens

@[simp] theorem joined_append (xs ys : List Line) : joined (xs ++ ys) = joined xs ++ joined ys :=
  List.flatMap_append

@[simp] theorem joined_singleton (line : Line) : joined [line] = line.text :=
  List.flatMap_singleton _ _

/-! ## One more line -/

section

variable {lines : List Line} {line : Line}

theorem afterClose_of_closes (h : closes line = true) : afterClose (lines ++ [line]) = [] :=
  List.rtakeWhile_concat_neg _ _ _ (by simp [h])

theorem afterClose_concat (h : closes line = false) :
    afterClose (lines ++ [line]) = afterClose lines ++ [line] :=
  List.rtakeWhile_concat_pos _ _ _ (by simp [h])

theorem lastClose?_of_closes (h : closes line = true) :
    lastClose? (lines ++ [line]) = some line := by
  rw [lastClose?, List.rdropWhile_concat_neg _ _ _ (by simp [h]), List.getLast?_concat]

theorem lastClose?_concat (h : closes line = false) :
    lastClose? (lines ++ [line]) = lastClose? lines := by
  rw [lastClose?, List.rdropWhile_concat_pos _ _ _ (by simp [h]), lastClose?]

theorem not_opens_of_unopened (h : lines.any opens = false) : ∀ line ∈ lines, !opens line := by
  intro line hline
  simpa using List.any_eq_false.mp h line hline

/-- While no block is opened, every line is kept. -/
theorem headLines_of_unopened (h : lines.any opens = false) : headLines lines = lines := by
  have hall := not_opens_of_unopened h
  rw [headLines, List.takeWhile_eq_self_iff.mpr hall, List.dropWhile_eq_nil_iff.mpr hall]
  exact List.append_nil _

/-- A line is kept if it opens a block or no block was opened before it. -/
theorem headLines_concat (lines : List Line) (line : Line) :
    headLines (lines ++ [line]) =
      if opens line || !lines.any opens then headLines lines ++ [line] else headLines lines := by
  by_cases hany : lines.any opens = true
  · -- the first line that opens a block is among the ones before
    obtain ⟨first, hfirst, hopens⟩ := List.any_eq_true.mp hany
    have hdrop : lines.dropWhile (fun line => !opens line) ≠ [] := by
      intro hnil
      have hall := List.dropWhile_eq_nil_iff.mp hnil first hfirst
      rw [hopens] at hall
      cases hall
    have htake : (lines.takeWhile fun line => !opens line).length ≠ lines.length := by
      intro hlength
      have hsplit := congrArg List.length
        (List.takeWhile_append_dropWhile (p := fun line => !opens line) (l := lines))
      rw [List.length_append, hlength] at hsplit
      exact hdrop (List.length_eq_zero_iff.mp (by omega))
    rw [headLines, List.takeWhile_append, if_neg htake, List.dropWhile_append,
      if_neg (by simpa using hdrop), List.filter_append, hany, headLines]
    cases hline : opens line <;> simp [hline]
  · rw [Bool.not_eq_true] at hany
    rw [headLines_of_unopened hany, hany, Bool.not_false, Bool.or_true, if_pos rfl]
    cases hline : opens line with
    | false => exact headLines_of_unopened (by simp [hany, hline])
    | true =>
      have hall := not_opens_of_unopened hany
      rw [headLines, List.takeWhile_append_of_pos hall, List.dropWhile_append_of_pos hall]
      simp [hline]

theorem headerThrough_of_closes (h : closes line = true) :
    headerThrough (lines ++ [line]) = line.text := by
  rw [headerThrough, lastClose?_of_closes h, afterClose_of_closes h]
  exact joined_singleton line

theorem headerThrough_concat (h : closes line = false) :
    headerThrough (lines ++ [line]) =
      if opens line || !blockOpen lines then headerThrough lines ++ line.text
      else headerThrough lines := by
  rw [headerThrough, lastClose?_concat h, afterClose_concat h, headLines_concat, headerThrough,
    blockOpen]
  split
  · rw [← List.append_assoc, joined_append, joined_singleton]
  · rfl

theorem blockOpen_concat (lines : List Line) (line : Line) :
    blockOpen (lines ++ [line]) = ((blockOpen lines || opens line) && !closes line) := by
  rw [blockOpen]
  cases h : closes line with
  | true =>
    rw [afterClose_of_closes h, Bool.not_true, Bool.and_false]
    rfl
  | false =>
    rw [afterClose_concat h, List.any_append, Bool.not_false, Bool.and_true, blockOpen]
    simp

end

/-! ## The running header -/

/-- One line is taken into the header. -/
theorem withHeaders_cons (taken : List Line) (line : Line) (rest : List Line) :
    withHeaders (headerThrough taken) (blockOpen taken) (line :: rest) =
      (line, headerThrough (taken ++ [line])) ::
        withHeaders (headerThrough (taken ++ [line])) (blockOpen (taken ++ [line])) rest := by
  have hcurrent : headerThrough (taken ++ [line]) =
      let opened := if opens line then headerThrough taken ++ line.text else headerThrough taken
      let kept := if closes line then [] else opened
      if (blockOpen taken || opens line) && !closes line then kept else kept ++ line.text := by
    cases hcloses : closes line with
    | true =>
      rw [headerThrough_of_closes hcloses, Bool.not_true, Bool.and_false]
      rfl
    | false =>
      rw [headerThrough_concat hcloses]
      cases opens line <;> cases blockOpen taken <;> rfl
  rw [hcurrent, blockOpen_concat]
  rfl

/-- **The running header is the one of the lines through each line.** -/
theorem getElem?_withHeaders (taken lines : List Line) (i : Nat) :
    (withHeaders (headerThrough taken) (blockOpen taken) lines)[i]? =
      lines[i]?.map fun line => (line, headerThrough (taken ++ lines.take (i + 1))) := by
  induction lines generalizing taken i with
  | nil => rfl
  | cons line rest ih =>
    rw [withHeaders_cons]
    cases i with
    | zero => rfl
    | succ i =>
      rw [List.getElem?_cons_succ, ih, List.getElem?_cons_succ, List.take_succ_cons,
        List.append_assoc, List.singleton_append]

/-! ## The first line that sets a property under its selector -/

/-- Line `i` sets the property of a record at a column, and its header mentions the selector. -/
def Hits (lines : List Line) (record : Overwritten) (i column : Nat) : Prop :=
  ∃ line, lines[i]? = some line ∧ record.selector <:+: headerThrough (lines.take (i + 1)) ∧
    findProperty? record.property line.text = some column

/-- Line `i` is the first one that sets the property of a record under its selector. -/
def PlacedAt (region : Region) (record : Overwritten) (i column : Nat) : Prop :=
  Hits region.lines record i column ∧ ∀ j < i, ∀ other, ¬ Hits region.lines record j other

/-- The column at which a line with its header sets a property under its selector. -/
theorem hits_iff {lines : List Line} {record : Overwritten} {i column : Nat} :
    Hits lines record i column ↔ ∃ line header,
      (withHeaders [] false lines)[i]? = some (line, header) ∧
      Text.contains record.selector header = true ∧
      findProperty? record.property line.text = some column := by
  have hheaders : (withHeaders [] false lines)[i]? =
      lines[i]?.map fun line => (line, headerThrough (lines.take (i + 1))) :=
    getElem?_withHeaders [] lines i
  rw [hheaders]
  constructor
  · rintro ⟨line, hline, hselector, hcolumn⟩
    exact ⟨line, _, by rw [hline]; rfl, Text.contains_iff.mpr hselector, hcolumn⟩
  · rintro ⟨line, header, hline, hselector, hcolumn⟩
    obtain ⟨other, hother, hsame⟩ := Option.map_eq_some_iff.mp hline
    cases hsame
    exact ⟨line, hother, Text.contains_iff.mp hselector, hcolumn⟩

/-- **A record is placed on the first line that sets its property under its selector**, or anchored
if there is none. -/
theorem placeRecord_first (region : Region) (record : Overwritten) :
    (∃ i column line, PlacedAt region record i column ∧ region.lines[i]? = some line ∧
      placeRecord region record = line.spanAt column record.property.bytes) ∨
    ((∀ i column, ¬ Hits region.lines record i column) ∧
      placeRecord region record = region.anchor) := by
  rw [placeRecord]
  cases hplace : (withHeaders [] false region.lines).findSome? _ with
  | none =>
    refine .inr ⟨?_, rfl⟩
    intro i column hhits
    obtain ⟨line, header, hline, hselector, hcolumn⟩ := hits_iff.mp hhits
    have hnone := List.findSome?_eq_none_iff.mp hplace _ (List.mem_of_getElem? hline)
    simp only [hselector, hcolumn] at hnone
    cases hnone
  | some span =>
    obtain ⟨before, ⟨line, header⟩, after, hsplit, hspan, hbefore⟩ :=
      List.findSome?_eq_some_iff.mp hplace
    simp only at hspan
    split at hspan
    · rename_i hselector
      obtain ⟨column, hcolumn, rfl⟩ := Option.map_eq_some_iff.mp hspan
      have hline : (withHeaders [] false region.lines)[before.length]? = some (line, header) := by
        rw [hsplit, List.getElem?_append_right (Nat.le_refl _), Nat.sub_self]
        rfl
      have hhits : Hits region.lines record before.length column :=
        hits_iff.mpr ⟨line, header, hline, hselector, hcolumn⟩
      refine .inl ⟨before.length, column, line, ⟨hhits, ?_⟩, ?_, rfl⟩
      · -- a line before this one has no column
        intro j hj other hother
        obtain ⟨earlier, header', hget, hselector', hcolumn'⟩ := hits_iff.mp hother
        rw [hsplit, List.getElem?_append_left hj] at hget
        have hnone := hbefore _ (List.mem_of_getElem? hget)
        simp only [hselector', hcolumn'] at hnone
        cases hnone
      · rw [← map_fst_withHeaders [] false region.lines, List.getElem?_map, hline]
        rfl
    · cases hspan

/-- A region line on which a record is placed is the only one. -/
theorem PlacedAt.eq {region : Region} {record : Overwritten} {i column j other : Nat}
    (h : PlacedAt region record i column) (h' : PlacedAt region record j other) :
    i = j ∧ column = other := by
  have hij : i = j := by
    rcases Nat.lt_trichotomy i j with hlt | heq | hlt
    · exact absurd h.1 (h'.2 i hlt column)
    · exact heq
    · exact absurd h'.1 (h.2 j hlt other)
  subst hij
  obtain ⟨line, hline, -, hcolumn⟩ := h.1
  obtain ⟨line', hline', -, hcolumn'⟩ := h'.1
  rw [hline, Option.some.injEq] at hline'
  subst hline'
  rw [hcolumn, Option.some.injEq] at hcolumn'
  exact ⟨rfl, hcolumn'⟩

theorem getElem?_placeOverwritten {region : Region} {records : List Overwritten} {n : Nat}
    {record : Overwritten} (h : records[n]? = some record) :
    (placeOverwritten region records)[n]? = some (placeRecord region record) := by
  rw [placeOverwritten, List.getElem?_map, h]
  rfl

/-- **Each overwritten property is placed by itself**: as if its record was alone, on the first line
that sets it and whose header mentions its selector, or at the anchor if there is no such line. -/
theorem placeOverwritten_first (region : Region) (records : List Overwritten) {n : Nat}
    {record : Overwritten} (hrecord : records[n]? = some record) :
    ∃ span, (placeOverwritten region records)[n]? = some span ∧
      placeOverwritten region [record] = [span] ∧
      ((∃ i column line, PlacedAt region record i column ∧ region.lines[i]? = some line ∧
          span = line.spanAt column record.property.bytes) ∨
        ((∀ i column, ¬ Hits region.lines record i column) ∧ span = region.anchor)) :=
  ⟨placeRecord region record, getElem?_placeOverwritten hrecord, rfl,
    placeRecord_first region record⟩

/-- A group of selectors in a media block, of which only the last line counts, and a line that
closes one rule and opens the next. -/
theorem placeOverwritten_first_media :
    let region := Region.ofSource
      ("<style>\n@media x \x7b\n.b,\n.a \x7b\ntop: 0;\n" ++
        "\x7d \x7d .b \x7b\ntop: 1;\n\x7d\n</style>").toList
    let record : Overwritten := ⟨".b".toList, "top".toList, none⟩
    [⟨".a".toList, "top".toList, none⟩, record][1]? = some record ∧
      ((∃ i column line, PlacedAt region record i column ∧ region.lines[i]? = some line ∧
          (⟨45, 48⟩ : Span) = line.spanAt column record.property.bytes) ∨
        ((∀ i column, ¬ Hits region.lines record i column) ∧
          (⟨45, 48⟩ : Span) = region.anchor)) := by
  intro region record
  have hplaced : placeOverwritten region [record] = [⟨45, 48⟩] := by decide +kernel
  obtain ⟨span, -, halone, hfirst⟩ := placeOverwritten_first region
    [⟨".a".toList, "top".toList, none⟩, record] (n := 1) rfl
  rw [hplaced] at halone
  cases halone
  exact ⟨rfl, hfirst⟩

/-! ## The text of the rule -/

/-- The text of the rule through line `i`: the lines after the last one before it that has a closing
brace, and the line itself. -/
def ruleText (lines : List Line) (i : Nat) : Text :=
  joined (afterClose (lines.take i) ++ lines[i]?.toList)

/-- A header mentions a text that starts on the line with a closing brace that it begins with. -/
def StartsOnClose (part : Text) (lines : List Line) : Prop :=
  ∃ front back, headerThrough lines = front ++ part ++ back ∧
    front.length < (joined (lastClose? lines).toList).length

/-- A header goes on after a line that it leaves out. -/
def GoesOn (lines : List Line) : Prop := ¬ headLines (afterClose lines) <+: afterClose lines

/-- What a header mentions is in the text of the rule, unless it starts on the line that closes the
rule before, or the header goes on after a line that it leaves out. -/
theorem mentioned_of_header {lines : List Line} {line : Line} {i : Nat} {part : Text}
    (hline : lines[i]? = some line) (h : part <:+: headerThrough (lines.take (i + 1))) :
    part <:+: ruleText lines i ∨ StartsOnClose part (lines.take (i + 1)) ∨
      GoesOn (lines.take (i + 1)) := by
  have htake : lines.take (i + 1) = lines.take i ++ [line] := by
    rw [List.take_add_one, hline]
    rfl
  rw [ruleText, hline, Option.toList_some]
  cases hcloses : closes line with
  | true =>
    rw [htake, headerThrough_of_closes hcloses] at h
    rw [joined_append, joined_singleton]
    exact .inl (h.trans (List.suffix_append _ _).isInfix)
  | false =>
    by_cases hgoes : GoesOn (lines.take (i + 1))
    · exact .inr (.inr hgoes)
    · have hlead : headLines (afterClose (lines.take (i + 1))) <+:
          afterClose (lines.take (i + 1)) := Classical.not_not.mp hgoes
      rw [← afterClose_concat hcloses, ← htake]
      obtain ⟨front, back, hheader⟩ := h
      by_cases hstart : front.length < (joined (lastClose? (lines.take (i + 1))).toList).length
      · exact .inr (.inl ⟨front, back, hheader.symm, hstart⟩)
      · -- the occurrence is after that line, among lines that follow each other
        rw [headerThrough, joined_append] at hheader
        have hfront : front <+: joined (lastClose? (lines.take (i + 1))).toList ++
            joined (headLines (afterClose (lines.take (i + 1)))) :=
          ⟨part ++ back, by rw [← List.append_assoc, hheader]⟩
        obtain ⟨gap, rfl⟩ := List.prefix_of_prefix_length_le (List.prefix_append _ _) hfront
          (Nat.le_of_not_lt hstart)
        rw [List.append_assoc, List.append_assoc, List.append_cancel_left_eq,
          ← List.append_assoc] at hheader
        have hpart : part <:+: joined (headLines (afterClose (lines.take (i + 1)))) :=
          ⟨gap, back, hheader⟩
        exact .inl (hpart.trans (hlead.flatMap Line.text).isInfix)

/-- **When properties are placed in rules that mention their selectors**: a record is placed on the
line at which it hits first, and the text of the rule mentions its selector there iff each line at
which the record hits has such a text, or comes after a hit that has one. A line at which it hits
only lacks it if the selector is met on the line that closes the rule before, or across lines that
the header leaves out. -/
theorem placeOverwritten_in_rule (region : Region) (records : List Overwritten) {n : Nat}
    {record : Overwritten} (hrecord : records[n]? = some record) :
    (∀ i column line, PlacedAt region record i column → region.lines[i]? = some line →
      (placeOverwritten region records)[n]? =
        some (line.spanAt column record.property.bytes)) ∧
    ((∀ i column, ¬ PlacedAt region record i column) →
      (placeOverwritten region records)[n]? = some region.anchor) ∧
    ((∀ i column, PlacedAt region record i column → record.selector <:+: ruleText region.lines i) ↔
      ∀ i column, Hits region.lines record i column →
        record.selector <:+: ruleText region.lines i ∨
          ∃ j < i, ∃ other, Hits region.lines record j other ∧
            record.selector <:+: ruleText region.lines j) ∧
    ∀ i column, Hits region.lines record i column →
      record.selector <:+: ruleText region.lines i ∨
        StartsOnClose record.selector (region.lines.take (i + 1)) ∨
          GoesOn (region.lines.take (i + 1)) := by
  rw [getElem?_placeOverwritten hrecord]
  refine ⟨?_, ?_, ⟨?_, ?_⟩, ?_⟩
  · intro i column line hplaced hline
    rcases placeRecord_first region record with
      ⟨j, other, line', hfirst, hline', hspan⟩ | ⟨hnone, -⟩
    · obtain ⟨rfl, rfl⟩ := hplaced.eq hfirst
      rw [hline, Option.some.injEq] at hline'
      rw [hspan, hline']
    · exact absurd hplaced.1 (hnone i column)
  · intro hnone
    rcases placeRecord_first region record with ⟨i, column, line, hfirst, -, -⟩ | ⟨-, hanchor⟩
    · exact absurd hfirst (hnone i column)
    · rw [hanchor]
  · intro hplaced i column hhits
    rcases placeRecord_first region record with ⟨j, other, line, hfirst, -, -⟩ | ⟨hnone, -⟩
    · have hmentioned := hplaced j other hfirst
      rcases Nat.lt_trichotomy i j with hlt | rfl | hlt
      · exact absurd hhits (hfirst.2 i hlt column)
      · exact .inl hmentioned
      · exact .inr ⟨j, hlt, other, hfirst.1, hmentioned⟩
    · exact absurd hhits (hnone i column)
  · intro hhits i column hplaced
    rcases hhits i column hplaced.1 with hmentioned | ⟨j, hlt, other, hother, -⟩
    · exact hmentioned
    · exact absurd hother (hplaced.2 j hlt other)
  · rintro i column ⟨line, hline, hheader, -⟩
    exact mentioned_of_header hline hheader

/-- A group of selectors over two lines, in the first rule of a region. -/
theorem placeOverwritten_in_rule_group :
    let region := Region.ofSource "<style>\n.a,\n.b \x7b\ntop: 0;\n\x7d\n</style>".toList
    let record : Overwritten := ⟨".a".toList, "top".toList, none⟩
    [record][0]? = some record ∧ Hits region.lines record 3 0 ∧
      record.selector <:+: ruleText region.lines 3 := by
  intro region record
  have hhits : Hits region.lines record 3 0 := by
    refine ⟨⟨3, 17, "top: 0;".toList⟩, by decide +kernel, ?_, by decide +kernel⟩
    exact Text.contains_iff.mp (by decide +kernel)
  obtain ⟨-, -, -, hcauses⟩ := placeOverwritten_in_rule region [record] (n := 0) rfl
  refine ⟨rfl, hhits, ?_⟩
  rcases hcauses 3 0 hhits with hmentioned | ⟨front, back, -, hlt⟩ | hgoes
  · exact hmentioned
  · -- no line before has a closing brace
    have hnone : joined (lastClose? (region.lines.take 4)).toList = [] := by decide +kernel
    rw [hnone] at hlt
    exact absurd hlt (Nat.not_lt_zero _)
  · exact absurd (List.isPrefixOf_iff_prefix.mp (by decide +kernel)) hgoes

/-- A rule on one line is closed there, but the header after it begins with that line: a property of
the next rule is taken for one of the closed rule. -/
theorem placeOverwritten_in_other_rule :
    let region := Region.ofSource
      ("<style>\n.a \x7b color: red; \x7d\n.b \x7b\n  top: 0;\n\x7d\n" ++
        ".a \x7b top: 1px; \x7d\n.a \x7b top: 2px; \x7d\n</style>").toList
    let record : Overwritten := ⟨".a".toList, "top".toList, none⟩
    placeOverwritten region [record] = [⟨34, 37⟩] ∧ PlacedAt region record 3 2 ∧
      ruleText region.lines 3 = ".b \x7b  top: 0;".toList ∧
      ¬ record.selector <:+: ruleText region.lines 3 := by
  intro region record
  have htext : ruleText region.lines 3 = ".b \x7b  top: 0;".toList := by decide +kernel
  refine ⟨by decide +kernel, ⟨?_, ?_⟩, htext, ?_⟩
  · refine ⟨⟨3, 32, "  top: 0;".toList⟩, by decide +kernel, ?_, by decide +kernel⟩
    exact Text.contains_iff.mp (by decide +kernel)
  · -- no line before sets the property
    have hnone : ∀ j < 3, (region.lines[j]?.bind fun line =>
        findProperty? record.property line.text) = none := by decide +kernel
    rintro j hj other ⟨line, hline, -, hcolumn⟩
    have hj := hnone j hj
    rw [hline, Option.bind_some, hcolumn] at hj
    cases hj
  · rw [htext, ← Text.contains_iff]
    decide +kernel

end StyleAudit.Locate
