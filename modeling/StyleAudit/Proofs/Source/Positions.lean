import StyleAudit.Proofs.Source
import Mathlib.Data.List.Basic
import Mathlib.Data.List.Induction

/-!
# Positions of offsets

The position of an offset is looked up in the table of line starts by halving. That gives what
counting gives: the number of the line is the number of line feeds before the offset, and the column
is counted from right after the last of them. Offsets may lie anywhere, also inside a character, so
line feeds are counted among the bytes of the text.

- `Rank.Places`, `bisect_places`: what a look-up finds in a table that grows.
- `LineIndex.lineNumberAt_eq`: an offset is on the last line that starts at or before it.
- `LineIndex.lineStarts`, `LineIndex.startsAfter_eq`: the table of a text, from its bytes.
- `LineIndex.StartsLine`, `LineIndex.exists_position?`: the position of an offset by counting.
- `LineIndex.position?_counts`: all of it, and that later offsets have later positions.
-/

namespace StyleAudit

/-! ## Tables that grow -/

/-- Each entry of a table is above those before it. -/
def Ascending (table : Array UInt32) : Prop :=
  ∀ (i j : Nat) (a b : UInt32), i < j → table[i]? = some a → table[j]? = some b → a < b

/-- What a rank says: its entry is the word, or the word is above all entries before it and below
all others. -/
def Rank.Places (table : Array UInt32) (word : UInt32) : Rank → Prop
  | found index => table[index]? = some word
  | absent index => index ≤ table.size ∧
      (∀ (i : Nat) (entry : UInt32), i < index → table[i]? = some entry → entry < word) ∧
      ∀ (i : Nat) (entry : UInt32), index ≤ i → table[i]? = some entry → word < entry

/-- **Halving finds the place of a word**, if it is not above what follows the part that is looked
at, nor below what precedes it. -/
theorem bisect_places {table : Array UInt32} (hgrows : Ascending table) (word : UInt32)
    {low high : Nat} (within : high ≤ table.size) (hle : low ≤ high)
    (hlow : ∀ (i : Nat) (entry : UInt32), i < low → table[i]? = some entry → entry < word)
    (hhigh : ∀ (i : Nat) (entry : UInt32), high ≤ i → table[i]? = some entry → word < entry) :
    (bisect table word low high within).Places table word := by
  fun_induction bisect table word low high within with
  | case1 low high within inside middle hmiddle hfound =>
    show table[middle]? = some word
    rw [← hfound, Array.getElem?_eq_getElem]
  | case2 low high within inside middle hmiddle hother hless ih =>
    have hmid : table[middle]? = some table[middle] := Array.getElem?_eq_getElem hmiddle
    refine ih (by omega) (fun i entry hi hentry => ?_) hhigh
    -- up to the middle, entries are at most the one there
    rcases Nat.lt_succ_iff_lt_or_eq.mp hi with hbefore | rfl
    · exact UInt32.lt_trans (hgrows i middle _ _ hbefore hentry hmid) hless
    · rw [hmid, Option.some.injEq] at hentry
      rwa [← hentry]
  | case3 low high within inside middle hmiddle hother hmore ih =>
    have hmid : table[middle]? = some table[middle] := Array.getElem?_eq_getElem hmiddle
    have habove : word < table[middle] :=
      UInt32.lt_of_le_of_ne (UInt32.not_lt.mp hmore) fun heq => hother heq.symm
    refine ih (by omega) hlow (fun i entry hi hentry => ?_)
    rcases Nat.eq_or_lt_of_le hi with rfl | hafter
    · rw [hmid, Option.some.injEq] at hentry
      rwa [← hentry]
    · exact UInt32.lt_trans habove (hgrows middle i _ _ hafter hmid hentry)
  | case4 low high within outside =>
    obtain rfl : low = high := by omega
    exact ⟨within, hlow, hhigh⟩

namespace LineIndex

/-- **An offset is on the last line that starts at or before it.** -/
theorem lineNumberAt_eq {index : LineIndex} (hgrows : Ascending index.starts)
    {offset start : UInt32} {number : Nat} (hstart : index.lineStart? number = some start)
    (hle : start ≤ offset)
    (hnext : ∀ next, index.lineStart? (number + 1) = some next → offset < next) :
    index.lineNumberAt offset = number := by
  have hplaces := bisect_places hgrows offset (Nat.le_refl index.starts.size)
    (Nat.zero_le _) (by simp) (fun i entry hi hentry => by
      rw [Array.getElem?_eq_none hi] at hentry
      cases hentry)
  -- the next line starts after the offset, and the others start even later
  have hafter : ∀ (i : Nat) (entry : UInt32), number < i → index.starts[i]? = some entry →
      offset < entry := by
    intro i entry hi hentry
    have hbound : i < index.starts.size := (Array.getElem?_eq_some_iff.mp hentry).1
    have hone : index.lineStart? (number + 1) = some index.starts[number + 1] :=
      Array.getElem?_eq_getElem (by omega)
    have hlater := hnext _ hone
    rcases Nat.eq_or_lt_of_le (Nat.succ_le_of_lt hi) with rfl | hmore
    · rw [lineStart?, hentry] at hone
      cases hone
      exact hlater
    · exact UInt32.lt_trans hlater (hgrows _ _ _ _ hmore hone hentry)
  rw [lineNumberAt]
  cases hrank : bisect index.starts offset 0 index.starts.size (Nat.le_refl _) with
  | found i =>
    rw [hrank] at hplaces
    have hentry : index.starts[i]? = some offset := hplaces
    rcases Nat.lt_trichotomy i number with hbefore | rfl | hlater
    · have hlt := hgrows i number _ _ hbefore hentry hstart
      exact absurd hle (UInt32.not_le.mpr hlt)
    · rfl
    · exact absurd (hafter i offset hlater hentry) (UInt32.lt_irrefl _)
  | absent i =>
    rw [hrank] at hplaces
    obtain ⟨hsize, hbelow, habove⟩ := hplaces
    have hnumber : number < i := by
      by_contra hout
      exact absurd hle (UInt32.not_le.mpr (habove number start (by omega) hstart))
    have hi : i ≤ number + 1 := by
      by_contra hout
      have hbound : number + 1 < index.starts.size := by omega
      have hentry : index.starts[number + 1]? = some index.starts[number + 1] :=
        Array.getElem?_eq_getElem hbound
      have hless := hbelow (number + 1) _ (by omega) hentry
      exact absurd (hafter (number + 1) _ (by omega) hentry) (UInt32.lt_asymm hless)
    show i - 1 = number
    omega

/-! ## The table of a text -/

/-- The offsets at which the lines of a text start. -/
def lineStarts (text : Text) : List Nat := 0 :: startsAfter 0 text

/-- The offsets at which lines start in some bytes: 0, and those right after the line feeds. -/
def startsIn (bytes : List UInt8) : List Nat := 0 :: (bytes.idxsOf '\n'.toUInt8).map (· + 1)

theorem length_startsIn (bytes : List UInt8) :
    (startsIn bytes).length = bytes.count '\n'.toUInt8 + 1 := by
  rw [startsIn, List.length_cons, List.length_map, List.length_idxsOf]

theorem startsIn_append (a b : List UInt8) :
    startsIn (a ++ b) = startsIn a ++ (b.idxsOf '\n'.toUInt8 a.length).map (· + 1) := by
  rw [startsIn, startsIn, List.idxsOf_append, List.map_append, Nat.zero_add, List.cons_append]

/-- **Lines start right after the bytes that are line feeds.** -/
theorem startsAfter_eq (offset : Nat) (text : Text) :
    startsAfter offset text = (text.utf8.idxsOf '\n'.toUInt8 offset).map (· + 1) := by
  induction text generalizing offset with
  | nil => rfl
  | cons c cs ih =>
    rw [startsAfter, Text.utf8_cons, List.idxsOf_append, List.map_append,
      String.length_utf8EncodeChar, ← ih]
    by_cases hc : c = '\n'
    · subst hc
      rfl
    · have hnone : (String.utf8EncodeChar c).idxsOf '\n'.toUInt8 offset = [] := by
        rw [List.idxsOf_eq_nil_iff]
        intro byte hbyte
        rw [beq_eq_false_iff_ne]
        rintro rfl
        exact hc ((Text.mem_utf8EncodeChar_iff (by decide)).mp hbyte)
      rw [if_neg hc, hnone]
      rfl

theorem lineStarts_eq (text : Text) : lineStarts text = startsIn text.utf8 := by
  rw [lineStarts, startsAfter_eq, startsIn]

theorem lineStarts_grow (text : Text) : (lineStarts text).Pairwise (· < ·) := by
  rw [lineStarts_eq, startsIn, List.pairwise_cons]
  constructor
  · intro start hstart
    obtain ⟨i, -, rfl⟩ := List.mem_map.mp hstart
    exact Nat.succ_pos i
  · exact List.pairwise_idxsOf.map _ fun i j hij => Nat.succ_lt_succ hij

theorem le_of_mem_lineStarts {text : Text} {start : Nat} (h : start ∈ lineStarts text) :
    start ≤ text.bytes := by
  rw [lineStarts_eq, startsIn, List.mem_cons] at h
  rcases h with rfl | hlater
  · exact Nat.zero_le _
  · obtain ⟨i, hi, rfl⟩ := List.mem_map.mp hlater
    have hlt := List.lt_add_of_mem_idxsOf i hi
    rw [Text.length_utf8] at hlt
    exact hlt

/-- The table holds the starts as words ... -/
theorem lineStart?_eq (text : Text) (number : Nat) :
    (ofText text).lineStart? number = (lineStarts text)[number]?.map Nat.toUInt32 := by
  rw [lineStart?, ofText, List.getElem?_toArray, List.getElem?_map]
  rfl

section

variable {text : Text} (hsize : text.bytes < UInt32.size)

include hsize

/-- ... and so the starts themselves, if they fit. -/
theorem lineStart?_eq_some_iff {number : Nat} {start : UInt32} :
    (ofText text).lineStart? number = some start ↔
      (lineStarts text)[number]? = some start.toNat := by
  rw [lineStart?_eq]
  cases hentry : (lineStarts text)[number]? with
  | none => simp
  | some entry =>
    have hle := le_of_mem_lineStarts (List.mem_of_getElem? hentry)
    have hword : entry.toUInt32.toNat = entry := UInt32.toNat_ofNat_of_lt (by omega)
    rw [Option.map_some, Option.some.injEq, Option.some.injEq, ← UInt32.toNat_inj, hword]

theorem ascending_starts : Ascending (ofText text).starts := by
  intro i j a b hij ha hb
  have ha' := (lineStart?_eq_some_iff hsize).mp ha
  have hb' := (lineStart?_eq_some_iff hsize).mp hb
  obtain ⟨hi, hentry⟩ := List.getElem?_eq_some_iff.mp ha'
  obtain ⟨hj, hentry'⟩ := List.getElem?_eq_some_iff.mp hb'
  have hlt := List.pairwise_iff_getElem.mp (lineStarts_grow text) i j hi hj hij
  rw [hentry, hentry'] at hlt
  exact UInt32.lt_iff_toNat_lt.mpr hlt

theorem toNat_size : (ofText text).size.toNat = text.bytes := UInt32.toNat_ofNat_of_lt hsize

/-- The position of an offset between the start of a line and that of the next one. -/
theorem position?_eq_some {offset : UInt32} (hoffset : offset.toNat ≤ text.bytes)
    {number start : Nat} (hstart : (lineStarts text)[number]? = some start)
    (hle : start ≤ offset.toNat)
    (hnext : ∀ next, (lineStarts text)[number + 1]? = some next → offset.toNat < next) :
    (ofText text).position? offset = some ⟨number, offset.toNat - start⟩ := by
  have hword : start.toUInt32.toNat = start := UInt32.toNat_ofNat_of_lt (by omega)
  have hentry : (ofText text).lineStart? number = some start.toUInt32 := by
    rw [lineStart?_eq_some_iff hsize, hword, hstart]
  have hbefore : start.toUInt32 ≤ offset := by
    rw [UInt32.le_iff_toNat_le, hword]
    exact hle
  have hnumber : (ofText text).lineNumberAt offset = number := by
    refine lineNumberAt_eq (ascending_starts hsize) hentry hbefore fun next hlater => ?_
    exact UInt32.lt_iff_toNat_lt.mpr (hnext _ ((lineStart?_eq_some_iff hsize).mp hlater))
  have hwithin : ¬ (ofText text).size < offset := by
    rw [UInt32.lt_iff_toNat_lt, toNat_size hsize]
    omega
  simp only [position?, if_neg hwithin, hnumber, hentry, Option.map_some,
    UInt32.toNat_sub_of_le _ _ hbefore, hword]

end

/-! ## Counting line feeds -/

/-- A line starts at `start`, right after the last line feed of the bytes before an offset, or with
them if there is none. -/
def StartsLine (before : List UInt8) (start : Nat) : Prop :=
  ('\n'.toUInt8 ∉ before ∧ start = 0) ∨
  ∃ earlier line, before = earlier ++ '\n'.toUInt8 :: line ∧ '\n'.toUInt8 ∉ line ∧
    start = earlier.length + 1

theorem StartsLine.le_length {before : List UInt8} {start : Nat} (h : StartsLine before start) :
    start ≤ before.length := by
  rcases h with ⟨-, rfl⟩ | ⟨earlier, line, rfl, -, rfl⟩
  · exact Nat.zero_le _
  · rw [List.length_append, List.length_cons]
    omega

/-- As many lines start in some bytes as there are line feeds, and the last of them after the last
line feed. -/
theorem exists_startsLine (before : List UInt8) :
    ∃ start, StartsLine before start ∧
      (startsIn before)[before.count '\n'.toUInt8]? = some start := by
  -- byte by byte: a line feed starts a line, and any other byte belongs to the last one
  induction before using List.reverseRecOn with
  | nil => exact ⟨0, .inl ⟨List.not_mem_nil, rfl⟩, rfl⟩
  | append_singleton before byte ih =>
    rw [startsIn_append, List.count_append]
    by_cases hbyte : byte = '\n'.toUInt8
    · subst hbyte
      refine ⟨before.length + 1, .inr ⟨before, [], rfl, List.not_mem_nil, rfl⟩, ?_⟩
      rw [List.count_singleton_self,
        List.getElem?_append_right (Nat.le_of_eq (length_startsIn before)), length_startsIn,
        Nat.sub_self, List.idxsOf_cons, if_pos (beq_self_eq_true _)]
      rfl
    · obtain ⟨start, hstarts, hentry⟩ := ih
      refine ⟨start, ?_, ?_⟩
      · have hother : '\n'.toUInt8 ∉ [byte] := by
          rw [List.mem_singleton]
          exact fun heq => hbyte heq.symm
        rcases hstarts with ⟨hnone, rfl⟩ | ⟨earlier, line, rfl, hline, rfl⟩
        · exact .inl ⟨by simp [hnone, hother], rfl⟩
        · exact .inr ⟨earlier, line ++ [byte], by simp, by simp [hline, hother], rfl⟩
      · rw [List.count_singleton, if_neg (by simpa using hbyte), Nat.add_zero,
          List.getElem?_append_left, hentry]
        rw [length_startsIn]
        omega

/-- **The position of an offset by counting.** -/
theorem exists_position? {text : Text} (hsize : text.bytes < UInt32.size) {offset : UInt32}
    (hoffset : offset.toNat ≤ text.bytes) :
    ∃ start : UInt32, start ≤ offset ∧ StartsLine (text.utf8.take offset.toNat) start.toNat ∧
      (ofText text).lineStart? ((text.utf8.take offset.toNat).count '\n'.toUInt8) = some start ∧
      (ofText text).position? offset = some
        ⟨(text.utf8.take offset.toNat).count '\n'.toUInt8, offset.toNat - start.toNat⟩ := by
  have hlength : (text.utf8.take offset.toNat).length = offset.toNat := by
    rw [List.length_take, Text.length_utf8]
    omega
  obtain ⟨start, hstarts, hentry⟩ := exists_startsLine (text.utf8.take offset.toNat)
  have hle := hstarts.le_length
  have hsplit := startsIn_append (text.utf8.take offset.toNat) (text.utf8.drop offset.toNat)
  rw [List.take_append_drop, ← lineStarts_eq, hlength] at hsplit
  rw [hlength] at hle
  have hcount := length_startsIn (text.utf8.take offset.toNat)
  have hstart : (lineStarts text)[(text.utf8.take offset.toNat).count '\n'.toUInt8]? =
      some start := by
    rw [hsplit, List.getElem?_append_left (by omega), hentry]
  -- the lines after this one start after the line feeds from the offset on
  have hnext : ∀ next,
      (lineStarts text)[(text.utf8.take offset.toNat).count '\n'.toUInt8 + 1]? = some next →
        offset.toNat < next := by
    intro next hlater
    rw [hsplit, List.getElem?_append_right (by omega)] at hlater
    obtain ⟨i, hi, rfl⟩ := List.mem_map.mp (List.mem_of_getElem? hlater)
    exact Nat.lt_succ_of_le (List.ge_of_mem_idxsOf i hi)
  have hword : start.toUInt32.toNat = start := UInt32.toNat_ofNat_of_lt (by omega)
  refine ⟨start.toUInt32, ?_, ?_, ?_, ?_⟩
  · rw [UInt32.le_iff_toNat_le, hword]
    exact hle
  · rw [hword]
    exact hstarts
  · rw [lineStart?_eq_some_iff hsize, hword, hstart]
  · rw [hword]
    exact position?_eq_some hsize hoffset hstart hle hnext

/-! ## The order of positions -/

end LineIndex

/-- A position comes before another one: on an earlier line, or earlier on the same line. -/
def Position.Before (p q : Position) : Prop :=
  p.line < q.line ∨ p.line = q.line ∧ p.column < q.column

namespace LineIndex

theorem position?_eq_none_iff {text : Text} (hsize : text.bytes < UInt32.size) {offset : UInt32} :
    (ofText text).position? offset = none ↔ text.bytes < offset.toNat := by
  constructor
  · intro hnone
    by_contra hout
    obtain ⟨start, -, -, -, hsome⟩ := exists_position? hsize (Nat.not_lt.mp hout)
    rw [hnone] at hsome
    cases hsome
  · intro hout
    rw [position?, if_pos]
    rw [UInt32.lt_iff_toNat_lt, toNat_size hsize]
    exact hout

/-- Later offsets have later positions. -/
theorem position?_before {text : Text} (hsize : text.bytes < UInt32.size) {a b : UInt32}
    (hab : a < b) (hb : b.toNat ≤ text.bytes) :
    ∃ p q, (ofText text).position? a = some p ∧ (ofText text).position? b = some q ∧
      p.Before q := by
  have hlt : a.toNat < b.toNat := UInt32.lt_iff_toNat_lt.mp hab
  have ha : a.toNat ≤ text.bytes := by omega
  obtain ⟨start, hstart, -, hentry, hp⟩ := exists_position? hsize ha
  obtain ⟨start', hstart', -, hentry', hq⟩ := exists_position? hsize hb
  refine ⟨_, _, hp, hq, ?_⟩
  -- what precedes the later offset starts with what precedes the earlier one
  have hcount : (text.utf8.take a.toNat).count '\n'.toUInt8 ≤
      (text.utf8.take b.toNat).count '\n'.toUInt8 :=
    (List.take_sublist_take_left (Nat.le_of_lt hlt)).count_le _
  rcases Nat.eq_or_lt_of_le hcount with hsame | hless
  · right
    refine ⟨hsame, ?_⟩
    rw [hsame, hentry', Option.some.injEq] at hentry
    rw [UInt32.le_iff_toNat_le] at hstart hstart'
    show a.toNat - start.toNat < b.toNat - start'.toNat
    subst hentry
    omega
  · exact .inl hless

/-- **Positions are found by counting line feeds.** In a text shorter than 2^32 bytes, an offset has
no position iff it is past the end. Otherwise its line is the number of line feeds among the bytes
before it, that line starts right after the last of them, at or before the offset, and its column is
what is left from there to the offset. Later offsets have later positions, so no two offsets have
the same one. -/
theorem position?_counts (text : Text) (hsize : text.bytes < UInt32.size) :
    (∀ offset : UInt32, (ofText text).position? offset = none ↔ text.bytes < offset.toNat) ∧
    (∀ offset : UInt32, offset.toNat ≤ text.bytes →
      ∃ (position : Position) (start : UInt32),
        (ofText text).position? offset = some position ∧
        position.line = (text.utf8.take offset.toNat).count '\n'.toUInt8 ∧
        (ofText text).lineStart? position.line = some start ∧
        StartsLine (text.utf8.take offset.toNat) start.toNat ∧
        start ≤ offset ∧ start.toNat + position.column = offset.toNat) ∧
    (∀ a b : UInt32, a < b → b.toNat ≤ text.bytes →
      ∃ p q, (ofText text).position? a = some p ∧ (ofText text).position? b = some q ∧
        p.Before q) ∧
    ∀ (a b : UInt32) (position : Position), (ofText text).position? a = some position →
      (ofText text).position? b = some position → a = b := by
  refine ⟨fun offset => position?_eq_none_iff hsize, ?_, fun a b => position?_before hsize, ?_⟩
  · intro offset hoffset
    obtain ⟨start, hle, hstarts, hentry, hposition⟩ := exists_position? hsize hoffset
    refine ⟨_, start, hposition, rfl, hentry, hstarts, hle, ?_⟩
    exact Nat.add_sub_of_le (UInt32.le_iff_toNat_le.mp hle)
  · -- two offsets with the same position would be one before the other
    have hdistinct : ∀ {a b : UInt32} {position : Position}, a < b →
        (ofText text).position? a = some position → (ofText text).position? b = some position →
        False := by
      intro a b position hab ha hb
      have hwithin : b.toNat ≤ text.bytes := by
        by_contra hout
        rw [(position?_eq_none_iff hsize).mpr (Nat.not_le.mp hout)] at hb
        cases hb
      obtain ⟨p, q, hp, hq, hbefore⟩ := position?_before hsize hab hwithin
      rw [ha, Option.some.injEq] at hp
      rw [hb, Option.some.injEq] at hq
      subst hp hq
      rcases hbefore with hline | ⟨-, hcolumn⟩
      · exact Nat.lt_irrefl _ hline
      · exact Nat.lt_irrefl _ hcolumn
    intro a b position ha hb
    by_contra hne
    rcases UInt32.lt_or_lt_of_ne hne with hab | hba
    · exact hdistinct hab ha hb
    · exact hdistinct hba hb ha

/-- An offset inside a character, on a line after an empty one. -/
theorem position?_counts_within :
    let text : Text := ['a', '\n', '\n', 'é', 'b']
    text.bytes < UInt32.size ∧
    (∃ (position : Position) (start : UInt32),
      (ofText text).position? 4 = some position ∧
      position.line = (text.utf8.take 4).count '\n'.toUInt8 ∧
      (ofText text).lineStart? position.line = some start ∧
      StartsLine (text.utf8.take 4) start.toNat ∧
      start ≤ 4 ∧ start.toNat + position.column = 4) ∧
    ∃ p q, (ofText text).position? 2 = some p ∧ (ofText text).position? 4 = some q ∧
      p.Before q := by
  have hcounts := position?_counts ['a', '\n', '\n', 'é', 'b'] (by decide)
  exact ⟨by decide, hcounts.2.1 4 (by decide), hcounts.2.2.1 2 4 (by decide) (by decide)⟩

end LineIndex

end StyleAudit
