import StyleAudit.Text.Blank

/-!
# Facts about texts

- `Text.contains_iff`: a part is found iff it stands somewhere in the text.
- `Text.cut?_least`, `Text.cut?_note`: a text is cut at the first occurrence, a note at its end.
- `Text.pass_induction`: texts as a pass over the occurrences of a part goes through them.
- `Text.slice?_append`: the part between two byte offsets that are lengths of what precedes it.
- `Text.takeBytes?_eq_some`, `Text.slice?_eq_some`: where byte offsets cut a text.
- `Text.mem_utf8EncodeChar_iff`: an ASCII byte is a character of its own.
- `Text.trim_padded`: blanks around a text without outer blanks are what trimming removes.
-/

namespace StyleAudit.Text

/-! ## Parts of a text -/

theorem dropLead?_eq_none_iff {lead text : Text} :
    dropLead? lead text = none ↔ ¬ lead <+: text := by
  rw [Option.eq_none_iff_forall_ne_some]
  constructor
  · rintro hnone ⟨rest, hrest⟩
    exact hnone rest (dropLead?_eq_some.mpr hrest.symm)
  · intro hout rest hrest
    exact hout ⟨rest, (dropLead?_eq_some.mp hrest).symm⟩

theorem startsWith_iff {lead text : Text} : startsWith lead text = true ↔ lead <+: text := by
  rw [startsWith, Option.isSome_iff_ne_none, ne_eq, dropLead?_eq_none_iff, Classical.not_not]

theorem cut?_isSome_of_append {part after : Text} : ∀ before : Text,
    (cut? part (before ++ part ++ after)).isSome
  | [] => by
    have hlead : dropLead? part (part ++ after) = some after := dropLead?_eq_some.mpr rfl
    show (cut? part (part ++ after)).isSome
    cases htext : part ++ after with
    | nil =>
      rw [htext] at hlead
      rw [cut?, hlead]
      rfl
    | cons c cs =>
      rw [htext] at hlead
      rw [cut?, hlead]
      rfl
  | c :: before => by
    show (cut? part (c :: (before ++ part ++ after))).isSome
    rw [cut?]
    cases dropLead? part (c :: (before ++ part ++ after)) with
    | some rest => rfl
    | none =>
      rw [Option.isSome_map]
      exact cut?_isSome_of_append before

/-- A part is found iff it stands somewhere in the text. -/
theorem contains_iff {part text : Text} : contains part text = true ↔ part <:+: text := by
  rw [contains]
  constructor
  · intro h
    obtain ⟨⟨before, after⟩, hcut⟩ := Option.isSome_iff_exists.mp h
    exact ⟨before, after, (cut?_eq_append hcut).symm⟩
  · rintro ⟨before, after, rfl⟩
    exact cut?_isSome_of_append before

theorem cut?_eq_none_iff {part text : Text} : cut? part text = none ↔ ¬ part <:+: text := by
  rw [← contains_iff, contains, Option.not_isSome_iff_eq_none]

/-- The first occurrence of a part is not preceded by another one. -/
theorem not_part_before_cut {part text before after : Text} (hne : part ≠ [])
    (h : cut? part text = some (before, after)) : ¬ part <:+: before := by
  induction text generalizing before with
  | nil =>
    simp only [cut?, Option.map_eq_some_iff, Prod.mk.injEq] at h
    obtain ⟨_, -, rfl, rfl⟩ := h
    exact fun hpart => hne (List.infix_nil.mp hpart)
  | cons c cs ih =>
    simp only [cut?] at h
    cases hlead : dropLead? part (c :: cs) with
    | some rest =>
      rw [hlead] at h
      cases h
      exact fun hpart => hne (List.infix_nil.mp hpart)
    | none =>
      rw [hlead] at h
      simp only [Option.map_eq_some_iff, Prod.mk.injEq, Prod.exists] at h
      obtain ⟨b, a, hcut, rfl, rfl⟩ := h
      intro hpart
      rcases List.infix_cons_iff.mp hpart with hstart | hlater
      · -- an occurrence at the start would have been found there
        have htext : c :: b <+: c :: cs := ⟨part ++ a, by simp [cut?_eq_append hcut]⟩
        obtain ⟨rest, hrest⟩ := hstart.trans htext
        rw [dropLead?_eq_some.mpr hrest.symm] at hlead
        cases hlead
      · exact ih hcut hlater

/-- No occurrence of a part is before the one at which a text is cut. -/
theorem cut?_least {part text before after front back : Text}
    (h : cut? part text = some (before, after)) (hother : text = front ++ part ++ back) :
    before.length ≤ front.length := by
  induction text generalizing before front with
  | nil =>
    simp only [cut?, Option.map_eq_some_iff, Prod.mk.injEq] at h
    obtain ⟨rest, -, rfl, -⟩ := h
    exact Nat.zero_le _
  | cons c cs ih =>
    rw [cut?] at h
    cases hlead : dropLead? part (c :: cs) with
    | some rest =>
      rw [hlead] at h
      cases h
      exact Nat.zero_le _
    | none =>
      rw [hlead] at h
      simp only [Option.map_eq_some_iff, Prod.mk.injEq, Prod.exists] at h
      obtain ⟨b, a, hcut, rfl, rfl⟩ := h
      cases front with
      | nil =>
        rw [List.nil_append] at hother
        rw [dropLead?_eq_some.mpr hother] at hlead
        cases hlead
      | cons d ds => exact Nat.succ_le_succ (ih hcut (List.cons.inj hother).2)

/-- What precedes the first occurrence of a part precedes every other one. -/
theorem lead_of_cut? {text part first rest before after : Text}
    (hcut : cut? part text = some (first, rest)) (hother : text = before ++ part ++ after) :
    first <+: before := by
  have hfirst : first <+: text := by
    rw [cut?_eq_append hcut, List.append_assoc]
    exact List.prefix_append _ _
  have hbefore : before <+: text := by
    rw [hother, List.append_assoc]
    exact List.prefix_append _ _
  exact List.prefix_of_prefix_length_le hfirst hbefore (cut?_least hcut hother)

/-- A note without `*/` in it ends before the first `*/`, whatever follows. -/
theorem cut?_note {note : Text} (h : ¬ ['*', '/'] <:+: note) (more : Text) :
    cut? ['*', '/'] (note ++ ['*', '/'] ++ more) = some (note, more) := by
  induction note with
  | nil => rfl
  | cons c cs ih =>
    have hrest : ¬ ['*', '/'] <:+: cs := fun hcs => h (hcs.trans (List.suffix_cons c cs).isInfix)
    have hlead : dropLead? ['*', '/'] (c :: (cs ++ ['*', '/'] ++ more)) = none := by
      cases hfound : dropLead? ['*', '/'] (c :: (cs ++ ['*', '/'] ++ more)) with
      | none => rfl
      | some rest =>
        obtain ⟨rfl, hslash⟩ := List.cons.inj (dropLead?_eq_some.mp hfound)
        -- the slash would be in the note, as the character after the note is a star
        cases cs with
        | nil => cases hslash
        | cons d ds =>
          cases hslash
          exact absurd ⟨[], ds, rfl⟩ h
    rw [List.cons_append, List.cons_append, cut?, hlead, ih hrest]
    rfl

/-- Texts as a pass over the occurrences of a part goes through them: it moves on by a character
where no occurrence starts, and over an occurrence as a whole. -/
theorem pass_induction {part : Text} (hne : part ≠ []) {motive : Text → Prop} (nil : motive [])
    (skip : ∀ c cs, ¬ part <+: c :: cs → motive cs → motive (c :: cs))
    (found : ∀ rest, motive rest → motive (part ++ rest)) (text : Text) : motive text := by
  induction hlength : text.length using Nat.strongRecOn generalizing text with
  | ind length ih =>
    subst hlength
    by_cases hlead : part <+: text
    · obtain ⟨rest, rfl⟩ := hlead
      have hpos := List.length_pos_iff.mpr hne
      exact found rest (ih rest.length (by rw [List.length_append]; omega) rest rfl)
    · cases text with
      | nil => exact nil
      | cons c cs => exact skip c cs hlead (ih cs.length (Nat.lt_succ_self _) cs rfl)

/-! ## Byte offsets -/

theorem bytes_pos {text : Text} (h : text ≠ []) : 0 < text.bytes := by
  cases text with
  | nil => exact absurd rfl h
  | cons c cs =>
    have hc := c.utf8Size_pos
    rw [bytes_cons]
    omega

theorem dropBytes?_cons (c : Char) (n : Nat) (cs : Text) :
    dropBytes? (c.utf8Size + n) (c :: cs) = dropBytes? n cs := by
  obtain ⟨size, hsize⟩ := Nat.exists_eq_add_of_lt c.utf8Size_pos
  have hnumber : c.utf8Size + n = size + n + 1 := by omega
  have hrest : size + n + 1 - c.utf8Size = n := by omega
  rw [hnumber, dropBytes?, if_pos (by omega), hrest]

theorem takeBytes?_cons (c : Char) (n : Nat) (cs : Text) :
    takeBytes? (c.utf8Size + n) (c :: cs) = (takeBytes? n cs).map (c :: ·) := by
  obtain ⟨size, hsize⟩ := Nat.exists_eq_add_of_lt c.utf8Size_pos
  have hnumber : c.utf8Size + n = size + n + 1 := by omega
  have hrest : size + n + 1 - c.utf8Size = n := by omega
  rw [hnumber, takeBytes?, if_pos (by omega), hrest]

theorem dropBytes?_append (before after : Text) :
    dropBytes? (bytes before) (before ++ after) = some after := by
  induction before with
  | nil => rw [bytes_nil, dropBytes?, List.nil_append]
  | cons c cs ih => rw [bytes_cons, List.cons_append, dropBytes?_cons, ih]

theorem takeBytes?_append (before after : Text) :
    takeBytes? (bytes before) (before ++ after) = some before := by
  induction before with
  | nil => rw [bytes_nil, takeBytes?]
  | cons c cs ih =>
    rw [bytes_cons, List.cons_append, takeBytes?_cons, ih]
    rfl

/-- A part is what stands between its byte offsets. -/
theorem slice?_append (before part after : Text) :
    slice? before.bytes (before.bytes + part.bytes) (before ++ part ++ after) = some part := by
  have hwidth : before.bytes + part.bytes - before.bytes = part.bytes := by omega
  rw [slice?, if_pos (Nat.le_add_right _ _), List.append_assoc, dropBytes?_append, hwidth]
  exact takeBytes?_append part after

theorem takeBytes?_eq_some {n : Nat} {text lead : Text} :
    takeBytes? n text = some lead ↔ lead <+: text ∧ lead.bytes = n := by
  constructor
  · intro h
    fun_induction takeBytes? n text generalizing lead with
    | case1 text =>
      cases h
      exact ⟨List.nil_prefix, rfl⟩
    | case2 n => cases h
    | case3 n c cs hfits ih =>
      obtain ⟨rest, hrest, rfl⟩ := Option.map_eq_some_iff.mp h
      obtain ⟨hlead, hbytes⟩ := ih hrest
      refine ⟨List.cons_prefix_cons.mpr ⟨rfl, hlead⟩, ?_⟩
      rw [bytes_cons, hbytes]
      omega
    | case4 n c cs hcut => cases h
  · rintro ⟨⟨rest, rfl⟩, rfl⟩
    exact takeBytes?_append lead rest

theorem dropBytes?_eq_some {n : Nat} {text rest : Text} :
    dropBytes? n text = some rest ↔ ∃ lead, text = lead ++ rest ∧ lead.bytes = n := by
  constructor
  · intro h
    fun_induction dropBytes? n text with
    | case1 text =>
      cases h
      exact ⟨[], rfl, rfl⟩
    | case2 n => cases h
    | case3 n c cs hfits ih =>
      obtain ⟨lead, rfl, hbytes⟩ := ih h
      refine ⟨c :: lead, rfl, ?_⟩
      rw [bytes_cons, hbytes]
      omega
    | case4 n c cs hcut => cases h
  · rintro ⟨lead, rfl, rfl⟩
    exact dropBytes?_append lead rest

theorem slice?_eq_some {start stop : Nat} {text part : Text} :
    slice? start stop text = some part ↔
      ∃ before after, text = before ++ part ++ after ∧ before.bytes = start ∧
        bytes (before ++ part) = stop := by
  constructor
  · intro h
    rw [slice?] at h
    split at h
    · obtain ⟨rest, hdrop, htake⟩ := Option.bind_eq_some_iff.mp h
      obtain ⟨before, rfl, hbefore⟩ := dropBytes?_eq_some.mp hdrop
      obtain ⟨⟨after, rfl⟩, hpart⟩ := takeBytes?_eq_some.mp htake
      refine ⟨before, after, by rw [List.append_assoc], hbefore, ?_⟩
      rw [bytes_append]
      omega
    · cases h
  · rintro ⟨before, after, rfl, rfl, rfl⟩
    rw [bytes_append]
    exact slice?_append before part after

/-! ## Bytes -/

@[simp] theorem utf8_nil : utf8 [] = [] := rfl

@[simp] theorem utf8_cons (c : Char) (cs : Text) :
    utf8 (c :: cs) = String.utf8EncodeChar c ++ utf8 cs :=
  List.flatMap_cons

@[simp] theorem utf8_append (a b : Text) : utf8 (a ++ b) = utf8 a ++ utf8 b := List.flatMap_append

@[simp] theorem length_utf8 (text : Text) : (utf8 text).length = text.bytes := by
  induction text with
  | nil => rfl
  | cons c cs ih => rw [utf8_cons, List.length_append, String.length_utf8EncodeChar, ih, bytes_cons]

theorem utf8EncodeChar_of_ascii {c : Char} (h : c.toNat ≤ 127) :
    String.utf8EncodeChar c = [c.toUInt8] :=
  String.utf8EncodeChar_eq_singleton (Char.utf8Size_eq_one_iff.mpr h)

/-- No byte of a character outside of ASCII is an ASCII character. -/
theorem le_of_mem_utf8EncodeChar {c : Char} (h : 127 < c.toNat) {b : UInt8}
    (hb : b ∈ String.utf8EncodeChar c) : 128 ≤ b.toNat := by
  have hvalue : ¬ c.val.toNat ≤ 127 := Nat.not_le.mpr h
  have hhigh : ∀ n, 128 ≤ n % 256 → b = UInt8.ofNat n → 128 ≤ b.toNat := by
    rintro n hn rfl
    exact hn
  simp only [String.utf8EncodeChar, if_neg hvalue] at hb
  split at hb
  · simp only [List.mem_cons, List.not_mem_nil, or_false] at hb
    rcases hb with hb | hb
    all_goals exact hhigh _ (by omega) hb
  split at hb
  · simp only [List.mem_cons, List.not_mem_nil, or_false] at hb
    rcases hb with hb | hb | hb
    all_goals exact hhigh _ (by omega) hb
  · simp only [List.mem_cons, List.not_mem_nil, or_false] at hb
    rcases hb with hb | hb | hb | hb
    all_goals exact hhigh _ (by omega) hb

/-- The byte of an ASCII character is found in that character only. -/
theorem mem_utf8EncodeChar_iff {a c : Char} (ha : a.toNat ≤ 127) :
    a.toUInt8 ∈ String.utf8EncodeChar c ↔ c = a := by
  have hbyte : ∀ {d : Char}, d.toNat ≤ 127 → d.toUInt8.toNat = d.toNat := by
    intro d hd
    have hlt : d.val.toNat < 256 := Nat.lt_of_le_of_lt hd (by decide)
    exact Nat.mod_eq_of_lt hlt
  constructor
  · intro h
    by_cases hc : c.toNat ≤ 127
    · rw [utf8EncodeChar_of_ascii hc, List.mem_singleton] at h
      have hsame : c.toNat = a.toNat := by rw [← hbyte hc, ← h, hbyte ha]
      exact Char.toNat_inj.mp hsame
    · have hhigh := le_of_mem_utf8EncodeChar (Nat.not_le.mp hc) h
      rw [hbyte ha] at hhigh
      omega
  · rintro rfl
    rw [utf8EncodeChar_of_ascii ha]
    exact List.mem_singleton_self _

/-! ## Outer blanks -/

theorem isBlank_of_isSpace {c : Char} (h : isSpace c = true) : isBlank c = true := by
  simp only [isSpace, Bool.or_eq_true, beq_iff_eq] at h
  rcases h with (((rfl | rfl) | rfl) | rfl) | rfl <;> rfl

theorem trimStart_suffix (text : Text) : trimStart text <:+ text := List.dropWhile_suffix _

theorem trimEnd_length_le (text : Text) : (trimEnd text).length ≤ text.length := by
  rw [trimEnd, List.length_reverse, ← text.length_reverse]
  exact (List.dropWhile_suffix _).length_le

theorem trimEnd_lead (text : Text) : trimEnd text <+: text := by
  rw [← List.reverse_suffix, trimEnd, List.reverse_reverse]
  exact List.dropWhile_suffix _

/-- Trimming leaves a contiguous part. -/
theorem trim_part (text : Text) : trim text <:+: text :=
  (trimEnd_lead _).isInfix.trans (trimStart_suffix text).isInfix

/-- A text that trimming leaves alone has no blank at its start ... -/
theorem trimStart_of_trimmed {text : Text} (h : text.trim = text) : trimStart text = text := by
  refine (trimStart_suffix text).eq_of_length_le ?_
  calc text.length = (trimEnd (trimStart text)).length := by rw [← trim, h]
    _ ≤ (trimStart text).length := trimEnd_length_le _

/-- ... and none at its end. -/
theorem trimEnd_of_trimmed {text : Text} (h : text.trim = text) : trimEnd text = text := by
  have htrim : trimEnd (trimStart text) = text := h
  rwa [trimStart_of_trimmed h] at htrim

theorem trimStart_append_of_blank {blanks : Text} (h : ∀ c ∈ blanks, isBlank c = true)
    (text : Text) : trimStart (blanks ++ text) = trimStart text :=
  List.dropWhile_append_of_pos h

/-- After its blanks a text starts with a character that is no blank iff only blanks precede it. -/
theorem lead_trimStart_iff {c : Char} (hc : isBlank c = false) {text : Text} :
    [c] <+: trimStart text ↔
      ∃ blanks rest, text = blanks ++ c :: rest ∧ ∀ d ∈ blanks, isBlank d = true := by
  constructor
  · rintro ⟨rest, hrest⟩
    refine ⟨text.takeWhile isBlank, rest, ?_, List.all_eq_true.mp List.all_takeWhile⟩
    rw [← List.singleton_append, hrest]
    exact (List.takeWhile_append_dropWhile (p := isBlank)).symm
  · rintro ⟨blanks, rest, rfl, hblanks⟩
    rw [trimStart_append_of_blank hblanks, trimStart, List.dropWhile_cons_of_neg (by simp [hc])]
    exact ⟨rest, rfl⟩

theorem trimEnd_append_of_blank {blanks : Text} (h : ∀ c ∈ blanks, isBlank c = true)
    (text : Text) : trimEnd (text ++ blanks) = trimEnd text := by
  rw [trimEnd, List.reverse_append, trimEnd]
  congr 1
  exact List.dropWhile_append_of_pos fun c hc => h c (List.mem_reverse.mp hc)

/-- A text that starts with no blank keeps its start when more follows. -/
theorem trimStart_append_of_trimmed {text : Text} (h : text.trim = text) (hne : text ≠ [])
    (more : Text) : trimStart (text ++ more) = text ++ more := by
  have hstart := trimStart_of_trimmed h
  cases text with
  | nil => exact absurd rfl hne
  | cons c cs =>
    have hc : ¬ isBlank c = true := by
      intro hc
      rw [trimStart, List.dropWhile_cons_of_pos hc] at hstart
      have hlen := (List.dropWhile_suffix isBlank (l := cs)).length_le
      rw [hstart] at hlen
      exact absurd hlen (Nat.not_succ_le_self _)
    exact List.dropWhile_cons_of_neg hc

/-- Blanks around a text without outer blanks are what trimming removes. -/
theorem trim_padded {text before after : Text} (h : text.trim = text)
    (hbefore : ∀ c ∈ before, isBlank c = true) (hafter : ∀ c ∈ after, isBlank c = true) :
    trim (before ++ text ++ after) = text := by
  rw [trim, List.append_assoc, trimStart_append_of_blank hbefore]
  by_cases hne : text = []
  · subst hne
    have hnil := trimStart_append_of_blank hafter []
    rw [List.append_nil] at hnil
    rw [List.nil_append, hnil]
    rfl
  · rw [trimStart_append_of_trimmed h hne, trimEnd_append_of_blank hafter, trimEnd_of_trimmed h]

end StyleAudit.Text
