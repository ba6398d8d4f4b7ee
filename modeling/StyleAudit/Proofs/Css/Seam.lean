import StyleAudit.Css.Token

/-!
# Tokens across a seam

Where a text is followed by more text, its tokens stay as they are unless the last one goes on.

- `Kind.continuesWith`: the characters with which a token of a kind would go on.
- `Kind.EndsBefore`: a token of a kind ends where this text follows it.
- `scan_taken`: a token is the same before any text that does not continue it.
- `scan_endsBefore`: a token ends where it ends, so its rest never continues it.
- `lexemes_followed`: so the first tokens of a text are the same before any text that does not
  continue the last of them.
-/

namespace StyleAudit

namespace Text

/-! ## Runs of characters -/

/-- A run of characters ends where a character of another kind follows. -/
theorem takeWhile_taken (p : Char → Bool) (cs : Text) {more : Text}
    (hmore : ∀ c ∈ more.head?, p c = false) :
    (cs.takeWhile p ++ more).takeWhile p = cs.takeWhile p ∧
      (cs.takeWhile p ++ more).dropWhile p = more := by
  have hrun : ∀ c ∈ cs.takeWhile p, p c = true := List.all_eq_true.mp List.all_takeWhile
  rw [List.takeWhile_append_of_pos hrun, List.dropWhile_append_of_pos hrun]
  cases more with
  | nil => simp
  | cons c cs =>
    have hc : ¬ p c = true := by simp [hmore c rfl]
    rw [List.takeWhile_cons_of_neg hc, List.dropWhile_cons_of_neg hc, List.append_nil]
    exact ⟨rfl, rfl⟩

/-- The first occurrence of a part stays the first, whatever follows it. -/
theorem cut?_followed {part text before after : Text} (h : cut? part text = some (before, after))
    (more : Text) : cut? part (before ++ part ++ more) = some (before, more) := by
  induction text generalizing before with
  | nil =>
    simp only [cut?, Option.map_eq_some_iff, Prod.mk.injEq] at h
    obtain ⟨rest, hrest, rfl, rfl⟩ := h
    have hnil : part = [] := by
      have := dropLead?_eq_some.mp hrest
      simp_all
    subst hnil
    cases more <;> rfl
  | cons c cs ih =>
    simp only [cut?] at h
    cases hlead : dropLead? part (c :: cs) with
    | some rest =>
      rw [hlead] at h
      cases h
      have hmore : dropLead? part (part ++ more) = some more := dropLead?_eq_some.mpr rfl
      show cut? part (part ++ more) = some ([], more)
      cases htext : part ++ more with
      | nil =>
        rw [htext] at hmore
        rw [cut?, hmore]
        rfl
      | cons d ds =>
        rw [htext] at hmore
        rw [cut?, hmore]
    | none =>
      rw [hlead] at h
      simp only [Option.map_eq_some_iff, Prod.mk.injEq, Prod.exists] at h
      obtain ⟨b, a, hcut, rfl, rfl⟩ := h
      -- an earlier occurrence would not reach beyond the first one, so it would be one of the text
      have hmore : dropLead? part (c :: (b ++ part ++ more)) = none := by
        cases hlead' : dropLead? part (c :: (b ++ part ++ more)) with
        | none => rfl
        | some rest =>
          have hbegins : part <+: c :: (b ++ part) ++ more :=
            ⟨rest, (dropLead?_eq_some.mp hlead').symm⟩
          have hlen : part.length ≤ (c :: (b ++ part)).length := by
            simp only [List.length_append, List.length_cons]
            omega
          obtain ⟨rest', hrest'⟩ := List.prefix_of_prefix_length_le hbegins
            (List.prefix_append (c :: (b ++ part)) more) hlen
          have htext : c :: cs = part ++ (rest' ++ a) := by
            rw [cut?_eq_append hcut, ← List.cons_append, ← hrest', List.append_assoc]
          rw [dropLead?_eq_some.mpr htext] at hlead
          cases hlead
      rw [List.cons_append, List.cons_append, cut?, hmore]
      simp only [ih hcut, Option.map_some]

end Text

namespace Css

/-! ## Where tokens end -/

/-- Whether a token of this kind goes on with this character. -/
def Kind.continuesWith : Kind → Char → Bool
  | .whitespace, c => Text.isSpace c
  | .plain, c => isPlain c
  | .atKeyword, c => Text.isNameChar c
  | .atSign, c => isKeywordStart c
  | .slash, c => c == '*'
  | _, _ => false

/-- A token of this kind ends where `rest` follows it. -/
def Kind.EndsBefore (kind : Kind) (rest : Text) : Prop :=
  ∀ c ∈ rest.head?, kind.continuesWith c = false

theorem Kind.EndsBefore.append {kind : Kind} {rest more : Text} (h : kind.EndsBefore rest)
    (hne : rest ≠ []) : kind.EndsBefore (rest ++ more) := by
  cases rest with
  | nil => exact absurd rfl hne
  | cons c cs => exact h

theorem Kind.EndsBefore.of_append {kind : Kind} {rest more : Text}
    (h : kind.EndsBefore (rest ++ more)) (hne : rest ≠ []) : kind.EndsBefore rest := by
  cases rest with
  | nil => exact absurd rfl hne
  | cons c cs => exact h

/-- A character that is no backslash is read alone. -/
theorem scanString_cons {c : Char} (hc : c ≠ '\\') (quote : Char) (cs : Text) :
    scanString quote (c :: cs) =
      if c = quote then ⟨true, [c], cs⟩ else (scanString quote cs).prepend [c] :=
  scanString.eq_5 quote c cs (fun h _ => hc h) (fun _ h _ => hc h) (fun _ _ h _ => hc h)

/-- A character at which no escape starts is no backslash. -/
theorem ne_backslash {c : Char} {cs : Text} (hnil : c = '\\' → cs = [] → False)
    (hcons : ∀ d ds, c = '\\' → cs = d :: ds → False) : c ≠ '\\' := by
  intro hc
  cases cs with
  | nil => exact hnil hc rfl
  | cons d ds => exact hcons d ds hc rfl

/-- A closed string is closed at the same place, whatever follows it. -/
theorem scanString_followed (quote : Char) (cs more : Text)
    (h : (scanString quote cs).closed = true) :
    scanString quote ((scanString quote cs).taken ++ more) =
      { scanString quote cs with rest := more } := by
  fun_induction scanString quote cs with
  | case1 => cases h
  | case2 => cases h
  | case3 => cases h
  | case4 c cs hc ih =>
    show scanString quote ('\\' :: c :: ((scanString quote cs).taken ++ more)) = _
    rw [scanString.eq_4 _ _ _ hc, ih h]
    rfl
  | case5 cs hnil _ hcons =>
    show scanString quote (quote :: more) = _
    rw [scanString_cons (ne_backslash hnil hcons), if_pos rfl]
  | case6 c cs hnil _ hcons hquote ih =>
    show scanString quote (c :: ((scanString quote cs).taken ++ more)) = _
    rw [scanString_cons (ne_backslash hnil hcons), if_neg hquote, ih h]
    rfl

/-! ## A token and what follows it -/

theorem stringToken_taken {quote : Char} {cs : Text} (more : Text)
    (h : (stringToken quote cs).kind ≠ .broken) :
    stringToken quote ((stringToken quote cs).taken.tail ++ more) =
      { stringToken quote cs with rest := more } := by
  have hclosed : (scanString quote cs).closed = true := by
    cases hc : (scanString quote cs).closed with
    | true => rfl
    | false => simp [stringToken, hc] at h
  show stringToken quote ((scanString quote cs).taken ++ more) = _
  rw [stringToken, scanString_followed quote cs more hclosed]
  rfl

theorem atToken_taken {cs more : Text} (hends : (atToken cs).kind.EndsBefore more) :
    atToken ((atToken cs).taken.tail ++ more) = { atToken cs with rest := more } := by
  have hsign : ∀ ds : Text, Kind.atSign.EndsBefore ds → atToken ds = ⟨.atSign, ['@'], ds⟩ := by
    intro ds hds
    cases ds with
    | nil => rfl
    | cons d ds =>
      have hd : isKeywordStart d = false := hds d rfl
      simp [atToken, hd]
  cases cs with
  | nil => exact hsign more hends
  | cons c cs =>
    by_cases hc : isKeywordStart c = true
    · simp only [atToken, if_pos hc] at hends
      obtain ⟨htake, hdrop⟩ := Text.takeWhile_taken Text.isNameChar cs hends
      simp only [atToken, if_pos hc, List.tail_cons, List.cons_append]
      rw [htake, hdrop]
    · simp only [atToken, if_neg hc] at hends ⊢
      exact hsign more hends

theorem slashToken_eq_slash {cs : Text} (h : ∀ ds, cs ≠ '*' :: ds) :
    slashToken cs = ⟨.slash, ['/'], cs⟩ := slashToken.eq_2 cs h

theorem slashToken_taken {cs more : Text} (h : (slashToken cs).kind ≠ .broken)
    (hends : (slashToken cs).kind.EndsBefore more) :
    slashToken ((slashToken cs).taken.tail ++ more) = { slashToken cs with rest := more } := by
  by_cases hstar : ∃ ds, cs = '*' :: ds
  · obtain ⟨ds, rfl⟩ := hstar
    simp only [slashToken] at h ⊢
    cases hcut : Text.cut? ['*', '/'] ds with
    | none => simp [hcut] at h
    | some sides =>
      simp only [List.tail_cons, List.cons_append, Text.cut?_followed hcut more]
  · have hslash := slashToken_eq_slash fun ds hds => hstar ⟨ds, hds⟩
    rw [hslash] at hends ⊢
    refine slashToken_eq_slash ?_
    rintro ds hds
    have hmore : more = '*' :: ds := hds
    have hcontinues : Kind.slash.continuesWith '*' = false := hends '*' (by rw [hmore]; rfl)
    cases hcontinues

/-- **A token is the same before any text that does not continue it.** -/
theorem scan_taken {c : Char} {cs more : Text} (h : (scan c cs).kind ≠ .broken)
    (hends : (scan c cs).kind.EndsBefore more) :
    scan c ((scan c cs).taken.tail ++ more) = { scan c cs with rest := more } := by
  unfold scan at h hends ⊢
  cases hpunct : punctuation? c with
  | some kind => rfl
  | none =>
    simp only [hpunct] at h hends ⊢
    by_cases hquote : c = '\x22' ∨ c = '\x27'
    · simp only [if_pos hquote] at h ⊢
      exact stringToken_taken more h
    simp only [if_neg hquote] at h hends ⊢
    by_cases hat : c = '@'
    · simp only [if_pos hat] at hends ⊢
      exact atToken_taken hends
    simp only [if_neg hat] at h hends ⊢
    by_cases hslash : c = '/'
    · simp only [if_pos hslash] at h hends ⊢
      exact slashToken_taken h hends
    simp only [if_neg hslash] at hends ⊢
    by_cases hspace : Text.isSpace c = true
    · simp only [if_pos hspace] at hends ⊢
      obtain ⟨htake, hdrop⟩ := Text.takeWhile_taken Text.isSpace cs hends
      rw [List.tail_cons, htake, hdrop]
    · simp only [if_neg hspace] at hends ⊢
      obtain ⟨htake, hdrop⟩ := Text.takeWhile_taken isPlain cs hends
      rw [List.tail_cons, htake, hdrop]

/-- A token with more text after it. -/
def Scan.followedBy (scan : Scan) (more : Text) : Scan := { scan with rest := scan.rest ++ more }

/-- A token that ends before what follows is the same with more text after it. -/
theorem scan_followed {c : Char} {cs more : Text} (h : (scan c cs).kind ≠ .broken)
    (hends : (scan c cs).kind.EndsBefore ((scan c cs).rest ++ more)) :
    scan c (cs ++ more) = (scan c cs).followedBy more := by
  have hsplit : cs ++ more = (scan c cs).taken.tail ++ ((scan c cs).rest ++ more) := by
    have happend := congrArg List.tail (scan_append c cs)
    rw [List.tail_append_of_ne_nil (taken_ne_nil c cs), List.tail_cons] at happend
    rw [← List.append_assoc, happend]
  rw [hsplit]
  exact scan_taken h hends

/-! ## A token is as long as can be -/

theorem endsBefore_dropWhile {kind : Kind} (cs : Text) :
    kind.EndsBefore (cs.dropWhile kind.continuesWith) := by
  intro c hc
  have hstop := List.head?_dropWhile_not kind.continuesWith cs
  rw [Option.mem_def.mp hc] at hstop
  exact hstop

theorem atToken_endsBefore (cs : Text) : (atToken cs).kind.EndsBefore (atToken cs).rest := by
  cases cs with
  | nil => exact fun _ h => nomatch h
  | cons c cs =>
    by_cases hc : isKeywordStart c = true
    · simp only [atToken, if_pos hc]
      exact endsBefore_dropWhile cs
    · simp only [atToken, if_neg hc]
      intro d hd
      cases hd
      exact Bool.eq_false_iff.mpr hc

theorem slashToken_endsBefore (cs : Text) :
    (slashToken cs).kind.EndsBefore (slashToken cs).rest := by
  by_cases hstar : ∃ ds, cs = '*' :: ds
  · obtain ⟨ds, rfl⟩ := hstar
    simp only [slashToken]
    cases Text.cut? ['*', '/'] ds <;> exact fun _ _ => rfl
  · rw [slashToken_eq_slash fun ds hds => hstar ⟨ds, hds⟩]
    intro c hc
    obtain ⟨ds, rfl⟩ := List.head?_eq_some_iff.mp (Option.mem_def.mp hc)
    have hne : c ≠ '*' := fun h => hstar ⟨ds, h ▸ rfl⟩
    simpa [Kind.continuesWith] using hne

theorem punctuation?_continuesWith {c : Char} {kind : Kind} (h : punctuation? c = some kind)
    (d : Char) : kind.continuesWith d = false := by
  unfold punctuation? at h
  split at h <;> cases h <;> rfl

/-- The rest after a token never continues it. -/
theorem scan_endsBefore (c : Char) (cs : Text) : (scan c cs).kind.EndsBefore (scan c cs).rest := by
  unfold scan
  cases hpunct : punctuation? c with
  | some kind => exact fun d _ => punctuation?_continuesWith hpunct d
  | none =>
    simp only
    by_cases hquote : c = '\x22' ∨ c = '\x27'
    · simp only [if_pos hquote, stringToken]
      cases (scanString c cs).closed <;> exact fun _ _ => rfl
    simp only [if_neg hquote]
    by_cases hat : c = '@'
    · simp only [if_pos hat]
      exact atToken_endsBefore cs
    simp only [if_neg hat]
    by_cases hslash : c = '/'
    · simp only [if_pos hslash]
      exact slashToken_endsBefore cs
    simp only [if_neg hslash]
    by_cases hspace : Text.isSpace c = true
    · simp only [if_pos hspace]
      exact endsBefore_dropWhile cs
    · simp only [if_neg hspace]
      exact endsBefore_dropWhile cs

/-! ## All tokens before a seam -/

/-- The first token of a text, and the others. -/
theorem lexemes_eq_cons {text : Text} {lexeme : Lexeme} {others : List Lexeme}
    (h : lexemes text = lexeme :: others) :
    ∃ c cs, lexeme = ⟨(scan c cs).kind, (scan c cs).taken⟩ ∧ lexemes (scan c cs).rest = others := by
  cases text with
  | nil =>
    rw [lexemes] at h
    cases h
  | cons c cs =>
    rw [lexemes] at h
    obtain ⟨rfl, rfl⟩ := List.cons.inj h
    exact ⟨c, cs, rfl, rfl⟩

/-- The last tokens of a text are those of the text they make up. -/
theorem lexemes_rest {text : Text} {front back : List Lexeme} (h : lexemes text = front ++ back) :
    lexemes (back.flatMap Lexeme.text) = back := by
  induction front generalizing text with
  | nil => rw [← List.nil_append back, ← h, lexemes_texts]
  | cons lexeme front ih =>
    obtain ⟨c, cs, -, hrest⟩ := lexemes_eq_cons h
    exact ih hrest

/-- A token ends where the next ones start. -/
theorem lexemes_endsBefore {text : Text} {front back : List Lexeme} {lexeme : Lexeme}
    (h : lexemes text = front ++ lexeme :: back) :
    lexeme.kind.EndsBefore (back.flatMap Lexeme.text) := by
  have hlast := lexemes_rest h
  obtain ⟨c, cs, rfl, hback⟩ := lexemes_eq_cons hlast
  rw [← hback, lexemes_texts]
  exact scan_endsBefore c cs

/-- A token before text that does not continue it is the first one of the whole. -/
theorem lexemes_taken {c : Char} {cs more : Text} (h : (scan c cs).kind ≠ .broken)
    (hends : (scan c cs).kind.EndsBefore more) :
    lexemes ((scan c cs).taken ++ more) =
      ⟨(scan c cs).kind, (scan c cs).taken⟩ :: lexemes more := by
  have htaken : (scan c cs).taken ++ more = c :: ((scan c cs).taken.tail ++ more) := by
    have happend := scan_append c cs
    cases hfirst : (scan c cs).taken with
    | nil => exact absurd hfirst (taken_ne_nil c cs)
    | cons d ds =>
      rw [hfirst] at happend
      rw [(List.cons.inj happend).1, List.cons_append, List.tail_cons]
  rw [htaken, lexemes, scan_taken h hends]

/-- **The first tokens of a text are the same before any text that does not continue the last of
them.** -/
theorem lexemes_followed {text more : Text} {front back : List Lexeme}
    (h : lexemes text = front ++ back) (hbroken : ∀ lexeme ∈ front, lexeme.kind ≠ .broken)
    (hends : ∀ lexeme ∈ front.getLast?, lexeme.kind.EndsBefore more) :
    lexemes (front.flatMap Lexeme.text ++ more) = front ++ lexemes more := by
  induction front generalizing text with
  | nil => rfl
  | cons lexeme front ih =>
    obtain ⟨hkind, hothers⟩ := List.forall_mem_cons.mp hbroken
    -- the first token ends before the second one, or before `more` if there is none
    have hfirst : lexeme.kind.EndsBefore (front.flatMap Lexeme.text ++ more) := by
      cases front with
      | nil => exact hends lexeme rfl
      | cons second front =>
        have hsecond : second.text ≠ [] := by
          have hmem : second ∈ lexemes text := by
            rw [h]
            simp
          exact lexeme_text_ne_nil hmem
        have hnext := @lexemes_endsBefore text [] (second :: front ++ back) lexeme h
        rw [List.cons_append, List.flatMap_cons] at hnext
        rw [List.flatMap_cons, List.append_assoc]
        exact (hnext.of_append hsecond).append hsecond
    obtain ⟨c, cs, rfl, hrest⟩ := lexemes_eq_cons h
    have hmore : lexemes (front.flatMap Lexeme.text ++ more) = front ++ lexemes more := by
      refine ih hrest hothers ?_
      intro last hlast
      refine hends last ?_
      rw [List.getLast?_cons, Option.mem_def.mp hlast]
      rfl
    rw [List.flatMap_cons, List.append_assoc, lexemes_taken hkind hfirst, hmore, List.cons_append]

end Css

end StyleAudit
