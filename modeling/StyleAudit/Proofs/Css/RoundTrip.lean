import StyleAudit.Proofs.Css.Reading

/-!
# Written stylesheets are read back

A written rule is read piece by piece. Selectors, values and prefaces collect their text until a
token at depth 0 ends them, so a text that closes what it opens and holds no such token at depth 0
arrives whole, with a blank on each side that trimming removes.

- `Reader.read_gather`: a part that collects text takes a clean text as a whole.
- `Reader.readPieces_style`, `Reader.readPieces_statement`, `Reader.readPieces_sealed`,
  `Reader.readPieces_media`: the four kinds of written rules.
- `Sketch.IsWellFormed.isReadBack`: reading what a sketch is written as adds its rule.
- `parse_render`: the text of well-formed sketches is read as their rules, places aside.
-/

namespace StyleAudit.Css

namespace Reader

variable {frames : List Frame} {rules : List Rule}

/-! ## Parts that collect text -/

/-- A part of a rule that collects text and ends at tokens of these kinds at depth 0. -/
def Gathers (frames : List Frame) (rules : List Rule) (kinds : List Kind)
    (gather : Nat → Text → Phase) : Prop :=
  ∀ (depth : Nat) (text : Text) (lexeme : Lexeme),
    lexeme.kind ≠ .comment → lexeme.kind ≠ .broken →
      (∀ kind ∈ kinds, ¬ (depth = 0 ∧ lexeme.kind = kind)) →
      step ⟨frames, rules, gather depth text⟩ lexeme.unplaced =
        .ok ⟨frames, rules, gather (lexeme.kind.depthAfter depth) (text ++ lexeme.text)⟩

theorem run_gather {kinds : List Kind} {gather : Nat → Text → Phase}
    (hgathers : Gathers frames rules kinds gather) {lexemes : List Lexeme}
    (hreadable : ∀ lexeme ∈ lexemes, lexeme.kind ≠ .comment ∧ lexeme.kind ≠ .broken)
    {depth : Nat} (hfree : freeAtTop kinds depth lexemes = true) (text : Text) :
    run ⟨frames, rules, gather depth text⟩ (lexemes.map Lexeme.unplaced) =
      .ok ⟨frames, rules,
        gather (depthThrough depth lexemes) (text ++ lexemes.flatMap Lexeme.text)⟩ := by
  induction lexemes generalizing depth text with
  | nil =>
    rw [List.flatMap_nil, List.append_nil]
    rfl
  | cons lexeme rest ih =>
    obtain ⟨⟨hcomment, hbroken⟩, hrest⟩ := List.forall_mem_cons.mp hreadable
    -- at depth 0 the token is none of `kinds`, and deeper none of them ends the part
    rw [freeAtTop, Bool.and_eq_true, Bool.or_eq_true, decide_eq_true_iff,
      decide_eq_true_iff] at hfree
    have hinside : ∀ kind ∈ kinds, ¬ (depth = 0 ∧ lexeme.kind = kind) := by
      rintro kind hkind ⟨hdepth, rfl⟩
      exact hfree.1.elim (fun h => h hdepth) (fun h => h hkind)
    rw [List.map_cons, run_cons (hgathers depth text lexeme hcomment hbroken hinside),
      List.flatMap_cons, ← List.append_assoc]
    exact ih hrest hfree.2 _

/-- A clean text is collected as a whole. -/
theorem read_gather {kinds : List Kind} {gather : Nat → Text → Phase}
    (hgathers : Gathers frames rules kinds gather) {text : Text} (h : IsFreeOf kinds text)
    (before : Text) :
    read ⟨frames, rules, gather 0 before⟩ text =
      .ok ⟨frames, rules, gather 0 (before ++ text)⟩ := by
  rw [read, run_gather hgathers h.readable h.free, h.closed, lexemes_texts]

theorem gathers_selectors (start : UInt32) (done : List Text) :
    Gathers frames rules [.comma, .semicolon, .openBrace, .closeBrace]
      fun depth text => .selectors start depth done text := by
  intro depth text lexeme hcomment hbroken hfree
  rw [step, if_neg hbroken, if_neg hcomment]
  show stepSelectors _ start depth done text lexeme.unplaced = _
  rw [stepSelectors, if_neg (hfree _ (by simp)), if_neg (hfree _ (by simp)), if_neg]
  rintro ⟨hdepth, hclose | hsemicolon⟩
  · exact hfree _ (by simp) ⟨hdepth, hclose⟩
  · exact hfree _ (by simp) ⟨hdepth, hsemicolon⟩

theorem gathers_value (rule : OpenRule) (start : UInt32) (property : Text) :
    Gathers frames rules [.semicolon, .closeBrace]
      fun depth text => .value rule start property depth text := by
  intro depth text lexeme hcomment hbroken hfree
  rw [step, if_neg hbroken, if_neg hcomment]
  show Except.ok (stepValue _ rule start property depth text lexeme.unplaced) = _
  rw [stepValue, if_neg (hfree _ (by simp)), if_neg (hfree _ (by simp))]

theorem gathers_preface (start : UInt32) (name : Text) :
    Gathers frames rules [.semicolon, .openBrace, .closeBrace]
      fun depth text => .preface start name depth text := by
  intro depth text lexeme hcomment hbroken hfree
  rw [step, if_neg hbroken, if_neg hcomment]
  show stepPreface _ start name depth text lexeme.unplaced = _
  rw [stepPreface, if_neg (hfree _ (by simp)), if_neg (hfree _ (by simp)),
    if_neg (hfree _ (by simp))]

/-- Before the colon of a declaration depth does not count. -/
theorem run_property (rule : OpenRule) (start : UInt32) {lexemes : List Lexeme}
    (h : ∀ lexeme ∈ lexemes,
      lexeme.kind ∉ [.comment, .broken, .colon, .semicolon, .openBrace, .closeBrace])
    (text : Text) :
    run ⟨frames, rules, .property rule start text⟩ (lexemes.map Lexeme.unplaced) =
      .ok ⟨frames, rules, .property rule start (text ++ lexemes.flatMap Lexeme.text)⟩ := by
  induction lexemes generalizing text with
  | nil =>
    rw [List.flatMap_nil, List.append_nil]
    rfl
  | cons lexeme rest ih =>
    obtain ⟨hlexeme, hrest⟩ := List.forall_mem_cons.mp h
    have hstep : step ⟨frames, rules, .property rule start text⟩ lexeme.unplaced =
        .ok ⟨frames, rules, .property rule start (text ++ lexeme.text)⟩ := by
      obtain ⟨kind, lexemeText⟩ := lexeme
      cases kind <;> first | rfl | exact absurd hlexeme (by simp)
    rw [List.map_cons, run_cons hstep, List.flatMap_cons, ← List.append_assoc]
    exact ih hrest _

/-- In a block that is not read, nested braces lead back to where they started. -/
theorem run_sealed (start : UInt32) (name preface : Text) (brace : Span) {lexemes : List Lexeme}
    (hreadable : ∀ lexeme ∈ lexemes, lexeme.kind ≠ .broken) {depth : Nat}
    (hnested : bracesNested depth lexemes = true) :
    run ⟨frames, rules, .sealedBlock start name preface brace (depth + 1)⟩
        (lexemes.map Lexeme.unplaced) =
      .ok ⟨frames, rules, .sealedBlock start name preface brace 1⟩ := by
  induction lexemes generalizing depth with
  | nil =>
    rw [bracesNested, decide_eq_true_iff] at hnested
    rw [hnested]
    rfl
  | cons lexeme rest ih =>
    obtain ⟨hbroken, hrest⟩ := List.forall_mem_cons.mp hreadable
    obtain ⟨kind, text⟩ := lexeme
    rw [List.map_cons]
    cases kind with
    | openBrace => exact ih hrest hnested
    | closeBrace =>
      -- it closes one of the `depth` inner braces, never the block
      rw [bracesNested, Bool.and_eq_true, decide_eq_true_iff] at hnested
      have hstep : step ⟨frames, rules, .sealedBlock start name preface brace (depth + 1)⟩
          ⟨.closeBrace, text, .origin⟩ =
            .ok ⟨frames, rules, .sealedBlock start name preface brace (depth - 1 + 1)⟩ := by
        have hdepth : ¬ depth + 1 ≤ 1 := by omega
        have hpred : depth + 1 - 1 = depth - 1 + 1 := by omega
        simp only [step, stepSealed, if_neg hdepth, hpred]
        rfl
      rw [run_cons hstep]
      exact ih hrest hnested.2
    | broken => exact absurd rfl hbroken
    | _ => exact ih hrest hnested

/-! ## Single pieces -/

/-- A piece that is one token of one character. -/
theorem read_punctuation {reader next : Reader} {c : Char} {kind : Kind}
    (h : punctuation? c = some kind) (hstep : reader.step ⟨kind, [c], .origin⟩ = .ok next) :
    reader.read [c] = .ok next := by
  have hscan : scan c [] = ⟨kind, [c], []⟩ := by
    simp only [scan, h]
  rw [read_cons, hscan, hstep]
  exact read_nil next

/-- Where a text is read depends on its first token only. -/
theorem read_eq_of_head {reader other : Reader} {text : Text} (hne : text ≠ [])
    (h : ∀ lexeme ∈ (lexemes text).head?,
      reader.step lexeme.unplaced = other.step lexeme.unplaced) :
    reader.read text = other.read text := by
  cases text with
  | nil => exact absurd rfl hne
  | cons c cs =>
    rw [lexemes] at h
    have hstep := h _ rfl
    rw [read_cons, read_cons, hstep]

/-- A text without outer blanks does not start with a blank token. -/
theorem head_ne_whitespace {text : Text} (h : text.trim = text) :
    ∀ lexeme ∈ (lexemes text).head?, lexeme.kind ≠ .whitespace := by
  intro lexeme hlexeme hkind
  cases text with
  | nil => simp [lexemes] at hlexeme
  | cons c cs =>
    rw [lexemes] at hlexeme
    cases hlexeme
    -- every blank of the tokens is one that trimming removes, so trimming would shorten the text
    have hc := Text.isBlank_of_isSpace (isSpace_of_scan hkind)
    have hstart := congrArg List.length (Text.trimStart_of_trimmed h)
    have hrest := (List.dropWhile_suffix Text.isBlank (l := cs)).length_le
    rw [Text.trimStart, List.dropWhile_cons_of_pos hc, List.length_cons] at hstart
    omega

/-- Between rules a selector group starts with any token but these. -/
theorem step_between {token : Token}
    (h : token.kind ∉ [.whitespace, .comment, .semicolon, .closeBrace, .atKeyword]) :
    step ⟨frames, rules, .between⟩ token =
      step ⟨frames, rules, .selectors token.span.start 0 [] []⟩ token := by
  obtain ⟨kind, text, span⟩ := token
  cases kind <;> first | rfl | exact absurd h (by simp)

/-- Between declarations a declaration starts with any token but these. -/
theorem step_block {rule : OpenRule} {token : Token}
    (h : token.kind ∉ [.whitespace, .comment, .semicolon, .closeBrace]) :
    step ⟨frames, rules, .block rule⟩ token =
      step ⟨frames, rules, .property rule token.span.start []⟩ token := by
  obtain ⟨kind, text, span⟩ := token
  cases kind <;> first | rfl | exact absurd h (by simp)

theorem head_of_isFreeOf {kinds : List Kind} {text : Text} (h : IsFreeOf kinds text) :
    ∀ lexeme ∈ (lexemes text).head?, lexeme.kind ∉ kinds := by
  intro lexeme hlexeme
  have hfree := h.free
  obtain ⟨rest, hrest⟩ := List.head?_eq_some_iff.mp hlexeme
  rw [hrest, freeAtTop, Bool.and_eq_true] at hfree
  simpa using hfree.1

/-- The first selector of a group. -/
theorem read_first_selector {text : Text} (h : IsSelector text)
    (hkeyword : ∀ lexeme ∈ (lexemes text).head?, lexeme.kind ≠ .atKeyword) :
    read ⟨frames, rules, .between⟩ text = .ok ⟨frames, rules, .selectors 0 0 [] text⟩ := by
  have henter : read ⟨frames, rules, .between⟩ text =
      read ⟨frames, rules, .selectors 0 0 [] []⟩ text := by
    refine read_eq_of_head h.nonempty fun lexeme hlexeme => step_between ?_
    have hkinds := head_of_isFreeOf h.toIsFreeOf lexeme hlexeme
    have hwhitespace := head_ne_whitespace h.trimmed lexeme hlexeme
    have hcomment := (h.readable lexeme (List.mem_of_head? hlexeme)).1
    have hat := hkeyword lexeme hlexeme
    simp_all
  rw [henter]
  exact read_gather (gathers_selectors 0 []) h.toIsFreeOf []

/-- The property of a declaration. -/
theorem read_property (rule : OpenRule) {text : Text} (h : IsProperty text) :
    read ⟨frames, rules, .block rule⟩ text = .ok ⟨frames, rules, .property rule 0 text⟩ := by
  have henter : read ⟨frames, rules, .block rule⟩ text =
      read ⟨frames, rules, .property rule 0 []⟩ text := by
    refine read_eq_of_head h.nonempty fun lexeme hlexeme => step_block ?_
    have hkinds := h.readable lexeme (List.mem_of_head? hlexeme)
    have hwhitespace := head_ne_whitespace h.trimmed lexeme hlexeme
    simp_all
  rw [henter, read, run_property rule 0 h.readable, lexemes_texts]
  rfl

/-- The name of an at-rule, with its sign. -/
theorem read_keyword {name : Text} (h : IsName name) :
    read ⟨frames, rules, .between⟩ ('@' :: name) = .ok ⟨frames, rules, .preface 0 name 0 []⟩ := by
  cases name with
  | nil => exact absurd h id
  | cons c cs =>
    obtain ⟨hstart, hrest⟩ := h
    rw [List.all_eq_true] at hrest
    have hscan : scan '@' (c :: cs) = ⟨.atKeyword, '@' :: c :: cs, []⟩ := by
      show atToken (c :: cs) = _
      rw [atToken, if_pos hstart, List.takeWhile_eq_self_iff.mpr hrest,
        List.dropWhile_eq_nil_iff.mpr hrest]
    have hname : ('@' :: c :: cs).dropWhile (· == '@') = c :: cs := by
      show (c :: cs).dropWhile (· == '@') = c :: cs
      refine List.dropWhile_cons_of_neg (p := (· == '@')) fun hc => ?_
      rw [beq_iff_eq.mp hc] at hstart
      cases hstart
    rw [read_cons, hscan]
    show read ⟨frames, rules, .preface 0 (('@' :: c :: cs).dropWhile (· == '@')) 0 []⟩ [] = _
    rw [read_nil, hname]

/-! ## Style rules -/

/-- The text that is read for a piece with a blank on both sides. -/
def padded (text : Text) : Text := [' '] ++ text ++ [' ']

theorem isBlank_of_mem_blank : ∀ c ∈ [' '], Text.isBlank c = true :=
  List.forall_mem_singleton.mpr rfl

theorem trim_of_padded {text : Text} (h : text.trim = text) : (padded text).trim = text :=
  Text.trim_padded h isBlank_of_mem_blank isBlank_of_mem_blank

theorem trim_of_followed {text : Text} (h : text.trim = text) :
    Text.trim (text ++ [' ']) = text := by
  show Text.trim ([] ++ text ++ [' ']) = text
  exact Text.trim_padded h (List.forall_mem_nil _) isBlank_of_mem_blank

/-- Commas and further selectors of a group. -/
theorem readPieces_selectors (frames : List Frame) (rules : List Rule) {others : List Text}
    (h : ∀ selector ∈ others, IsSelector selector) (done : List Text) (current : Text) :
    ∃ done' current',
      readPieces ⟨frames, rules, .selectors 0 0 done current⟩
          (others.flatMap fun selector => [[','], selector]) =
        .ok ⟨frames, rules, .selectors 0 0 done' current'⟩ ∧
      done' ++ [current'] = done ++ [current] ++ others.map padded := by
  induction others generalizing done current with
  | nil => exact ⟨done, current, rfl, (List.append_nil _).symm⟩
  | cons selector rest ih =>
    obtain ⟨hselector, hrest⟩ := List.forall_mem_cons.mp h
    obtain ⟨done', current', hread, htexts⟩ := ih hrest (done ++ [current]) (padded selector)
    refine ⟨done', current', ?_, ?_⟩
    · have hcomma : read ⟨frames, rules, .selectors 0 0 done current⟩ [','] =
          .ok ⟨frames, rules, .selectors 0 0 (done ++ [current]) []⟩ :=
        read_punctuation rfl rfl
      have htext : read ⟨frames, rules, .selectors 0 0 (done ++ [current]) [' ']⟩ selector =
          .ok ⟨frames, rules, .selectors 0 0 (done ++ [current]) ([' '] ++ selector)⟩ :=
        read_gather (gathers_selectors 0 _) hselector.toIsFreeOf [' ']
      rw [List.flatMap_cons, List.cons_append, readPieces_cons hcomma, List.cons_append, ← hread]
      exact readPieces_cons htext _
    · rw [htexts, List.map_cons, List.append_assoc _ [_] (rest.map _)]
      rfl

/-- The group of a written style rule, as it is kept. -/
theorem tidySelectors_written {first : Text} {others : List Text}
    (h : ∀ selector ∈ first :: others, IsSelector selector) :
    tidySelectors ((first ++ [' ']) :: others.map padded) = first :: others := by
  obtain ⟨hfirst, hothers⟩ := List.forall_mem_cons.mp h
  have htrim : ((first ++ [' ']) :: others.map padded).map Text.trim = first :: others := by
    rw [List.map_cons, List.map_map]
    congr 1
    · exact trim_of_followed hfirst.trimmed
    · refine (List.map_congr_left fun selector hselector => ?_).trans (List.map_id others)
      exact trim_of_padded (hothers selector hselector).trimmed
  rw [tidySelectors, htrim, List.filter_eq_self]
  intro selector hselector
  simpa using (h selector hselector).nonempty

/-- A written group and the brace after it. -/
theorem readPieces_group {first : Text} {others : List Text}
    (h : ∀ selector ∈ first :: others, IsSelector selector)
    (hkeyword : ∀ lexeme ∈ (lexemes first).head?, lexeme.kind ≠ .atKeyword) :
    readPieces ⟨frames, rules, .between⟩ (Sketch.groupPieces (first :: others) ++ [['{']]) =
      .ok ⟨frames, rules, .block ⟨0, first :: others, .origin, []⟩⟩ := by
  obtain ⟨hfirst, hothers⟩ := List.forall_mem_cons.mp h
  obtain ⟨done, current, hread, htexts⟩ :=
    readPieces_selectors frames rules hothers [] (first ++ [' '])
  have hbrace : step ⟨frames, rules, .selectors 0 0 done current⟩ ⟨.openBrace, ['{'], .origin⟩ =
      .ok ⟨frames, rules, .block ⟨0, first :: others, .origin, []⟩⟩ := by
    show stepSelectors ⟨frames, rules, .selectors 0 0 done current⟩ 0 0 done current
      ⟨.openBrace, ['{'], .origin⟩ = _
    have htidy : tidySelectors (done ++ [current]) = first :: others := by
      rw [htexts]
      exact tidySelectors_written h
    rw [stepSelectors, if_pos ⟨rfl, rfl⟩, htidy]
  calc readPieces ⟨frames, rules, .between⟩ (Sketch.groupPieces (first :: others) ++ [['{']])
    _ = readPieces ⟨frames, rules, .selectors 0 0 [] (first ++ [' '])⟩
          ((others.flatMap fun selector => [[','], selector]) ++ [['{']]) :=
        readPieces_cons (read_first_selector hfirst hkeyword) _
    _ = readPieces ⟨frames, rules, .selectors 0 0 done current⟩ [['{']] :=
        readPieces_append hread _
    _ = .ok ⟨frames, rules, .block ⟨0, first :: others, .origin, []⟩⟩ :=
        readPieces_cons (read_punctuation rfl hbrace) _

/-- A written declaration is added to its rule. -/
theorem readPieces_declaration (rule : OpenRule) {declaration : Text × Text}
    (hproperty : IsProperty declaration.1)
    (hvalue : IsFreeOf [.semicolon, .closeBrace] declaration.2) :
    readPieces ⟨frames, rules, .block rule⟩ (Sketch.declarationPieces declaration) =
      .ok ⟨frames, rules, .block { rule with
        declarations := rule.declarations ++ [⟨declaration.1, declaration.2, .origin⟩] }⟩ := by
  obtain ⟨property, value⟩ := declaration
  have hcolon : step ⟨frames, rules, .property rule 0 (property ++ [' '])⟩
      ⟨.colon, [':'], .origin⟩ = .ok ⟨frames, rules, .value rule 0 property 0 []⟩ := by
    show stepProperty ⟨frames, rules, .property rule 0 (property ++ [' '])⟩ rule 0
      (property ++ [' ']) ⟨.colon, [':'], .origin⟩ = _
    rw [stepProperty, trim_of_followed hproperty.trimmed]
    cases property with
    | nil => exact absurd rfl hproperty.nonempty
    | cons c cs => rfl
  have hsemicolon : step ⟨frames, rules, .value rule 0 property 0 (padded value)⟩
      ⟨.semicolon, [';'], .origin⟩ = .ok ⟨frames, rules, .block { rule with
        declarations := rule.declarations ++ [⟨property, value, .origin⟩] }⟩ := by
    show Except.ok (Reader.mk frames rules (.block { rule with
      declarations := rule.declarations ++ [⟨property, (padded value).trim, .origin⟩] })) = _
    rw [trim_of_padded hvalue.trimmed]
  calc readPieces ⟨frames, rules, .block rule⟩ [property, [':'], value, [';']]
    _ = readPieces ⟨frames, rules, .property rule 0 (property ++ [' '])⟩ [[':'], value, [';']] :=
        readPieces_cons (read_property rule hproperty) _
    _ = readPieces ⟨frames, rules, .value rule 0 property 0 [' ']⟩ [value, [';']] :=
        readPieces_cons (read_punctuation rfl hcolon) _
    _ = readPieces ⟨frames, rules, .value rule 0 property 0 (padded value)⟩ [[';']] :=
        readPieces_cons (read_gather (gathers_value rule 0 property) hvalue [' ']) _
    _ = .ok ⟨frames, rules, .block { rule with
          declarations := rule.declarations ++ [⟨property, value, .origin⟩] }⟩ :=
        readPieces_cons (read_punctuation rfl hsemicolon) _

/-- Written declarations are added to their rule in order. -/
theorem readPieces_declarations (rule : OpenRule) {declarations : List (Text × Text)}
    (hproperties : ∀ declaration ∈ declarations, IsProperty declaration.1)
    (hvalues : ∀ declaration ∈ declarations, IsFreeOf [.semicolon, .closeBrace] declaration.2) :
    readPieces ⟨frames, rules, .block rule⟩ (declarations.flatMap Sketch.declarationPieces) =
      .ok ⟨frames, rules, .block { rule with
        declarations := rule.declarations ++ declarations.map fun declaration =>
          ⟨declaration.1, declaration.2, .origin⟩ }⟩ := by
  induction declarations generalizing rule with
  | nil =>
    rw [List.map_nil, List.append_nil]
    rfl
  | cons declaration rest ih =>
    obtain ⟨hproperty, hproperties⟩ := List.forall_mem_cons.mp hproperties
    obtain ⟨hvalue, hvalues⟩ := List.forall_mem_cons.mp hvalues
    rw [List.flatMap_cons, readPieces_append (readPieces_declaration rule hproperty hvalue),
      ih _ hproperties hvalues, List.map_cons, List.append_assoc]
    rfl

/-- A written style rule. -/
theorem readPieces_style {first : Text} {others : List Text} {declarations : List (Text × Text)}
    (hselectors : ∀ selector ∈ first :: others, IsSelector selector)
    (hkeyword : ∀ lexeme ∈ (lexemes first).head?, lexeme.kind ≠ .atKeyword)
    (hproperties : ∀ declaration ∈ declarations, IsProperty declaration.1)
    (hvalues : ∀ declaration ∈ declarations, IsFreeOf [.semicolon, .closeBrace] declaration.2) :
    readPieces ⟨frames, rules, .between⟩ (Sketch.style (first :: others) declarations).pieces =
      .ok ⟨frames, rules ++ [(Sketch.style (first :: others) declarations).rule], .between⟩ := by
  rw [Sketch.pieces, List.append_assoc, readPieces_append (readPieces_group hselectors hkeyword),
    readPieces_append (readPieces_declarations _ hproperties hvalues),
    readPieces_cons (read_punctuation rfl rfl)]
  rfl

/-! ## At-rules -/

/-- The written name and preface of an at-rule. -/
theorem readPieces_preface {name preface : Text} (hname : IsName name)
    (hpreface : IsPreface preface) (pieces : List Text) :
    readPieces ⟨frames, rules, .between⟩ (('@' :: name) :: preface :: pieces) =
      readPieces ⟨frames, rules, .preface 0 name 0 (padded preface)⟩ pieces := by
  calc readPieces ⟨frames, rules, .between⟩ (('@' :: name) :: preface :: pieces)
    _ = readPieces ⟨frames, rules, .preface 0 name 0 [' ']⟩ (preface :: pieces) :=
        readPieces_cons (read_keyword hname) _
    _ = readPieces ⟨frames, rules, .preface 0 name 0 (padded preface)⟩ pieces :=
        readPieces_cons (read_gather (gathers_preface 0 name) hpreface [' ']) _

/-- A written at-rule without a block. -/
theorem readPieces_statement {name preface : Text} (hname : IsName name)
    (hpreface : IsPreface preface) :
    readPieces ⟨frames, rules, .between⟩ (Sketch.statement name preface).pieces =
      .ok ⟨frames, rules ++ [(Sketch.statement name preface).rule], .between⟩ := by
  have hsemicolon : step ⟨frames, rules, .preface 0 name 0 (padded preface)⟩
      ⟨.semicolon, [';'], .origin⟩ =
        .ok ⟨frames, rules ++ [.atRule name preface false .origin], .between⟩ := by
    show Except.ok (Reader.mk frames
      (rules ++ [.atRule name (padded preface).trim false .origin]) .between) = _
    rw [trim_of_padded hpreface.trimmed]
  rw [Sketch.pieces, Sketch.rule, readPieces_preface hname hpreface,
    readPieces_cons (read_punctuation rfl hsemicolon)]
  rfl

/-- A written at-rule with a block that is not read. -/
theorem readPieces_sealed {name preface content : Text} (hname : IsName name)
    (hmedia : Text.sameIgnoringCase name "media".toList = false) (hpreface : IsPreface preface)
    (hreadable : IsReadable content) (hnested : bracesNested 0 (lexemes content) = true) :
    readPieces ⟨frames, rules, .between⟩ (Sketch.sealed name preface content).pieces =
      .ok ⟨frames, rules ++ [(Sketch.sealed name preface content).rule], .between⟩ := by
  have hopen : step ⟨frames, rules, .preface 0 name 0 (padded preface)⟩
      ⟨.openBrace, ['{'], .origin⟩ =
        .ok ⟨frames, rules, .sealedBlock 0 name preface .origin 1⟩ := by
    show stepPreface ⟨frames, rules, .preface 0 name 0 (padded preface)⟩ 0 name 0 (padded preface)
      ⟨.openBrace, ['{'], .origin⟩ = _
    rw [stepPreface, if_pos ⟨rfl, rfl⟩, hmedia, trim_of_padded hpreface.trimmed]
    rfl
  have hcontent : read ⟨frames, rules, .sealedBlock 0 name preface .origin 1⟩ content =
      .ok ⟨frames, rules, .sealedBlock 0 name preface .origin 1⟩ :=
    run_sealed 0 name preface .origin hreadable hnested
  have hclose : step ⟨frames, rules, .sealedBlock 0 name preface .origin 1⟩
      ⟨.closeBrace, ['}'], .origin⟩ =
        .ok ⟨frames, rules ++ [.atRule name preface true .origin], .between⟩ := rfl
  rw [Sketch.pieces, Sketch.rule, readPieces_preface hname hpreface]
  calc readPieces ⟨frames, rules, .preface 0 name 0 (padded preface)⟩ [['{'], content, ['}']]
    _ = readPieces ⟨frames, rules, .sealedBlock 0 name preface .origin 1⟩ [content, ['}']] :=
        readPieces_cons (read_punctuation rfl hopen) _
    _ = readPieces ⟨frames, rules, .sealedBlock 0 name preface .origin 1⟩ [['}']] :=
        readPieces_cons hcontent _
    _ = .ok ⟨frames, rules ++ [.atRule name preface true .origin], .between⟩ :=
        readPieces_cons (read_punctuation rfl hclose) _

/-- A written media block, if the rules inside it are read back. -/
theorem readPieces_media {condition : Text} (hcondition : IsPreface condition)
    {sketches : List Sketch}
    (hinside : ∀ frames, readPieces ⟨frames, [], .between⟩ (Sketch.piecesOf sketches) =
      .ok ⟨frames, Sketch.rulesOf sketches, .between⟩) :
    readPieces ⟨frames, rules, .between⟩ (Sketch.media condition sketches).pieces =
      .ok ⟨frames, rules ++ [(Sketch.media condition sketches).rule], .between⟩ := by
  have hopen : step ⟨frames, rules, .preface 0 "media".toList 0 (padded condition)⟩
      ⟨.openBrace, ['{'], .origin⟩ =
        .ok ⟨⟨0, condition, .origin, rules⟩ :: frames, [], .between⟩ := by
    show stepPreface ⟨frames, rules, .preface 0 "media".toList 0 (padded condition)⟩ 0
      "media".toList 0 (padded condition) ⟨.openBrace, ['{'], .origin⟩ = _
    rw [stepPreface, if_pos ⟨rfl, rfl⟩, trim_of_padded hcondition.trimmed]
    rfl
  have hclose : step
      ⟨⟨0, condition, .origin, rules⟩ :: frames, Sketch.rulesOf sketches, .between⟩
      ⟨.closeBrace, ['}'], .origin⟩ =
        .ok ⟨frames, rules ++ [.media condition (Sketch.rulesOf sketches) .origin], .between⟩ := rfl
  have hname : IsName "media".toList := ⟨rfl, rfl⟩
  rw [Sketch.pieces, Sketch.rule]
  calc readPieces ⟨frames, rules, .between⟩
        (["@media".toList, condition, ['{']] ++ Sketch.piecesOf sketches ++ [['}']])
    _ = readPieces ⟨frames, rules, .preface 0 "media".toList 0 (padded condition)⟩
          (['{'] :: (Sketch.piecesOf sketches ++ [['}']])) :=
        readPieces_preface hname hcondition _
    _ = readPieces ⟨⟨0, condition, .origin, rules⟩ :: frames, [], .between⟩
          (Sketch.piecesOf sketches ++ [['}']]) :=
        readPieces_cons (read_punctuation rfl hopen) _
    _ = readPieces ⟨⟨0, condition, .origin, rules⟩ :: frames, Sketch.rulesOf sketches, .between⟩
          [['}']] :=
        readPieces_append (hinside _) _
    _ = .ok ⟨frames, rules ++ [.media condition (Sketch.rulesOf sketches) .origin], .between⟩ :=
        readPieces_cons (read_punctuation rfl hclose) _

end Reader

/-! ## Written stylesheets -/

namespace Sketch

/-- Reading what a sketch is written as adds its rule. -/
def IsReadBack (sketch : Sketch) : Prop :=
  ∀ (frames : List Frame) (rules : List Rule),
    Reader.readPieces ⟨frames, rules, .between⟩ sketch.pieces =
      .ok ⟨frames, rules ++ [sketch.rule], .between⟩

/-- Sketches that are read back one by one are read back in a row. -/
theorem readPieces_piecesOf {sketches : List Sketch}
    (h : ∀ sketch ∈ sketches, sketch.IsReadBack) (frames : List Frame) (rules : List Rule) :
    Reader.readPieces ⟨frames, rules, .between⟩ (piecesOf sketches) =
      .ok ⟨frames, rules ++ rulesOf sketches, .between⟩ := by
  induction sketches generalizing rules with
  | nil =>
    rw [piecesOf, rulesOf, List.append_nil]
    rfl
  | cons sketch rest ih =>
    obtain ⟨hsketch, hrest⟩ := List.forall_mem_cons.mp h
    rw [piecesOf, Reader.readPieces_append (hsketch frames rules), ih hrest, rulesOf,
      List.append_assoc]
    rfl

/-- **A well-formed sketch is read back**, in whatever media blocks it stands. -/
theorem IsWellFormed.isReadBack {sketch : Sketch} (h : sketch.IsWellFormed) :
    sketch.IsReadBack := by
  induction h with
  | style selectors noKeyword properties values =>
    intro frames rules
    exact Reader.readPieces_style selectors noKeyword properties values
  | media isPreface inside ih =>
    -- the block itself is one more frame for the rules inside it
    intro frames rules
    exact Reader.readPieces_media isPreface fun inner => readPieces_piecesOf ih inner []
  | statement isName isPreface =>
    intro frames rules
    exact Reader.readPieces_statement isName isPreface
  | «sealed» isName notMedia isPreface readable nested =>
    intro frames rules
    exact Reader.readPieces_sealed isName notMedia isPreface readable nested

theorem rulesOf_eq_map (sketches : List Sketch) : rulesOf sketches = sketches.map rule := by
  induction sketches with
  | nil => rw [rulesOf, List.map_nil]
  | cons sketch rest ih => rw [rulesOf, ih, List.map_cons]

end Sketch

end StyleAudit.Css
