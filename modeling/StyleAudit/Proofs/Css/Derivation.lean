import StyleAudit.Proofs.Css.Grammar

/-!
# What is read is written in the tokens

A reader that has taken some tokens has cut them up: into the headers of the open media blocks, the
finished rules of each level, and the part of a rule that is being read. One more token keeps this,
and a refusal names a stretch of the tokens taken.

- `Phase.WrittenAs`, `FramesWritten`, `Reader.WrittenAs`: how the tokens taken are cut up.
- `Reader.step_tracked`: one token keeps it.
- `Reader.run_tracked`, `Reader.finish_tracked`: so do a list of tokens and the end of input.
- `parse_tracked`: the rules of a source are written in its tokens, and a refusal names a stretch.
-/

namespace StyleAudit.Css

/-! ## How the tokens taken are cut up -/

/-- The tokens of a style rule whose block is open. -/
inductive OpenRule.WrittenAs (rule : OpenRule) : List Token → Prop
  | intro {head inside : List Token} {opening : Token}
      (gathered : Gathered Kind.headerEnds 0 head)
      (opens : opening.kind = .openBrace)
      (brace : rule.brace = opening.span)
      (declarations : Listed Declaration.WrittenAs rule.declarations inside)
      (selectors : rule.selectors = groupSelectors head)
      (starts : StartsAt rule.start (head ++ [opening])) :
      rule.WrittenAs (head ++ opening :: inside)

/-- The tokens of a selector group, with the texts before and after its last comma. -/
structure GroupWritten (depth : Nat) (done : List Text) (current : Text) (tokens : List Token) :
    Prop where
  gathered : Gathered Kind.headerEnds depth tokens
  parts : ∃ earlier last, groupParts 0 tokens = earlier ++ [last] ∧ done = earlier.map content ∧
    current = content last

/-- The tokens of the part of a rule that is being read. -/
inductive Phase.WrittenAs : Phase → List Token → Prop
  /-- Between rules no token is left over. -/
  | between : Phase.WrittenAs .between []
  /-- A selector group. -/
  | selectors {start : UInt32} {depth : Nat} {done : List Text} {current : Text}
      {tokens : List Token} (group : GroupWritten depth done current tokens)
      (starts : StartsAt start tokens) :
      Phase.WrittenAs (.selectors start depth done current) tokens
  /-- A block, between declarations. -/
  | block {rule : OpenRule} {tokens : List Token} (opened : rule.WrittenAs tokens) :
      Phase.WrittenAs (.block rule) tokens
  /-- A block and the start of a declaration. -/
  | property {rule : OpenRule} {start : UInt32} {block before : List Token}
      (opened : rule.WrittenAs block) (noColon : ∀ token ∈ before, token.kind ≠ .colon)
      (starts : StartsAt start before) :
      Phase.WrittenAs (.property rule start (content before)) (block ++ before)
  /-- A block and a declaration up to some place after its colon. -/
  | value {rule : OpenRule} {start : UInt32} {depth : Nat} {block before after : List Token}
      {colon : Token} (opened : rule.WrittenAs block)
      (noColon : ∀ token ∈ before, token.kind ≠ .colon) (isColon : colon.kind = .colon)
      (gathered : Gathered [.semicolon, .closeBrace] depth after)
      (starts : StartsAt start (before ++ [colon])) :
      Phase.WrittenAs (.value rule start (content before).trim depth (content after))
        (block ++ (before ++ colon :: after))
  /-- An at-rule before its block or end. -/
  | preface {start : UInt32} {name text : Text} {depth : Nat} {tokens : List Token}
      (preface : PrefaceWritten name text depth tokens) (starts : StartsAt start tokens) :
      Phase.WrittenAs (.preface start name depth text) tokens
  /-- An at-rule and some of its block. -/
  | sealedBlock {start : UInt32} {name text : Text} {depth : Nat} {head inside : List Token}
      {opening : Token} (preface : PrefaceWritten name text 0 head)
      (opens : opening.kind = .openBrace) (starts : StartsAt start head) :
      Phase.WrittenAs (.sealedBlock start name text.trim opening.span depth)
        (head ++ opening :: inside)

/-- The tokens of the open media blocks: the rules before each block, and its header. -/
inductive FramesWritten : List Frame → List Token → Prop
  /-- No block is open. -/
  | nil : FramesWritten [] []
  /-- One more block inside the others. -/
  | cons {frame : Frame} {outer : List Frame} {tokens inner head : List Token} {opening : Token}
      {name text : Text} (outside : FramesWritten outer tokens)
      (before : Listed Rule.WrittenAs frame.before inner)
      (preface : PrefaceWritten name text 0 head)
      (isMedia : Text.sameIgnoringCase name "media".toList = true)
      (condition : frame.condition = text.trim)
      (opens : opening.kind = .openBrace) (brace : frame.brace = opening.span)
      (starts : StartsAt frame.start head) :
      FramesWritten (frame :: outer) (tokens ++ inner ++ (head ++ [opening]))

/-- The tokens a reader has taken: those of the open media blocks, of the finished rules in the
innermost one, and of the part that is being read. -/
inductive Reader.WrittenAs (reader : Reader) (tokens : List Token) : Prop
  | intro {outer inner rest : List Token} (split : tokens = outer ++ inner ++ rest)
      (frames : FramesWritten reader.frames outer)
      (rules : Listed Rule.WrittenAs reader.rules inner)
      (phase : reader.phase.WrittenAs rest)

/-- The tokens of a stylesheet are those of its rules, with separators between them. -/
def Stylesheet.WrittenAs (sheet : Stylesheet) (tokens : List Token) : Prop :=
  Listed Rule.WrittenAs sheet.rules tokens

/-- What comes of taking tokens: something that is written in them, or a refusal of a stretch. -/
def Tracked {α : Type} (written : α → List Token → Prop) (tokens : List Token) :
    Except ParseError α → Prop
  | .ok a => written a tokens
  | .error error => ∃ part, Stretch tokens error.span part

/-! ## Parts that grow by a token -/

theorem depthAfter_comment (depth : Nat) : Kind.comment.depthAfter depth = depth := rfl

theorem GroupWritten.nil : GroupWritten 0 [] [] [] where
  gathered := .nil _
  parts := ⟨[], [], rfl, rfl, rfl⟩

/-- A comma at depth 0 ends a selector. -/
theorem GroupWritten.comma {done : List Text} {current : Text} {tokens : List Token}
    {token : Token} (h : GroupWritten 0 done current tokens) (hkind : token.kind = .comma) :
    GroupWritten 0 (done ++ [current]) [] (tokens ++ [token]) where
  gathered := by
    have hother : token.kind ∉ Kind.headerEnds := by simp [hkind, Kind.headerEnds]
    have hgathered := h.gathered.concat fun _ => hother
    rwa [hkind] at hgathered
  parts := by
    obtain ⟨earlier, last, hparts, rfl, rfl⟩ := h.parts
    refine ⟨earlier ++ [last], [], ?_, ?_, rfl⟩
    · rw [groupParts_concat token hparts, if_pos ⟨h.gathered.depth_eq, hkind⟩]
    · rw [List.map_append]
      rfl

/-- Any other token belongs to the selector being read. -/
theorem GroupWritten.concat {depth : Nat} {done : List Text} {current : Text}
    {tokens : List Token} {token : Token} (h : GroupWritten depth done current tokens)
    (htoken : depth = 0 → token.kind ∉ Kind.headerEnds)
    (hcomma : ¬ (depth = 0 ∧ token.kind = .comma)) :
    GroupWritten (token.kind.depthAfter depth) done (current ++ content [token])
      (tokens ++ [token]) where
  gathered := h.gathered.concat htoken
  parts := by
    obtain ⟨earlier, last, hparts, rfl, rfl⟩ := h.parts
    refine ⟨earlier, last ++ [token], ?_, rfl, (content_append last [token]).symm⟩
    rw [groupParts_concat token hparts, h.gathered.depth_eq, if_neg hcomma]

/-- The texts of a group are tidied into its selectors. -/
theorem GroupWritten.selectors_eq {depth : Nat} {done : List Text} {current : Text}
    {tokens : List Token} (h : GroupWritten depth done current tokens) :
    Reader.tidySelectors (done ++ [current]) = groupSelectors tokens := by
  obtain ⟨earlier, last, hparts, rfl, rfl⟩ := h.parts
  have htexts : earlier.map content ++ [content last] = (groupParts 0 tokens).map content := by
    rw [hparts, List.map_append]
    rfl
  rw [htexts, Reader.tidySelectors, groupSelectors, List.map_map]
  rfl

theorem PrefaceWritten.concat {name text : Text} {depth : Nat} {tokens : List Token}
    {token : Token} (h : PrefaceWritten name text depth tokens)
    (htoken : depth = 0 → token.kind ∉ Kind.headerEnds) :
    PrefaceWritten name (text ++ content [token]) (token.kind.depthAfter depth)
      (tokens ++ [token]) where
  gathered := h.gathered.concat htoken
  texts := by
    obtain ⟨keyword, rest, rfl, hkeyword, hname, rfl⟩ := h.texts
    exact ⟨keyword, rest ++ [token], rfl, hkeyword, hname, (content_append rest [token]).symm⟩

/-- One more separator in an open block. -/
theorem OpenRule.WrittenAs.gap {rule : OpenRule} {block : List Token} {token : Token}
    (h : rule.WrittenAs block) (htoken : token.kind.separates = true) :
    rule.WrittenAs (block ++ [token]) := by
  obtain ⟨gathered, opens, brace, declarations, selectors, starts⟩ := h
  rw [List.append_assoc, List.cons_append]
  exact .intro gathered opens brace (declarations.gap htoken) selectors starts

/-- One more declaration in an open block. -/
theorem OpenRule.WrittenAs.addDeclaration {rule : OpenRule} {block part : List Token}
    {start stop : UInt32} {property text : Text} (h : rule.WrittenAs block)
    (hpart : Declaration.WrittenAs ⟨property, text.trim, ⟨start, stop⟩⟩ part) :
    (Reader.addDeclaration rule start stop property text).WrittenAs (block ++ part) := by
  obtain ⟨gathered, opens, brace, declarations, selectors, starts⟩ := h
  rw [List.append_assoc, List.cons_append]
  exact .intro gathered opens brace (declarations.item hpart) selectors starts

theorem OpenRule.WrittenAs.startsAt {rule : OpenRule} {block : List Token}
    (h : rule.WrittenAs block) : StartsAt rule.start block := by
  obtain @⟨head, inside, opening, _, _, _, _, _, starts⟩ := h
  have hblock := starts.append inside
  rwa [List.append_assoc] at hblock

/-- The brace of an open block is one of its tokens. -/
theorem OpenRule.WrittenAs.exists_brace {rule : OpenRule} {block : List Token}
    (h : rule.WrittenAs block) : ∃ token ∈ block, token.span = rule.brace := by
  obtain @⟨head, inside, opening, _, _, brace, _, _, _⟩ := h
  exact ⟨opening, by simp, brace.symm⟩

/-- A closing brace completes the rule. -/
theorem OpenRule.WrittenAs.close {rule : OpenRule} {front block : List Token} {token : Token}
    (h : rule.WrittenAs block) (htoken : token.kind = .closeBrace)
    (hfills : Fills 0 (front ++ block) token.span.start) :
    StyleRule.WrittenAs ⟨rule.selectors, rule.declarations, ⟨rule.start, token.span.stop⟩⟩
      (block ++ [token]) := by
  have hstarts := h.startsAt
  obtain ⟨gathered, opens, brace, declarations, selectors, starts⟩ := h
  have hblock := (hfills.split hstarts).2.concat
  rw [List.append_assoc, List.cons_append] at hblock ⊢
  exact .intro gathered opens declarations htoken selectors hblock

/-! ## One token -/

namespace Reader

section

variable {reader : Reader} {token : Token} {outer inner rest : List Token}
  (hframes : FramesWritten reader.frames outer)
  (hrules : Listed Rule.WrittenAs reader.rules inner)

include hframes hrules

/-- A part that has grown by a token. -/
theorem grown_tracked {phase : Phase} (hphase : phase.WrittenAs (rest ++ [token])) :
    Tracked WrittenAs (outer ++ inner ++ rest ++ [token]) (.ok { reader with phase := phase }) :=
  .intro (List.append_assoc _ _ _) hframes hrules hphase

/-- A rule that has been finished. -/
theorem push_writtenAs {rule : Rule} {part : List Token} (hrule : rule.WrittenAs part) :
    (reader.push rule).WrittenAs (outer ++ inner ++ part) :=
  .intro (by simp) hframes (hrules.item hrule) .between

/-- A closing brace between rules. -/
theorem closeMedia_tracked (htoken : token.kind = .closeBrace)
    (hfills : Fills 0 (outer ++ inner) token.span.start) :
    Tracked WrittenAs (outer ++ inner ++ [token]) (reader.closeMedia token) := by
  obtain ⟨frames, rules, phase⟩ := reader
  cases hframes with
  | nil => exact ⟨[token], .of_suffix hfills.concat ⟨token, rfl, rfl⟩⟩
  | @cons frame outer tokens before head opening name text outside hbefore preface isMedia
      condition opens brace starts =>
    -- the block reaches from the header to this brace, and joins the rules before it
    have hstretch := hfills.concat
    have hsplit : tokens ++ before ++ (head ++ [opening]) ++ inner ++ [token] =
        tokens ++ before ++ (head ++ opening :: (inner ++ [token])) := by simp
    rw [hsplit] at hstretch ⊢
    have hmedia : Rule.WrittenAs
        (.media frame.condition rules ⟨frame.start, token.span.stop⟩)
        (head ++ opening :: (inner ++ [token])) := by
      rw [condition]
      exact .media preface isMedia opens hrules htoken (hstretch.split (starts.append _)).2
    exact .intro (by simp) outside (hbefore.item hmedia) .between

/-- A token in a selector group. -/
theorem stepSelectors_tracked {start : UInt32} {depth : Nat} {done : List Text} {current : Text}
    (hgroup : GroupWritten depth done current rest) (hstarts : StartsAt start (rest ++ [token]))
    (hfills : Fills 0 (outer ++ inner ++ rest) token.span.start)
    (hcomment : token.kind ≠ .comment) :
    Tracked WrittenAs (outer ++ inner ++ rest ++ [token])
      (reader.stepSelectors start depth done current token) := by
  have hstretch : Stretch (outer ++ inner ++ rest ++ [token]) ⟨start, token.span.stop⟩
      (rest ++ [token]) := by
    have hfills' := hfills.concat
    rw [List.append_assoc] at hfills' ⊢
    exact .of_suffix hfills' hstarts
  rw [stepSelectors]
  by_cases hopen : depth = 0 ∧ token.kind = .openBrace
  · rw [if_pos hopen]
    obtain ⟨rfl, hkind⟩ := hopen
    have hselectors := hgroup.selectors_eq
    cases htidy : tidySelectors (done ++ [current]) with
    | nil => exact ⟨_, hstretch⟩
    | cons first others =>
      refine grown_tracked hframes hrules (.block ?_)
      exact .intro hgroup.gathered hkind rfl .nil (htidy ▸ hselectors) hstarts
  rw [if_neg hopen]
  by_cases hcomma : depth = 0 ∧ token.kind = .comma
  · rw [if_pos hcomma]
    obtain ⟨rfl, hkind⟩ := hcomma
    exact grown_tracked hframes hrules (.selectors (hgroup.comma hkind) hstarts)
  rw [if_neg hcomma]
  by_cases hend : depth = 0 ∧ (token.kind = .closeBrace ∨ token.kind = .semicolon)
  · rw [if_pos hend]
    exact ⟨_, hstretch⟩
  rw [if_neg hend]
  have hother : depth = 0 → token.kind ∉ Kind.headerEnds := by
    intro hdepth hkind
    rcases Kind.mem_headerEnds.mp hkind with hkind | hkind | hkind
    · exact hopen ⟨hdepth, hkind⟩
    · exact hend ⟨hdepth, .inl hkind⟩
    · exact hend ⟨hdepth, .inr hkind⟩
  have hgrown := hgroup.concat hother hcomma
  rw [content_singleton hcomment] at hgrown
  exact grown_tracked hframes hrules (.selectors hgrown hstarts)

/-- A token before the colon of a declaration. -/
theorem stepProperty_tracked {rule : OpenRule} {start : UInt32} {block before : List Token}
    (hopened : rule.WrittenAs block) (hcolon : ∀ token ∈ before, token.kind ≠ .colon)
    (hstarts : StartsAt start (before ++ [token]))
    (hfills : Fills 0 (outer ++ inner ++ (block ++ before)) token.span.start)
    (hcomment : token.kind ≠ .comment) :
    Tracked WrittenAs (outer ++ inner ++ (block ++ before) ++ [token])
      (reader.stepProperty rule start (content before) token) := by
  have hsplit : outer ++ inner ++ (block ++ before) ++ [token] =
      outer ++ inner ++ block ++ (before ++ [token]) := by simp
  have hwhole := hfills.concat
  rw [hsplit] at hwhole
  -- a refusal reaches up to this token or through it
  have hthrough : Stretch (outer ++ inner ++ (block ++ before) ++ [token])
      ⟨start, token.span.stop⟩ (before ++ [token]) := by
    rw [hsplit]
    exact .of_suffix hwhole hstarts
  have hupTo : Stretch (outer ++ inner ++ (block ++ before) ++ [token])
      ⟨start, token.span.start⟩ before := by
    obtain ⟨hfront, hpart⟩ := hwhole.split hstarts
    exact ⟨outer ++ inner ++ block, [token], by simp, hfront, (fills_concat.mp hpart).1⟩
  have hgrown : token.kind ≠ .colon →
      Phase.WrittenAs (.property rule start (content before ++ token.text))
        (block ++ before ++ [token]) := by
    intro hkind
    rw [← content_singleton hcomment, ← content_append, List.append_assoc]
    have hcolon' := List.forall_mem_append.mpr ⟨hcolon, List.forall_mem_singleton.mpr hkind⟩
    exact .property hopened hcolon' hstarts
  rw [stepProperty]
  cases hkind : token.kind with
  | colon =>
    cases htrim : (content before).trim with
    | nil => exact ⟨_, hthrough⟩
    | cons c cs =>
      refine grown_tracked hframes hrules ?_
      rw [← htrim, List.append_assoc]
      exact .value hopened hcolon hkind (.nil _) hstarts
  | semicolon => exact ⟨_, hupTo⟩
  | closeBrace => exact ⟨_, hupTo⟩
  | openBrace => exact ⟨_, hupTo⟩
  | _ => exact grown_tracked hframes hrules (hgrown (by simp [hkind]))

/-- A token after the colon of a declaration. -/
theorem stepValue_tracked {rule : OpenRule} {start : UInt32} {depth : Nat}
    {block before after : List Token} {colon : Token} (hopened : rule.WrittenAs block)
    (hcolon : ∀ token ∈ before, token.kind ≠ .colon) (isColon : colon.kind = .colon)
    (hgathered : Gathered [.semicolon, .closeBrace] depth after)
    (hstarts : StartsAt start (before ++ [colon]))
    (hfills : Fills 0 (outer ++ inner ++ (block ++ (before ++ colon :: after)))
      token.span.start)
    (hcomment : token.kind ≠ .comment) :
    Tracked WrittenAs (outer ++ inner ++ (block ++ (before ++ colon :: after)) ++ [token])
      (.ok (reader.stepValue rule start (content before).trim depth (content after) token)) := by
  have hstarts' : ∀ more, StartsAt start (before ++ colon :: (after ++ more)) := by
    intro more
    have hmore := hstarts.append (after ++ more)
    rwa [List.append_assoc] at hmore
  rw [stepValue]
  by_cases hsemi : depth = 0 ∧ token.kind = .semicolon
  · rw [if_pos hsemi]
    obtain ⟨rfl, hkind⟩ := hsemi
    have hwhole := hfills.concat
    have hsplit : outer ++ inner ++ (block ++ (before ++ colon :: after)) ++ [token] =
        outer ++ inner ++ block ++ (before ++ colon :: (after ++ [token])) := by simp
    rw [hsplit] at hwhole
    have hdeclaration : Declaration.WrittenAs
        ⟨(content before).trim, (content after).trim, ⟨start, token.span.stop⟩⟩
        (before ++ colon :: (after ++ (some token).toList)) :=
      .intro hcolon isColon hgathered (by simp [hkind]) rfl rfl (hwhole.split (hstarts' _)).2
    refine grown_tracked hframes hrules (.block ?_)
    have hblock := hopened.addDeclaration hdeclaration
    simpa using hblock
  rw [if_neg hsemi]
  by_cases hclose : depth = 0 ∧ token.kind = .closeBrace
  · rw [if_pos hclose]
    obtain ⟨rfl, hkind⟩ := hclose
    -- the brace is not part of the declaration, which stops where the brace starts
    have hwhole := hfills
    rw [← List.append_assoc] at hwhole
    have hdeclaration : Declaration.WrittenAs
        ⟨(content before).trim, (content after).trim, ⟨start, token.span.start⟩⟩
        (before ++ colon :: (after ++ (none : Option Token).toList)) := by
      refine .intro hcolon isColon hgathered (by simp) rfl rfl ?_
      have hpart := hstarts' []
      simp only [Option.toList_none, List.append_nil] at hpart ⊢
      exact (hwhole.split hpart).2
    have hblock := hopened.addDeclaration hdeclaration
    simp only [Option.toList_none, List.append_nil] at hblock
    have hrule := hblock.close hkind hfills
    rw [List.append_assoc]
    exact push_writtenAs hframes hrules (.style hrule)
  rw [if_neg hclose]
  have hother : depth = 0 → token.kind ∉ [Kind.semicolon, Kind.closeBrace] := by
    intro hdepth hkind
    rcases List.mem_cons.mp hkind with hkind | hkind
    · exact hsemi ⟨hdepth, hkind⟩
    · exact hclose ⟨hdepth, List.mem_singleton.mp hkind⟩
  refine grown_tracked hframes hrules ?_
  rw [← content_singleton hcomment, ← content_append, List.append_assoc, List.append_assoc,
    List.cons_append]
  exact .value hopened hcolon isColon (hgathered.concat hother) hstarts

/-- A token between declarations. -/
theorem stepBlock_tracked {rule : OpenRule} (hopened : rule.WrittenAs rest)
    (hfills : Fills 0 (outer ++ inner ++ rest) token.span.start)
    (hcomment : token.kind ≠ .comment) :
    Tracked WrittenAs (outer ++ inner ++ rest ++ [token])
      (stepBlock { reader with phase := .block rule } rule token) := by
  have hproperty : Tracked WrittenAs (outer ++ inner ++ (rest ++ []) ++ [token])
      (stepProperty { reader with phase := .block rule } rule token.span.start (content [])
        token) :=
    stepProperty_tracked hframes hrules hopened (List.forall_mem_nil _) ⟨token, rfl, rfl⟩
      (by rwa [List.append_nil]) hcomment
  rw [List.append_nil] at hproperty
  rw [stepBlock]
  cases hkind : token.kind with
  | whitespace => exact grown_tracked hframes hrules (.block (hopened.gap (by rw [hkind]; rfl)))
  | semicolon => exact grown_tracked hframes hrules (.block (hopened.gap (by rw [hkind]; rfl)))
  | closeBrace =>
    rw [List.append_assoc]
    exact push_writtenAs hframes hrules (.style (hopened.close hkind hfills))
  | _ => exact hproperty

/-- A token before the block or end of an at-rule. -/
theorem stepPreface_tracked {start : UInt32} {name text : Text} {depth : Nat}
    (hpreface : PrefaceWritten name text depth rest) (hstarts : StartsAt start rest)
    (hfills : Fills 0 (outer ++ inner ++ rest) token.span.start)
    (hcomment : token.kind ≠ .comment) :
    Tracked WrittenAs (outer ++ inner ++ rest ++ [token])
      (reader.stepPreface start name depth text token) := by
  rw [stepPreface]
  by_cases hopen : depth = 0 ∧ token.kind = .openBrace
  · rw [if_pos hopen]
    obtain ⟨rfl, hkind⟩ := hopen
    by_cases hmedia : Text.sameIgnoringCase name "media".toList = true
    · rw [if_pos hmedia]
      exact .intro (by simp)
        (.cons hframes hrules hpreface hmedia rfl hkind rfl hstarts) .nil .between
    · rw [if_neg hmedia]
      exact grown_tracked hframes hrules (.sealedBlock hpreface hkind hstarts)
  rw [if_neg hopen]
  by_cases hsemi : depth = 0 ∧ token.kind = .semicolon
  · rw [if_pos hsemi]
    obtain ⟨rfl, hkind⟩ := hsemi
    have hwhole := hfills.concat
    rw [List.append_assoc] at hwhole ⊢
    have hrule : Rule.WrittenAs (.atRule name text.trim false ⟨start, token.span.stop⟩)
        (rest ++ (some token).toList) :=
      .statement hpreface (by simp [hkind]) (hwhole.split (hstarts.append _)).2
    exact push_writtenAs hframes hrules hrule
  rw [if_neg hsemi]
  by_cases hclose : depth = 0 ∧ token.kind = .closeBrace
  · rw [if_pos hclose]
    obtain ⟨rfl, hkind⟩ := hclose
    -- the rule stops where the brace starts, and the brace closes the media block around it
    have hrule : Rule.WrittenAs (.atRule name text.trim false ⟨start, token.span.start⟩)
        (rest ++ (none : Option Token).toList) := by
      refine .statement hpreface (by simp) ?_
      rw [Option.toList_none, List.append_nil]
      exact (hfills.split hstarts).2
    rw [Option.toList_none, List.append_nil] at hrule
    rw [List.append_assoc outer] at hfills ⊢
    exact closeMedia_tracked hframes (hrules.item hrule) hkind hfills
  rw [if_neg hclose]
  have hother : depth = 0 → token.kind ∉ Kind.headerEnds := by
    intro hdepth hkind
    rcases Kind.mem_headerEnds.mp hkind with hkind | hkind | hkind
    · exact hopen ⟨hdepth, hkind⟩
    · exact hclose ⟨hdepth, hkind⟩
    · exact hsemi ⟨hdepth, hkind⟩
  have hgrown := hpreface.concat hother
  rw [content_singleton hcomment] at hgrown
  exact grown_tracked hframes hrules (.preface hgrown (hstarts.append _))

/-- A token in a block that is not read. -/
theorem stepSealed_tracked {start : UInt32} {name text : Text} {depth : Nat}
    {head inside : List Token} {opening : Token} (hpreface : PrefaceWritten name text 0 head)
    (hopens : opening.kind = .openBrace) (hstarts : StartsAt start head)
    (hfills : Fills 0 (outer ++ inner ++ (head ++ opening :: inside)) token.span.start) :
    Tracked WrittenAs (outer ++ inner ++ (head ++ opening :: inside) ++ [token])
      (.ok (stepSealed { reader with phase := .sealedBlock start name text.trim opening.span depth }
        start name text.trim opening.span depth token)) := by
  have hgrown : ∀ depth, Phase.WrittenAs (.sealedBlock start name text.trim opening.span depth)
      (head ++ opening :: inside ++ [token]) := by
    intro depth
    rw [List.append_assoc, List.cons_append]
    exact .sealedBlock hpreface hopens hstarts
  rw [stepSealed]
  cases hkind : token.kind with
  | openBrace => exact grown_tracked hframes hrules (hgrown _)
  | closeBrace =>
    by_cases hlast : depth ≤ 1
    · simp only [if_pos hlast]
      have hwhole := hfills.concat
      have hsplit : outer ++ inner ++ (head ++ opening :: inside) ++ [token] =
          outer ++ inner ++ (head ++ opening :: (inside ++ [token])) := by simp
      rw [hsplit] at hwhole ⊢
      refine push_writtenAs hframes hrules (.sealed hpreface hopens hkind ?_)
      exact (hwhole.split (hstarts.append _)).2
    · simp only [if_neg hlast]
      exact grown_tracked hframes hrules (hgrown _)
  | _ => exact grown_tracked hframes hrules (hgrown _)

/-- A separator between rules. -/
theorem gap_writtenAs (htoken : token.kind.separates = true) :
    WrittenAs { reader with phase := .between } (outer ++ inner ++ [token]) :=
  .intro (by simp) hframes (hrules.gap htoken) .between

/-- A token between rules. -/
theorem stepBetween_tracked (hfills : Fills 0 (outer ++ inner) token.span.start)
    (hcomment : token.kind ≠ .comment) :
    Tracked WrittenAs (outer ++ inner ++ [token])
      (stepBetween { reader with phase := .between } token) := by
  have hselectors : Tracked WrittenAs (outer ++ inner ++ [] ++ [token])
      (stepSelectors { reader with phase := .between } token.span.start 0 [] [] token) :=
    stepSelectors_tracked hframes hrules .nil ⟨token, rfl, rfl⟩ (by rwa [List.append_nil]) hcomment
  rw [List.append_nil] at hselectors
  rw [stepBetween]
  cases hkind : token.kind with
  | whitespace => exact gap_writtenAs hframes hrules (by rw [hkind]; rfl)
  | semicolon => exact gap_writtenAs hframes hrules (by rw [hkind]; rfl)
  | closeBrace => exact closeMedia_tracked hframes hrules hkind hfills
  | atKeyword =>
    have hgathered : Gathered Kind.headerEnds 0 ([] ++ [token]) := by
      have hother : token.kind ∉ Kind.headerEnds := by simp [hkind, Kind.headerEnds]
      have hfirst := (Gathered.nil Kind.headerEnds).concat fun _ => hother
      rwa [hkind] at hfirst
    refine .intro rfl hframes hrules (.preface ⟨hgathered, ?_⟩ ⟨token, rfl, rfl⟩)
    exact ⟨token, [], rfl, hkind, rfl, rfl⟩
  | _ => exact hselectors

end

/-- A comment belongs to the part that is being read, or it is a separator. -/
theorem comment_writtenAs {reader : Reader} {tokens : List Token} {token : Token}
    (h : reader.WrittenAs tokens) (hkind : token.kind = .comment) :
    reader.WrittenAs (tokens ++ [token]) := by
  have hseparates : token.kind.separates = true := by rw [hkind]; rfl
  have hends : token.kind ∉ Kind.headerEnds := by simp [hkind, Kind.headerEnds]
  obtain ⟨frames, rules, phase⟩ := reader
  obtain ⟨rfl, hframes, hrules, hphase⟩ := h
  cases hphase with
  | between =>
    rw [List.append_nil]
    exact gap_writtenAs hframes hrules hseparates
  | selectors group starts =>
    have hgrown := group.concat (fun _ => hends) (by simp [hkind])
    rw [hkind, depthAfter_comment, content_comment hkind, List.append_nil] at hgrown
    exact grown_tracked hframes hrules (.selectors hgrown (starts.append _))
  | block opened => exact grown_tracked hframes hrules (.block (opened.gap hseparates))
  | @property rule start block before opened noColon starts =>
    have hnone : content (before ++ [token]) = content before := by
      rw [content_append, content_comment hkind, List.append_nil]
    have hcolon : token.kind ≠ .colon := by simp [hkind]
    refine grown_tracked hframes hrules ?_
    rw [← hnone, List.append_assoc]
    have hnone' := List.forall_mem_append.mpr ⟨noColon, List.forall_mem_singleton.mpr hcolon⟩
    exact .property opened hnone' (starts.append _)
  | @value rule start depth block before after colon opened noColon isColon gathered starts =>
    have hnone : content (after ++ [token]) = content after := by
      rw [content_append, content_comment hkind, List.append_nil]
    have hother : token.kind ∉ [Kind.semicolon, Kind.closeBrace] := by simp [hkind]
    have hgrown := gathered.concat fun _ => hother
    rw [hkind, depthAfter_comment] at hgrown
    refine grown_tracked hframes hrules ?_
    rw [← hnone, List.append_assoc, List.append_assoc, List.cons_append]
    exact .value opened noColon isColon hgrown starts
  | preface preface starts =>
    have hgrown := preface.concat fun _ => hends
    rw [hkind, depthAfter_comment, content_comment hkind, List.append_nil] at hgrown
    exact grown_tracked hframes hrules (.preface hgrown (starts.append _))
  | sealedBlock preface opens starts =>
    refine grown_tracked hframes hrules ?_
    rw [List.append_assoc, List.cons_append]
    exact .sealedBlock preface opens starts

/-- **One token keeps the tokens taken cut up.** -/
theorem step_tracked {reader : Reader} {tokens : List Token} {token : Token}
    (h : reader.WrittenAs tokens) (hfills : Fills 0 tokens token.span.start) :
    Tracked WrittenAs (tokens ++ [token]) (reader.step token) := by
  rw [step]
  by_cases hbroken : token.kind = .broken
  · rw [if_pos hbroken]
    exact ⟨[token], .of_suffix hfills.concat ⟨token, rfl, rfl⟩⟩
  rw [if_neg hbroken]
  by_cases hcomment : token.kind = .comment
  · rw [if_pos hcomment]
    exact comment_writtenAs h hcomment
  rw [if_neg hcomment]
  obtain ⟨frames, rules, phase⟩ := reader
  obtain ⟨rfl, hframes, hrules, hphase⟩ := h
  cases hphase with
  | between =>
    rw [List.append_nil] at hfills ⊢
    exact stepBetween_tracked hframes hrules hfills hcomment
  | selectors group starts =>
    exact stepSelectors_tracked hframes hrules group (starts.append _) hfills hcomment
  | block opened => exact stepBlock_tracked hframes hrules opened hfills hcomment
  | property opened noColon starts =>
    exact stepProperty_tracked hframes hrules opened noColon (starts.append _) hfills hcomment
  | value opened noColon isColon gathered starts =>
    exact stepValue_tracked hframes hrules opened noColon isColon gathered starts hfills hcomment
  | preface preface starts =>
    exact stepPreface_tracked hframes hrules preface starts hfills hcomment
  | sealedBlock preface opens starts =>
    exact stepSealed_tracked hframes hrules preface opens starts hfills

/-! ## All tokens, and the end of input -/

/-- **What a reader takes is cut up.** -/
theorem run_tracked {reader : Reader} {taken : List Token} {stop : UInt32} (tokens : List Token)
    (h : reader.WrittenAs taken) (hfills : Fills 0 (taken ++ tokens) stop) :
    Tracked WrittenAs (taken ++ tokens) (reader.run tokens) := by
  induction tokens generalizing reader taken with
  | nil =>
    rw [List.append_nil]
    exact h
  | cons token rest ih =>
    have hsplit : taken ++ token :: rest = taken ++ [token] ++ rest := by simp
    obtain ⟨middle, htaken, rfl, -⟩ := fills_append.mp hfills
    have hstep := step_tracked h htaken
    rw [run]
    cases hnext : reader.step token with
    | ok next =>
      rw [hnext] at hstep
      rw [hsplit] at hfills ⊢
      exact ih hstep hfills
    | error error =>
      rw [hnext] at hstep
      obtain ⟨part, hpart⟩ := hstep
      rw [hsplit]
      exact ⟨part, hpart.append rest⟩

/-- A refusal that names one of the tokens. -/
theorem refused_tracked {tokens : List Token} {stop : UInt32} {cause : Cause} {span : Span}
    (hfills : Fills 0 tokens stop) (h : ∃ token ∈ tokens, token.span = span) :
    Tracked Stylesheet.WrittenAs tokens (.error ⟨cause, span⟩) := by
  obtain ⟨token, htoken, rfl⟩ := h
  exact ⟨[token], .of_mem hfills htoken⟩

theorem finishBetween_tracked {reader : Reader} {outer inner : List Token} {stop : UInt32}
    (hframes : FramesWritten reader.frames outer)
    (hrules : Listed Rule.WrittenAs reader.rules inner) (hfills : Fills 0 (outer ++ inner) stop) :
    Tracked Stylesheet.WrittenAs (outer ++ inner) reader.finishBetween := by
  obtain ⟨frames, rules, phase⟩ := reader
  cases hframes with
  | nil => exact hrules
  | @cons frame _ _ _ _ opening _ _ _ _ _ _ _ _ brace _ =>
    exact refused_tracked hfills ⟨opening, by simp, brace.symm⟩

/-- **The end of input either completes the rules or refuses a stretch.** -/
theorem finish_tracked {reader : Reader} {tokens : List Token} {stop : UInt32}
    (h : reader.WrittenAs tokens) (hfills : Fills 0 tokens stop) :
    Tracked Stylesheet.WrittenAs tokens (reader.finish stop) := by
  obtain ⟨frames, rules, phase⟩ := reader
  obtain @⟨outer, inner, rest, rfl, hframes, hrules, hphase⟩ := h
  cases hphase with
  | between =>
    rw [List.append_nil] at hfills ⊢
    exact finishBetween_tracked hframes hrules hfills
  | selectors group starts => exact ⟨rest, .of_suffix hfills starts⟩
  | block opened =>
    obtain ⟨token, htoken, hbrace⟩ := opened.exists_brace
    exact refused_tracked hfills ⟨token, List.mem_append_right _ htoken, hbrace⟩
  | @property rule start block before opened noColon starts =>
    rw [← List.append_assoc] at hfills ⊢
    exact ⟨before, .of_suffix hfills starts⟩
  | value opened noColon isColon gathered starts =>
    obtain ⟨token, htoken, hbrace⟩ := opened.exists_brace
    refine refused_tracked hfills ⟨token, ?_, hbrace⟩
    exact List.mem_append_right _ (List.mem_append_left _ htoken)
  | @preface start name text depth _ preface starts =>
    rw [finish]
    by_cases hdepth : depth = 0
    · subst hdepth
      -- the rule ends with the input, as if a semicolon followed
      have hrule : Rule.WrittenAs (.atRule name text.trim false ⟨start, stop⟩)
          (rest ++ (none : Option Token).toList) := by
        refine .statement preface (by simp) ?_
        rw [Option.toList_none, List.append_nil]
        exact (hfills.split starts).2
      rw [Option.toList_none, List.append_nil] at hrule
      rw [List.append_assoc] at hfills ⊢
      simp only [if_pos]
      exact finishBetween_tracked hframes (hrules.item hrule) hfills
    · simp only [if_neg hdepth]
      exact ⟨rest, .of_suffix hfills starts⟩
  | @sealedBlock _ _ _ _ head inside opening preface opens starts =>
    exact refused_tracked hfills ⟨opening, by simp, rfl⟩

end Reader

/-- The reader has taken nothing yet. -/
theorem start_writtenAs : Reader.start.WrittenAs [] := .intro rfl .nil .nil .between

/-- **The rules of a source are written in its tokens**, and a refusal names a stretch of them. -/
theorem parse_tracked (source : Text) :
    Tracked Stylesheet.WrittenAs (body source) (parse source) := by
  have hfills := body_fills source
  have hrun : Tracked Reader.WrittenAs (body source) (Reader.start.run (body source)) :=
    Reader.run_tracked (body source) start_writtenAs hfills
  rw [parse]
  cases hreader : Reader.start.run (body source) with
  | ok reader =>
    rw [hreader] at hrun
    exact Reader.finish_tracked hrun hfills
  | error error =>
    rw [hreader] at hrun
    exact hrun

end StyleAudit.Css
