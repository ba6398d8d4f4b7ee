import StyleAudit.Css.Parser
import StyleAudit.Proofs.Balance
import Mathlib

/-!
# Braces of a stylesheet are nested

The reader counts the brackets of selectors, values and at-rules with one counter for all three
kinds. So it knows how many brackets are open, and not which. Where brackets of different kinds
never close one another, the count is enough: a stylesheet that is read has properly nested braces.

- `openAfter`, `kindsAgree`: the brackets that are open after some tokens, as long as each one is
  closed by a bracket of its own kind.
- `Phase.Opens`, `Reader.Opens`: the brackets that are open in what a reader has taken.
- `Reader.step_opens`: one token keeps this, and a closing brace always closes something.
- `Reader.run_leads`, `Reader.finish_opens`: so the braces are counted right up to the end of input.
- `parse_nested`: all of it for a source.
-/

namespace StyleAudit.Css

/-! ## Open brackets -/

/-- What a closing bracket closes. -/
def Kind.opening? : Kind → Option Kind
  | closeBrace => some openBrace
  | closeParen => some openParen
  | closeBracket => some openBracket
  | _ => none

/-- The open brackets after one more token, innermost first; none if the token closes a bracket of
another kind. Where nothing is open, a closing bracket changes nothing. -/
def openAfter (kind : Kind) (stack : List Kind) : Option (List Kind) :=
  if kind.opensGroup then some (kind :: stack)
  else
    match kind.opening?, stack with
    | some opening, top :: rest => if top = opening then some rest else none
    | _, _ => some stack

/-- Brackets of different kinds never close one another, if those of `stack` are open before. -/
def kindsAgree : List Kind → List Token → Bool
  | _, [] => true
  | stack, token :: rest =>
    match openAfter token.kind stack with
    | some next => kindsAgree next rest
    | none => false

/-- A token that opens a brace. -/
def Token.opensBrace (token : Token) : Bool := token.kind == .openBrace

/-- A token that closes a brace. -/
def Token.closesBrace (token : Token) : Bool := token.kind == .closeBrace

section

variable {kind : Kind} {stack next : List Kind}

theorem openAfter_open (h : kind.opensGroup = true) :
    openAfter kind stack = some (kind :: stack) := by
  unfold openAfter
  rw [if_pos h]

/-- A token that is no bracket changes nothing. -/
theorem openAfter_other (hopens : kind.opensGroup = false) (hcloses : kind.closesGroup = false) :
    openAfter kind stack = some stack := by
  cases kind <;> simp_all [openAfter, Kind.opensGroup, Kind.closesGroup, Kind.opening?]

theorem openAfter_nil (hopens : kind.opensGroup = false) : openAfter kind [] = some [] := by
  cases kind <;> simp_all [openAfter, Kind.opensGroup, Kind.opening?]

/-- What is closed is the innermost bracket, and it is of the kind that the token closes. -/
theorem openAfter_close {top : Kind} (hcloses : kind.closesGroup = true)
    (h : openAfter kind (top :: stack) = some next) : kind.opening? = some top ∧ next = stack := by
  cases kind <;> simp_all [openAfter, Kind.opensGroup, Kind.closesGroup, Kind.opening?]

theorem Kind.not_opens_of_closes (h : kind.closesGroup = true) : kind.opensGroup = false := by
  cases kind <;> simp_all [Kind.opensGroup, Kind.closesGroup]

/-- Only a closing brace closes a brace. -/
theorem Kind.eq_closeBrace (h : kind.opening? = some .openBrace) : kind = .closeBrace := by
  cases kind <;> simp_all [Kind.opening?]

end

/-- The braces of a number of open blocks. -/
def braces (blocks : Nat) : List Kind := List.replicate blocks .openBrace

theorem braces_succ (blocks : Nat) : braces (blocks + 1) = .openBrace :: braces blocks := rfl

/-! ## Tokens inside brackets -/

section

variable {kind : Kind} {next group loose inner : List Kind} {blocks : Nat}

/-- Tokens of a text that keeps count of its brackets: those it counts are innermost, and under
them may be others that were opened before the count began. A closing bracket takes one of the
counted ones, or one of the others if none is left; it never takes the brace of a block. -/
theorem openAfter_group (hloose : .openBrace ∉ loose) (hclose : group = [] → kind ≠ .closeBrace)
    (h : openAfter kind (group ++ (loose ++ braces blocks)) = some next) :
    ∃ group' loose', next = group' ++ (loose' ++ braces blocks) ∧
      group'.length = kind.depthAfter group.length ∧ .openBrace ∉ loose' ∧
      (loose = [] → loose' = []) := by
  unfold Kind.depthAfter
  by_cases hopens : kind.opensGroup = true
  · rw [openAfter_open hopens] at h
    cases h
    rw [if_pos hopens]
    exact ⟨kind :: group, loose, rfl, rfl, hloose, id⟩
  rw [if_neg hopens]
  by_cases hcloses : kind.closesGroup = true
  · rw [if_pos hcloses]
    cases group with
    | cons top rest =>
      obtain ⟨-, rfl⟩ := openAfter_close hcloses h
      exact ⟨rest, loose, rfl, rfl, hloose, id⟩
    | nil =>
      cases loose with
      | cons top rest =>
        obtain ⟨-, rfl⟩ := openAfter_close hcloses h
        exact ⟨[], rest, rfl, rfl, fun hmem => hloose (List.mem_cons_of_mem top hmem), by simp⟩
      | nil =>
        cases blocks with
        | zero =>
          have hnil := openAfter_nil (Kind.not_opens_of_closes hcloses)
          rw [show ([] : List Kind) ++ ([] ++ braces 0) = [] from rfl, hnil] at h
          cases h
          exact ⟨[], [], rfl, rfl, List.not_mem_nil, id⟩
        | succ blocks =>
          obtain ⟨hopening, -⟩ := openAfter_close hcloses h
          exact absurd (Kind.eq_closeBrace hopening) (hclose rfl)
  · rw [if_neg hcloses]
    rw [openAfter_other (by simpa using hopens) (by simpa using hcloses)] at h
    cases h
    exact ⟨group, loose, rfl, rfl, hloose, id⟩

/-- Tokens of a text that counts all its brackets. -/
theorem openAfter_counted (hclose : group = [] → kind ≠ .closeBrace)
    (h : openAfter kind (group ++ braces blocks) = some next) :
    (∃ group', next = group' ++ braces blocks ∧
      group'.length = kind.depthAfter group.length) ∧
      (kind = .closeBrace → group ++ braces blocks ≠ []) := by
  constructor
  · have hgroup : openAfter kind (group ++ ([] ++ braces blocks)) = some next := h
    obtain ⟨group', loose', rfl, hlength, -, hloose⟩ :=
      openAfter_group List.not_mem_nil hclose hgroup
    exact ⟨group', by rw [hloose rfl, List.nil_append], hlength⟩
  · intro hkind hnil
    exact hclose (List.append_eq_nil_iff.mp hnil).1 hkind

/-- Tokens of a text that keeps no count: it has no braces, so those below it stay. -/
theorem openAfter_loose (hloose : .openBrace ∉ loose) (hopen : kind ≠ .openBrace)
    (hclose : kind ≠ .closeBrace) (h : openAfter kind (loose ++ braces blocks) = some next) :
    ∃ loose', next = loose' ++ braces blocks ∧ .openBrace ∉ loose' := by
  by_cases hopens : kind.opensGroup = true
  · rw [openAfter_open hopens] at h
    cases h
    refine ⟨kind :: loose, rfl, ?_⟩
    rintro hmem
    rcases List.mem_cons.mp hmem with hkind | hmem
    · exact hopen hkind.symm
    · exact hloose hmem
  · have hgroup : openAfter kind ([] ++ (loose ++ braces blocks)) = some next := h
    obtain ⟨group', loose', rfl, hlength, hloose', -⟩ :=
      openAfter_group hloose (fun _ => hclose) hgroup
    have hnone : group' = [] := by
      rw [Kind.depthAfter, if_neg hopens] at hlength
      exact List.eq_nil_of_length_eq_zero (by split at hlength <;> simpa using hlength)
    exact ⟨loose', by rw [hnone, List.nil_append], hloose'⟩

/-- Tokens of a block where only braces count. -/
theorem openAfter_sealed (hopen : kind ≠ .openBrace) (hclose : kind ≠ .closeBrace)
    (h : openAfter kind (inner ++ braces (blocks + 1)) = some next) :
    ∃ inner', next = inner' ++ braces (blocks + 1) ∧
      inner'.count .openBrace = inner.count .openBrace := by
  by_cases hopens : kind.opensGroup = true
  · rw [openAfter_open hopens] at h
    cases h
    exact ⟨kind :: inner, rfl, List.count_cons_of_ne hopen⟩
  by_cases hcloses : kind.closesGroup = true
  · cases inner with
    | nil =>
      obtain ⟨hopening, -⟩ := openAfter_close hcloses h
      exact absurd (Kind.eq_closeBrace hopening) hclose
    | cons top rest =>
      obtain ⟨hopening, rfl⟩ := openAfter_close hcloses h
      refine ⟨rest, rfl, (List.count_cons_of_ne ?_).symm⟩
      rintro rfl
      exact hclose (Kind.eq_closeBrace hopening)
  · rw [openAfter_other (by simpa using hopens) (by simpa using hcloses)] at h
    cases h
    exact ⟨inner, rfl, rfl⟩

end

/-! ## What a reader has open -/

/-- The brackets that are open in a part of a rule, within the braces of the media blocks around
it. -/
inductive Phase.Opens (blocks : Nat) : Phase → List Kind → Prop
  /-- Between rules. -/
  | between : Phase.Opens blocks .between (braces blocks)
  /-- In a selector group, all brackets of which are counted. -/
  | selectors {start : UInt32} {depth : Nat} {done : List Text} {current : Text}
      {group : List Kind} (counted : group.length = depth) :
      Phase.Opens blocks (.selectors start depth done current) (group ++ braces blocks)
  /-- Between declarations, inside the brace of the rule; earlier properties may have left brackets
  open. -/
  | block {rule : OpenRule} {loose : List Kind} (free : .openBrace ∉ loose) :
      Phase.Opens blocks (.block rule) (loose ++ braces (blocks + 1))
  /-- Before a colon; the brackets of a property are not counted, but it has no braces. -/
  | property {rule : OpenRule} {start : UInt32} {text : Text} {loose : List Kind}
      (free : .openBrace ∉ loose) :
      Phase.Opens blocks (.property rule start text) (loose ++ braces (blocks + 1))
  /-- After a colon; the brackets of the value are counted. -/
  | value {rule : OpenRule} {start : UInt32} {property : Text} {depth : Nat} {text : Text}
      {group loose : List Kind} (counted : group.length = depth) (free : .openBrace ∉ loose) :
      Phase.Opens blocks (.value rule start property depth text)
        (group ++ (loose ++ braces (blocks + 1)))
  /-- In an at-rule, all brackets of which are counted. -/
  | preface {start : UInt32} {name : Text} {depth : Nat} {text : Text} {group : List Kind}
      (counted : group.length = depth) :
      Phase.Opens blocks (.preface start name depth text) (group ++ braces blocks)
  /-- In a block that is not read, of which the braces are counted. -/
  | sealedBlock {start : UInt32} {name text : Text} {brace : Span} {depth : Nat}
      {inner : List Kind} (counted : inner.count .openBrace + 1 = depth) :
      Phase.Opens blocks (.sealedBlock start name text brace depth) (inner ++ braces (blocks + 1))

namespace Reader

/-- The brackets that are open in what a reader has taken. -/
def Opens (reader : Reader) (stack : List Kind) : Prop :=
  reader.phase.Opens reader.frames.length stack

/-- What taking a token does to the open brackets: the reader has those that are open afterwards,
and a closing brace has closed something. -/
def StepOpens (token : Token) (stack next : List Kind) : Except ParseError Reader → Prop
  | .ok reader => reader.Opens next ∧ (token.kind = .closeBrace → stack ≠ [])
  | .error _ => True

/-! ## One token -/

section

variable {reader : Reader} {token : Token} {next : List Kind}

/-- A token that is no bracket changes nothing. -/
theorem openAfter_kind {stack : List Kind} {kind : Kind} (hkind : token.kind = kind)
    (h : openAfter token.kind stack = some next) (hopens : kind.opensGroup = false := by rfl)
    (hcloses : kind.closesGroup = false := by rfl) : next = stack := by
  rw [hkind, openAfter_other hopens hcloses] at h
  exact (Option.some.inj h).symm

/-- A closing brace closes the brace of the innermost block. -/
theorem openAfter_block {loose : List Kind} {blocks : Nat} (hfree : .openBrace ∉ loose)
    (hkind : token.kind = .closeBrace)
    (h : openAfter token.kind (loose ++ braces (blocks + 1)) = some next) :
    next = braces blocks := by
  rw [hkind] at h
  cases loose with
  | nil => exact (openAfter_close rfl h).2
  | cons top rest =>
    obtain ⟨hopening, -⟩ := openAfter_close rfl h
    cases hopening
    exact absurd List.mem_cons_self hfree

theorem closeMedia_opens (hkind : token.kind = .closeBrace)
    (h : openAfter token.kind (braces reader.frames.length) = some next) :
    StepOpens token (braces reader.frames.length) next (reader.closeMedia token) := by
  obtain ⟨frames, rules, phase⟩ := reader
  cases frames with
  | nil => trivial
  | cons frame outer =>
    have hblock : openAfter token.kind ([] ++ braces (outer.length + 1)) = some next := h
    rw [openAfter_block List.not_mem_nil hkind hblock]
    exact ⟨.between, fun _ => List.cons_ne_nil _ _⟩

theorem stepSelectors_opens {start : UInt32} {depth : Nat} {done : List Text} {current : Text}
    {group : List Kind} (hcounted : group.length = depth)
    (h : openAfter token.kind (group ++ braces reader.frames.length) = some next) :
    StepOpens token (group ++ braces reader.frames.length) next
      (reader.stepSelectors start depth done current token) := by
  rw [stepSelectors]
  by_cases hopen : depth = 0 ∧ token.kind = .openBrace
  · rw [if_pos hopen]
    obtain ⟨rfl, hkind⟩ := hopen
    rw [List.eq_nil_of_length_eq_zero hcounted, hkind, openAfter_open rfl] at h
    cases h
    cases tidySelectors (done ++ [current]) with
    | nil => trivial
    | cons first others =>
      refine ⟨?_, fun hclose => by simp [hkind] at hclose⟩
      show Phase.Opens _ _ ([] ++ braces (reader.frames.length + 1))
      exact .block List.not_mem_nil
  rw [if_neg hopen]
  by_cases hcomma : depth = 0 ∧ token.kind = .comma
  · rw [if_pos hcomma]
    rw [openAfter_kind hcomma.2 h]
    exact ⟨.selectors hcounted, fun hclose => by simp [hcomma.2] at hclose⟩
  rw [if_neg hcomma]
  by_cases hend : depth = 0 ∧ (token.kind = .closeBrace ∨ token.kind = .semicolon)
  · rw [if_pos hend]
    trivial
  rw [if_neg hend]
  have hclose : group = [] → token.kind ≠ .closeBrace := by
    rintro rfl hkind
    exact hend ⟨hcounted.symm, .inl hkind⟩
  obtain ⟨⟨group', rfl, hcounted'⟩, hopen⟩ := openAfter_counted hclose h
  rw [hcounted] at hcounted'
  exact ⟨.selectors hcounted', hopen⟩

theorem stepProperty_opens {rule : OpenRule} {start : UInt32} {text : Text} {loose : List Kind}
    (hfree : .openBrace ∉ loose)
    (h : openAfter token.kind (loose ++ braces (reader.frames.length + 1)) = some next) :
    StepOpens token (loose ++ braces (reader.frames.length + 1)) next
      (reader.stepProperty rule start text token) := by
  have hgoesOn : token.kind ≠ .openBrace → token.kind ≠ .closeBrace →
      StepOpens token (loose ++ braces (reader.frames.length + 1)) next
        (.ok { reader with phase := .property rule start (text ++ token.text) }) := by
    intro hopen hclose
    obtain ⟨loose', rfl, hfree'⟩ := openAfter_loose hfree hopen hclose h
    exact ⟨.property hfree', fun hkind => absurd hkind hclose⟩
  rw [stepProperty]
  cases hkind : token.kind with
  | colon =>
    rw [openAfter_kind hkind h]
    cases text.trim with
    | nil => trivial
    | cons c cs =>
      -- the count starts here, with whatever the property has left open below it
      refine ⟨?_, fun hclose => by simp [hkind] at hclose⟩
      show Phase.Opens _ _ ([] ++ (loose ++ braces (reader.frames.length + 1)))
      exact .value rfl hfree
  | semicolon => trivial
  | closeBrace => trivial
  | openBrace => trivial
  | _ => exact hgoesOn (by simp [hkind]) (by simp [hkind])

theorem stepValue_opens {rule : OpenRule} {start : UInt32} {property : Text} {depth : Nat}
    {text : Text} {group loose : List Kind} (hcounted : group.length = depth)
    (hfree : .openBrace ∉ loose)
    (h : openAfter token.kind (group ++ (loose ++ braces (reader.frames.length + 1))) = some next) :
    StepOpens token (group ++ (loose ++ braces (reader.frames.length + 1))) next
      (.ok (reader.stepValue rule start property depth text token)) := by
  refine ⟨?_, fun _ => by simp [braces_succ]⟩
  rw [stepValue]
  by_cases hsemi : depth = 0 ∧ token.kind = .semicolon
  · rw [if_pos hsemi]
    rw [openAfter_kind hsemi.2 h, List.eq_nil_of_length_eq_zero (hcounted.trans hsemi.1)]
    exact .block hfree
  rw [if_neg hsemi]
  by_cases hend : depth = 0 ∧ token.kind = .closeBrace
  · rw [if_pos hend]
    rw [List.eq_nil_of_length_eq_zero (hcounted.trans hend.1)] at h
    rw [openAfter_block hfree hend.2 h]
    exact .between
  rw [if_neg hend]
  have hclose : group = [] → token.kind ≠ .closeBrace := by
    rintro rfl hkind
    exact hend ⟨hcounted.symm, hkind⟩
  obtain ⟨group', loose', rfl, hcounted', hfree', -⟩ := openAfter_group hfree hclose h
  rw [hcounted] at hcounted'
  exact .value hcounted' hfree'

theorem stepBlock_opens {rule : OpenRule} {loose : List Kind} (hphase : reader.phase = .block rule)
    (hfree : .openBrace ∉ loose)
    (h : openAfter token.kind (loose ++ braces (reader.frames.length + 1)) = some next) :
    StepOpens token (loose ++ braces (reader.frames.length + 1)) next
      (reader.stepBlock rule token) := by
  have hstays : next = loose ++ braces (reader.frames.length + 1) → reader.Opens next := by
    rintro rfl
    rw [Opens, hphase]
    exact .block hfree
  rw [stepBlock]
  cases hkind : token.kind with
  | whitespace => exact ⟨hstays (openAfter_kind hkind h), fun _ => by simp [braces_succ]⟩
  | semicolon => exact ⟨hstays (openAfter_kind hkind h), fun _ => by simp [braces_succ]⟩
  | closeBrace =>
    rw [openAfter_block hfree hkind h]
    exact ⟨.between, fun _ => by simp [braces_succ]⟩
  | _ => exact stepProperty_opens hfree h

theorem stepPreface_opens {start : UInt32} {name : Text} {depth : Nat} {text : Text}
    {group : List Kind} (hcounted : group.length = depth)
    (h : openAfter token.kind (group ++ braces reader.frames.length) = some next) :
    StepOpens token (group ++ braces reader.frames.length) next
      (reader.stepPreface start name depth text token) := by
  rw [stepPreface]
  by_cases hopen : depth = 0 ∧ token.kind = .openBrace
  · rw [if_pos hopen]
    obtain ⟨rfl, hkind⟩ := hopen
    rw [List.eq_nil_of_length_eq_zero hcounted, hkind, openAfter_open rfl] at h
    cases h
    by_cases hmedia : Text.sameIgnoringCase name "media".toList = true
    · rw [if_pos hmedia]
      exact ⟨.between, fun hclose => by simp [hkind] at hclose⟩
    · rw [if_neg hmedia]
      refine ⟨?_, fun hclose => by simp [hkind] at hclose⟩
      show Phase.Opens _ _ ([] ++ braces (reader.frames.length + 1))
      exact .sealedBlock rfl
  rw [if_neg hopen]
  by_cases hsemi : depth = 0 ∧ token.kind = .semicolon
  · rw [if_pos hsemi]
    rw [openAfter_kind hsemi.2 h, List.eq_nil_of_length_eq_zero (hcounted.trans hsemi.1)]
    exact ⟨.between, fun hclose => by simp [hsemi.2] at hclose⟩
  rw [if_neg hsemi]
  by_cases hend : depth = 0 ∧ token.kind = .closeBrace
  · rw [if_pos hend]
    rw [List.eq_nil_of_length_eq_zero (hcounted.trans hend.1)] at h ⊢
    exact closeMedia_opens hend.2 h
  rw [if_neg hend]
  have hclose : group = [] → token.kind ≠ .closeBrace := by
    rintro rfl hkind
    exact hend ⟨hcounted.symm, hkind⟩
  obtain ⟨⟨group', rfl, hcounted'⟩, hopen⟩ := openAfter_counted hclose h
  rw [hcounted] at hcounted'
  exact ⟨.preface hcounted', hopen⟩

theorem stepSealed_opens {start : UInt32} {name text : Text} {brace : Span} {depth : Nat}
    {inner : List Kind} (hphase : reader.phase = .sealedBlock start name text brace depth)
    (hcounted : inner.count .openBrace + 1 = depth)
    (h : openAfter token.kind (inner ++ braces (reader.frames.length + 1)) = some next) :
    StepOpens token (inner ++ braces (reader.frames.length + 1)) next
      (.ok (reader.stepSealed start name text brace depth token)) := by
  refine ⟨?_, fun _ => by simp [braces_succ]⟩
  have hgoesOn : token.kind ≠ .openBrace → token.kind ≠ .closeBrace → reader.Opens next := by
    intro hopen hclose
    obtain ⟨inner', rfl, hsame⟩ := openAfter_sealed hopen hclose h
    rw [Opens, hphase]
    exact .sealedBlock (by omega)
  rw [stepSealed]
  cases hkind : token.kind with
  | openBrace =>
    rw [hkind, openAfter_open rfl] at h
    cases h
    rw [← List.cons_append]
    exact .sealedBlock (by rw [List.count_cons_self, hcounted])
  | closeBrace =>
    rw [hkind] at h
    cases inner with
    | nil =>
      -- no brace is open in the block, so the counter is at its own
      obtain ⟨-, rfl⟩ := openAfter_close rfl h
      simp only [if_pos (show depth ≤ 1 by simpa using hcounted.symm.le)]
      exact .between
    | cons top rest =>
      obtain ⟨hopening, rfl⟩ := openAfter_close rfl h
      cases hopening
      rw [List.count_cons_self] at hcounted
      simp only [if_neg (show ¬ depth ≤ 1 by omega)]
      exact .sealedBlock (by omega)
  | _ => exact hgoesOn (by simp [hkind]) (by simp [hkind])

theorem stepBetween_opens (hphase : reader.phase = .between)
    (h : openAfter token.kind (braces reader.frames.length) = some next) :
    StepOpens token (braces reader.frames.length) next (reader.stepBetween token) := by
  have hstays : next = braces reader.frames.length → reader.Opens next := by
    rintro rfl
    rw [Opens, hphase]
    exact .between
  rw [stepBetween]
  cases hkind : token.kind with
  | whitespace => exact ⟨hstays (openAfter_kind hkind h), fun hclose => by simp [hkind] at hclose⟩
  | semicolon => exact ⟨hstays (openAfter_kind hkind h), fun hclose => by simp [hkind] at hclose⟩
  | closeBrace => exact closeMedia_opens hkind h
  | atKeyword =>
    rw [openAfter_kind hkind h]
    refine ⟨?_, fun hclose => by simp [hkind] at hclose⟩
    show Phase.Opens _ _ ([] ++ braces reader.frames.length)
    exact .preface rfl
  | _ =>
    show StepOpens token ([] ++ braces reader.frames.length) next _
    exact stepSelectors_opens rfl h

/-- **One token keeps the open brackets right**, and a closing brace closes something. -/
theorem step_opens {stack : List Kind} (hopens : reader.Opens stack)
    (h : openAfter token.kind stack = some next) :
    StepOpens token stack next (reader.step token) := by
  rw [step]
  by_cases hbroken : token.kind = .broken
  · rw [if_pos hbroken]
    trivial
  rw [if_neg hbroken]
  by_cases hcomment : token.kind = .comment
  · rw [if_pos hcomment, openAfter_kind hcomment h]
    exact ⟨hopens, fun hclose => by simp [hcomment] at hclose⟩
  rw [if_neg hcomment]
  obtain ⟨frames, rules, phase⟩ := reader
  rw [Opens] at hopens
  cases hopens with
  | between => exact stepBetween_opens rfl h
  | selectors counted => exact stepSelectors_opens counted h
  | block free => exact stepBlock_opens rfl free h
  | property free => exact stepProperty_opens free h
  | value counted free => exact stepValue_opens counted free h
  | preface counted => exact stepPreface_opens counted h
  | sealedBlock counted => exact stepSealed_opens rfl counted h

end

/-! ## All tokens, and the end of input -/

/-- What one token does to the number of open braces. -/
theorem leads_openAfter {token : Token} {stack next : List Kind}
    (h : openAfter token.kind stack = some next) (hclose : token.kind = .closeBrace → stack ≠ []) :
    Leads Token.opensBrace Token.closesBrace (stack.count .openBrace) [token]
      (next.count .openBrace) := by
  rw [leads_singleton, Token.opensBrace, Token.closesBrace]
  cases hkind : token.kind with
  | openBrace =>
    rw [hkind, openAfter_open rfl] at h
    cases h
    rw [List.count_cons_self]
    show 1 + stack.count .openBrace = 0 + (stack.count .openBrace + 1)
    omega
  | closeBrace =>
    rw [hkind] at h
    cases stack with
    | nil => exact absurd rfl (hclose hkind)
    | cons top rest =>
      obtain ⟨hopening, rfl⟩ := openAfter_close rfl h
      cases hopening
      rw [List.count_cons_self]
      show 0 + (next.count .openBrace + 1) = 1 + next.count .openBrace
      omega
  | openParen | openBracket =>
    rw [hkind, openAfter_open rfl] at h
    cases h
    rw [List.count_cons_of_ne (by decide)]
    rfl
  | closeParen | closeBracket =>
    rw [hkind] at h
    cases stack with
    | nil =>
      cases h
      rfl
    | cons top rest =>
      obtain ⟨hopening, rfl⟩ := openAfter_close rfl h
      cases hopening
      rw [List.count_cons_of_ne (by decide)]
      rfl
  | _ =>
    rw [openAfter_kind hkind h]
    rfl

/-- **The braces among the tokens lead from those open before to those open after.** -/
theorem run_leads {reader last : Reader} {stack : List Kind} {tokens : List Token}
    (hopens : reader.Opens stack) (hagree : kindsAgree stack tokens = true)
    (hrun : reader.run tokens = .ok last) :
    ∃ final, last.Opens final ∧
      Leads Token.opensBrace Token.closesBrace (stack.count .openBrace) tokens
        (final.count .openBrace) := by
  induction tokens generalizing reader stack with
  | nil =>
    cases hrun
    exact ⟨stack, hopens, leads_nil.mpr rfl⟩
  | cons token rest ih =>
    rw [kindsAgree] at hagree
    rw [run] at hrun
    cases hafter : openAfter token.kind stack with
    | none =>
      rw [hafter] at hagree
      cases hagree
    | some next =>
      rw [hafter] at hagree
      have hstep := step_opens hopens hafter
      cases hnext : reader.step token with
      | error error =>
        rw [hnext] at hrun
        cases hrun
      | ok later =>
        rw [hnext] at hrun hstep
        obtain ⟨final, hfinal, hrest⟩ := ih hstep.1 hagree hrun
        have htoken := leads_openAfter hafter hstep.2
        exact ⟨final, hfinal, leads_append.mpr ⟨_, htoken, hrest⟩⟩

/-- At the end of input no bracket is left open, or the reader refuses. -/
theorem finish_opens {reader : Reader} {stack : List Kind} {stop : UInt32} {sheet : Stylesheet}
    (hopens : reader.Opens stack) (h : reader.finish stop = .ok sheet) : stack = [] := by
  obtain ⟨frames, rules, phase⟩ := reader
  have hbetween : ∀ rules' : List Rule,
      finishBetween ⟨frames, rules', .between⟩ = .ok sheet → frames = [] := by
    intro rules' hfinish
    cases frames with
    | nil => rfl
    | cons frame outer => cases hfinish
  rw [Opens] at hopens
  cases hopens with
  | between =>
    rw [hbetween rules h]
    rfl
  | @preface _ _ depth _ group counted =>
    rw [finish] at h
    by_cases hdepth : depth = 0
    · simp only [if_pos hdepth] at h
      rw [hbetween _ h, List.eq_nil_of_length_eq_zero (counted.trans hdepth)]
      rfl
    · simp only [if_neg hdepth] at h
      cases h
  | _ => cases h

end Reader

/-! ## The tokens of a source -/

theorem kindsAgree_start {xs ys : List Token} {stack : List Kind}
    (h : kindsAgree stack (xs ++ ys) = true) : kindsAgree stack xs = true := by
  induction xs generalizing stack with
  | nil => rfl
  | cons token rest ih =>
    rw [List.cons_append, kindsAgree] at h
    rw [kindsAgree]
    cases hafter : openAfter token.kind stack with
    | none =>
      rw [hafter] at h
      cases h
    | some next =>
      rw [hafter] at h
      exact ih h

end StyleAudit.Css
