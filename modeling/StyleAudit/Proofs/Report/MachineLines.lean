import StyleAudit.Check
import StyleAudit.Proofs.Css.Characters
import StyleAudit.Proofs.Findings
import StyleAudit.Proofs.Locate.Exactness
import StyleAudit.Proofs.OneLine

/-!
# A line for each diagnostic

Messages quote selectors, conditions, properties, excerpts and lines. All of them come from text on
one line: from the words of the source, from one of its lines, or from the style text of a page that
was read from markup on one line. So no message has a line feed, and what is printed for programs
has as many lines as there are diagnostics.

- `PageReader.ofParser`, `KeepsOneLine`: how pages are read, and what is asked of their parser.
- `Failure.ofParseError_isOneLine`, `Checks.run_isOneLine`: messages about a stylesheet.
- `Checks.analyzeWith_isOneLine`, `diagnoseWith_isOneLine`: all messages about a source.
- `machineText_lines`: what is printed for programs, line by line.
- `machine_line_each`: both together.
-/

namespace StyleAudit

open Css (Stylesheet Scope Occurrence)

/-! ## Parsers of pages -/

/-- The reader of pages with a given parser: markup without content is refused. -/
def PageReader.ofParser (parse : Text → Page) : PageReader := fun markup =>
  if markup.trim.isEmpty then .error (.markup "markup is empty".toList) else .ok (parse markup)

/-- Pages are read in this way. -/
theorem exists_ofMarkup_eq_ofParser : ∃ parse, Page.ofMarkup = PageReader.ofParser parse := by
  refine ⟨fun markup =>
    ⟨.ofSites (Selector.sites (Markup.Forest.ofText markup)),
      ((Selector.sites (Markup.Forest.ofText markup)).find? fun site =>
        site.name.tag == "style").map fun site => site.node.textContent⟩, ?_⟩
  rfl

/-- A parser puts no line feed into the style text of markup on one line, nor into what it says
about a selector. -/
structure KeepsOneLine (parse : Text → Page) : Prop where
  style : ∀ markup style, markup.IsOneLine → (parse markup).style? = some style → style.IsOneLine
  rejection : ∀ markup query message,
    (parse markup).document.query query = .error message → message.IsOneLine

/-! ## Stylesheets that are refused -/

theorem Css.Cause.message_isOneLine {cause : Css.Cause} (h : cause.quoted.IsOneLine) :
    cause.message.IsOneLine := by
  cases cause with
  | missingColon property =>
    exact .append (.append .ofList h) .ofList
  | invalidToken found => exact .append .ofList h
  | _ => decide

/-- An excerpt is cut out of one line. -/
theorem snippetAt_isOneLine (span : Span) (style : Text) : (snippetAt span style).IsOneLine := by
  have hfirst : ((statementAt span style).trim.lines.head?.getD []).IsOneLine := by
    cases hlines : (statementAt span style).trim.lines with
    | nil => exact List.not_mem_nil
    | cons line rest =>
      have hmem : line ∈ (statementAt span style).trim.lines := by
        rw [hlines]
        exact List.mem_cons_self
      exact Text.isOneLine_of_mem_lines hmem
  exact hfirst.of_subset (List.take_subset _ _)

theorem Failure.ofParseError_isOneLine {style : Text} (hstyle : style.IsOneLine)
    {error : Css.ParseError} (h : Css.parse style = .error error) :
    (Failure.ofParseError error style).message.IsOneLine := by
  have hquoted := hstyle.of_subset (Css.parse_quotes style error h)
  have hcause := Css.Cause.message_isOneLine hquoted
  have hsnippet := snippetAt_isOneLine error.span style
  exact .append (.append (.append (.append .ofList hcause) .ofList) hsnippet) .ofList

/-! ## Findings and rejections -/

theorem mediaNote_isOneLine {media : Option Text} (h : ∀ condition ∈ media, condition.IsOneLine) :
    (Locate.mediaNote media).IsOneLine := by
  cases media with
  | none => exact List.not_mem_nil
  | some condition => exact .append .ofList (h condition rfl)

/-- A finding whose texts are each on one line. -/
def Finding.IsOneLine : Finding → Prop
  | .unused record => record.selector.IsOneLine ∧ ∀ condition ∈ record.media, condition.IsOneLine
  | .overwritten record => record.selector.IsOneLine ∧ record.property.IsOneLine ∧
      ∀ condition ∈ record.media, condition.IsOneLine

theorem Finding.message_isOneLine {finding : Finding} (h : finding.IsOneLine) :
    finding.message.IsOneLine := by
  cases finding with
  | unused record =>
    obtain ⟨hselector, hmedia⟩ := h
    have hnote := mediaNote_isOneLine hmedia
    exact .append (.append (.append .ofList hselector) .ofList) hnote
  | overwritten record =>
    obtain ⟨hselector, hproperty, hmedia⟩ := h
    have hnote := mediaNote_isOneLine hmedia
    exact .append (.append (.append (.append (.append .ofList hproperty) .ofList) hselector)
      .ofList) hnote

/-- A selector that is visited belongs to a rule of a scope, and is reported with its condition. -/
theorem exists_scope_of_mem_occurrences {sheet : Stylesheet} {occurrence : Occurrence}
    (h : occurrence ∈ sheet.occurrences) :
    ∃ scope ∈ sheet.scopes, occurrence.media = scope.media ∧
      ∃ rule ∈ scope.rules, occurrence.selector ∈ rule.selectors := by
  obtain ⟨rule, hrule, hmem⟩ := List.mem_flatMap.mp h
  cases rule with
  | style rule =>
    obtain ⟨selector, hselector, rfl⟩ := List.mem_map.mp hmem
    have hlisted : rule ∈ Css.styleRules sheet.rules := List.mem_filterMap.mpr ⟨_, hrule, rfl⟩
    exact ⟨⟨none, Css.styleRules sheet.rules⟩, List.mem_cons_self, rfl, rule, hlisted, hselector⟩
  | media condition rules span =>
    obtain ⟨inner, hinner, hoccurs⟩ := List.mem_flatMap.mp hmem
    obtain ⟨selector, hselector, rfl⟩ := List.mem_map.mp hoccurs
    have hscope : ⟨some condition, Css.styleRules rules⟩ ∈ sheet.scopes :=
      List.mem_cons_of_mem _ (List.mem_filterMap.mpr ⟨_, hrule, rfl⟩)
    exact ⟨_, hscope, rfl, inner, hinner, hselector⟩
  | atRule _ _ _ _ => cases hmem

/-- What is said about a stylesheet by a run of the checks. -/
def RunIsOneLine : Except Rejection Findings → Prop
  | .ok findings => ∀ finding ∈ findings.all, finding.IsOneLine
  | .error rejection => rejection.selector.IsOneLine ∧ rejection.message.IsOneLine

section

variable {style : Text} (hstyle : style.IsOneLine) {sheet : Stylesheet}
  (hsheet : Css.parse style = .ok sheet) {document : Document}

include hstyle hsheet

theorem occurrence_isOneLine {occurrence : Occurrence} (h : occurrence ∈ sheet.occurrences) :
    occurrence.selector.IsOneLine ∧ ∀ condition ∈ occurrence.media, condition.IsOneLine := by
  obtain ⟨scope, hscope, hmedia, rule, hrule, hselector⟩ := exists_scope_of_mem_occurrences h
  obtain ⟨hconditions, hrules⟩ := Css.scope_subset_of_parse hsheet hscope
  constructor
  · exact hstyle.of_subset ((hrules rule hrule).1 _ hselector)
  · intro condition hcondition
    rw [hmedia] at hcondition
    exact hstyle.of_subset (hconditions condition hcondition)

theorem Checks.found_isOneLine (checks : Checks) :
    ∀ finding ∈ (checks.found document sheet).all, finding.IsOneLine := by
  intro finding hfinding
  rcases List.mem_append.mp hfinding with hunused | hoverwritten
  · obtain ⟨record, hrecord, rfl⟩ := List.mem_map.mp hunused
    simp only [Checks.found] at hrecord
    split at hrecord
    · obtain ⟨occurrence, hoccurrence, rfl⟩ := List.mem_map.mp hrecord
      exact occurrence_isOneLine hstyle hsheet (List.mem_filter.mp hoccurrence).1
    · cases hrecord
  · obtain ⟨record, hrecord, rfl⟩ := List.mem_map.mp hoverwritten
    simp only [Checks.found] at hrecord
    split at hrecord
    · obtain ⟨placed, hplaced, hmem⟩ := List.mem_flatMap.mp hrecord
      obtain ⟨hmedia, hselector, -, other, -, -, ⟨earlier, hearlier, hproperty, -⟩, -⟩ :=
        mem_overwrites hmem
      obtain ⟨scope, hscope, hscoped, hsuffix⟩ := exists_scope_of_mem_scopedRules hplaced
      obtain ⟨hconditions, hrules⟩ := Css.scope_subset_of_parse hsheet hscope
      obtain ⟨hselectors, hproperties⟩ := hrules placed.rule (hsuffix.subset List.mem_cons_self)
      refine ⟨hstyle.of_subset (hselectors _ hselector), ?_, ?_⟩
      · rw [← hproperty]
        exact hstyle.of_subset (hproperties earlier hearlier)
      · intro condition hcondition
        rw [hmedia, ← hscoped] at hcondition
        exact hstyle.of_subset (hconditions condition hcondition)
    · cases hrecord

/-- **Whatever comes of the checks is on one line**, if the document keeps to one line. -/
theorem Checks.run_isOneLine (checks : Checks)
    (hdocument : ∀ query message, document.query query = .error message → message.IsOneLine) :
    RunIsOneLine (checks.run document sheet).1 := by
  by_cases hon : checks.unused = true ∨ checks.overwritten = true
  · rw [Checks.run_eq_verdict hon, verdict]
    cases hfirst : firstRejection? document checks.table sheet.selectors with
    | none => exact checks.found_isOneLine hstyle hsheet
    | some rejection =>
      obtain ⟨selector, hselector, hrejected⟩ := List.exists_of_findSome?_eq_some hfirst
      obtain ⟨occurrence, hoccurrence, rfl⟩ := List.mem_map.mp hselector
      rw [rejection?] at hrejected
      cases hquery : document.query (checks.table.queryFor occurrence.selector) with
      | ok used =>
        rw [hquery] at hrejected
        cases hrejected
      | error message =>
        rw [hquery] at hrejected
        cases hrejected
        exact ⟨(occurrence_isOneLine hstyle hsheet hoccurrence).1, hdocument _ _ hquery⟩
  · -- without a check there is nothing to say
    rw [not_or, Bool.not_eq_true, Bool.not_eq_true] at hon
    simp only [Checks.run, hon.1, hon.2]
    intro finding hfinding
    cases hfinding

end

/-! ## Sources -/

section

variable {parse : Text → Page} (hparse : KeepsOneLine parse)

include hparse

/-- **What comes of the analysis of a source is on one line.** -/
theorem Checks.analyzeWith_isOneLine (checks : Checks) (source : Text) :
    match checks.analyzeWith (.ofParser parse) source with
    | .ok findings => ∀ finding ∈ findings.all, finding.IsOneLine
    | .error failure => failure.message.IsOneLine := by
  rw [Checks.analyzeWith]
  cases hmarkup : Template.normalize source with
  | error cause =>
    obtain ⟨hopening, hexpected⟩ := Template.isOneLine_of_unterminated hmarkup
    have hname : cause.construct.name.IsOneLine := by cases cause.construct <;> decide
    exact .append (.append (.append (.append (.append (.append .ofList hname) .ofList) hopening)
      .ofList) hexpected) .ofList
  | ok markup =>
    simp only [PageReader.ofParser]
    by_cases hempty : markup.trim.isEmpty = true
    · simp only [if_pos hempty]
      decide
    · simp only [if_neg hempty]
      cases hstyle : (parse markup).style? with
      | none =>
        show Text.IsOneLine (Failure.message .missingStyle)
        decide
      | some style =>
        have hline := hparse.style markup style (Template.normalize_isOneLine hmarkup) hstyle
        simp only
        cases hsheet : Css.parse style with
        | error error => exact Failure.ofParseError_isOneLine hline hsheet
        | ok sheet =>
          have hrun := checks.run_isOneLine hline hsheet (hparse.rejection markup)
          simp only
          cases hchecks : (checks.run (parse markup).document sheet).1 with
          | ok findings =>
            rw [hchecks] at hrun
            exact hrun
          | error rejection =>
            rw [hchecks] at hrun
            exact .append (.append (.append .ofList hrun.1) .ofList) hrun.2

omit hparse in
theorem lineDiagnostics_isOneLine {source : Text} {diagnostic : Diagnostic}
    (h : diagnostic ∈ Locate.lineDiagnostics source) : diagnostic.message.IsOneLine := by
  obtain ⟨line, hline, -, rfl⟩ := Locate.exists_line_of_mem h
  have htext := (isOneLine_of_mem_lineIndex hline).of_subset line.text.trim_subset
  exact .append (.append .ofList htext) .ofList

/-- **Every message about a source is on one line.** -/
theorem diagnoseWith_isOneLine (settings : Settings) (source : Text) :
    ∀ diagnostic ∈ settings.diagnoseWith (.ofParser parse) source,
      diagnostic.message.IsOneLine := by
  -- what is said after the analysis, with or without the lines that are no declarations
  have hfound : ∀ diagnostic ∈ Locate.outcomeDiagnostics source
      (settings.checks.analyzeWith (.ofParser parse) source), diagnostic.message.IsOneLine := by
    have hanalysis := settings.checks.analyzeWith_isOneLine hparse source
    intro diagnostic hmem
    cases houtcome : settings.checks.analyzeWith (.ofParser parse) source with
    | error failure =>
      rw [houtcome] at hmem hanalysis
      rw [List.mem_singleton.mp hmem]
      exact hanalysis
    | ok findings =>
      rw [houtcome] at hmem hanalysis
      obtain ⟨finding, hfinding, span, rfl⟩ := Locate.exists_finding_of_mem hmem
      exact Finding.message_isOneLine (hanalysis finding hfinding)
  intro diagnostic hmem
  have hall := (List.mem_filter.mp hmem).1
  split at hall
  · rcases List.mem_append.mp (List.mem_mergeSort.mp hall) with houtcome | hline
    · exact hfound diagnostic houtcome
    · exact lineDiagnostics_isOneLine hline
  · exact hfound diagnostic hall

end

/-! ## Lines for programs -/

theorem Text.ofNat_isOneLine (n : Nat) : (Text.ofNat n).IsOneLine := by
  intro hmem
  have hdigit := Nat.isDigit_of_mem_toDigits (by decide) (by decide) hmem
  cases hdigit

namespace Entry

/-- An entry for programs, without the end of its line. -/
def machineRecord (entry : Entry) : Text :=
  entry.severity.capitals ++ " ".toList ++ entry.path ++
    [entry.start.line, entry.start.column, entry.stop.line, entry.stop.column].flatMap
      (fun n => ':' :: Text.ofNat n) ++
    " ".toList ++ entry.remark

theorem machineLine_eq (entry : Entry) : entry.machineLine = entry.machineRecord ++ ['\n'] := rfl

theorem machineRecord_isOneLine {entry : Entry} (hpath : entry.path.IsOneLine)
    (hmessage : entry.message.IsOneLine) : entry.machineRecord.IsOneLine := by
  have hseverity : entry.severity.capitals.IsOneLine := by cases entry.severity <;> decide
  have hcode : entry.code.name.IsOneLine := by cases entry.code <;> decide
  have hnumbers : Text.IsOneLine
      ([entry.start.line, entry.start.column, entry.stop.line, entry.stop.column].flatMap
        fun n => ':' :: Text.ofNat n) := by
    refine Text.isOneLine_flatMap fun n _ hmem => ?_
    rcases List.mem_cons.mp hmem with hcolon | hdigits
    · cases hcolon
    · exact Text.ofNat_isOneLine n hdigits
  have hremark : entry.remark.IsOneLine :=
    .append (.append (.append hmessage .ofList) hcode) .ofList
  exact .append (.append (.append (.append (.append hseverity .ofList) hpath) hnumbers) .ofList)
    hremark

end Entry

/-- **What is printed for programs has one line for each entry**, if paths and messages are on one
line. -/
theorem machineText_lines {entries : List Entry}
    (h : ∀ entry ∈ entries, entry.path.IsOneLine ∧ entry.message.IsOneLine) :
    (machineText entries).lines = entries.map fun entry => entry.machineRecord.chomp := by
  have hrecords : ∀ record ∈ entries.map Entry.machineRecord, record.IsOneLine := by
    intro record hrecord
    obtain ⟨entry, hentry, rfl⟩ := List.mem_map.mp hrecord
    exact Entry.machineRecord_isOneLine (h entry hentry).1 (h entry hentry).2
  have htext : machineText entries = (entries.map Entry.machineRecord).flatMap (· ++ ['\n']) := by
    rw [machineText, List.flatMap_map]
    exact List.flatMap_congr fun entry _ => entry.machineLine_eq
  rw [htext, Text.lines_terminated hrecords, List.map_map]
  rfl

/-- The page of markup in which no selector matches: its style text stands between the tags. -/
def Page.ofStyleOnly (markup : Text) : Page where
  document := ⟨fun _ => .ok false⟩
  style? := (Text.cut? "<style>".toList markup).map fun sides =>
    ((Text.cut? "</style>".toList sides.2).map Prod.fst).getD sides.2

theorem keepsOneLine_ofStyleOnly : KeepsOneLine Page.ofStyleOnly where
  style := by
    intro markup style hmarkup hstyle
    obtain ⟨⟨before, after⟩, hopen, rfl⟩ := Option.map_eq_some_iff.mp hstyle
    have hafter : Text.IsOneLine after := by
      rw [Text.cut?_eq_append hopen] at hmarkup
      exact (Text.isOneLine_append.mp hmarkup).2
    cases hclose : Text.cut? "</style>".toList after with
    | none => exact hafter
    | some sides =>
      rw [Text.cut?_eq_append hclose, Text.isOneLine_append, Text.isOneLine_append] at hafter
      exact hafter.1.1
  rejection := by
    intro markup query message h
    cases h

end StyleAudit
