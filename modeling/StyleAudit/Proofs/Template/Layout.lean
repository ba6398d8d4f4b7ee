import StyleAudit.Analysis
import StyleAudit.Proofs.Substitution
import StyleAudit.Proofs.Template.Removal
import Mathlib

/-!
# Layout does not matter

The tags that are substituted hold no blanks, so substitution goes through the words of a source one
by one, and the lines of a source only matter where one of them applies a mixin. Two sources without
such lines and with the same words are therefore normalised to the same markup.

- `substituteTags`, `words_substituteTags`: substitution of tags, on a source and on its words.
- `apply_of_substituteTags`: no substitution makes up a marker.
- `pageWords_eq`, `pageWords_eq_words`: the words of a page are a function of the words of the
  source, and the same where nothing is substituted.
- `normalize_layout`: so is what comes of normalisation and analysis.
-/

namespace StyleAudit.Template

/-! ## Tags -/

/-- A source with its tags substituted. -/
def substituteTags (source : Text) : Text :=
  Text.replaceLast "</template".toList "</body".toList
    (Text.replaceFirst "<template".toList "<body".toList
      (Text.replaceAll wrapperTag rootTag source))

/-- Words with their tags substituted. -/
def substituteTagsOfWords (words : List Text) : List Text :=
  Text.replaceLastWord "</template".toList "</body".toList
    (Text.replaceFirstWord "<template".toList "<body".toList
      (words.map (Text.replaceAll wrapperTag rootTag)))

theorem words_substituteTags (source : Text) :
    (substituteTags source).words = substituteTagsOfWords source.words := by
  rw [substituteTags, substituteTagsOfWords,
    Text.words_replaceLast (by decide +kernel) (by decide +kernel),
    Text.words_replaceFirst (by decide +kernel) (by decide +kernel),
    Text.words_replaceAll (by decide +kernel) (by decide +kernel)]

theorem substituteTags_eq_self {source : Text} (hwrapper : ¬ wrapperTag <:+: source)
    (hopen : ¬ "<template".toList <:+: source) (hclose : ¬ "</template".toList <:+: source) :
    substituteTags source = source := by
  have hrooted : Text.replaceAll wrapperTag rootTag source = source := by
    rw [Text.replaceAll_eq (by decide), Text.cut?_eq_none_iff.mpr hwrapper]
  rw [substituteTags, hrooted, Text.replaceFirst_eq_self (mt Text.contains_iff.mp hopen),
    Text.replaceLast_eq_self (mt Text.contains_iff.mp hclose)]

/-- No substitution makes up a marker: no tag starts in a marker, and no marker in a tag. -/
theorem apply_of_substituteTags {source : Text} (h : applyMarker <:+: substituteTags source) :
    applyMarker <:+: source := by
  have hopened : applyMarker <:+: Text.replaceFirst "<template".toList "<body".toList
      (Text.replaceAll wrapperTag rootTag source) :=
    (Text.replaceLast_substituted _ _ _).part (by decide +kernel) h
  have hrooted : applyMarker <:+: Text.replaceAll wrapperTag rootTag source :=
    (Text.replaceFirst_substituted _ _ _).part (by decide +kernel) hopened
  exact (Text.replaceAll_substituted (by decide +kernel) _ _).part (by decide +kernel) hrooted

/-! ## Lines -/

/-- Where no line applies a mixin, all lines stay. -/
theorem asPage_eq {source : Text} (h : ¬ applyMarker <:+: source) :
    asPage source = Text.join ['\n'] (substituteTags source).lines := by
  have hmarkerWord : Text.IsWord applyMarker := by decide +kernel
  have hlines : ∀ line ∈ (substituteTags source).lines,
      (!Text.contains applyMarker line) = true := by
    intro line hline
    rw [Bool.not_eq_true', ← Bool.not_eq_true, Text.contains_iff]
    intro hin
    -- the marker would stand in a word of the line, and that is a word of the source
    obtain ⟨word, hword, hmarker⟩ := (Text.part_words_iff hmarkerWord line).mp hin
    have hpage : word ∈ (substituteTags source).words := by
      rw [← Text.words_lines]
      exact List.mem_flatMap.mpr ⟨line, hline, hword⟩
    refine h (apply_of_substituteTags ?_)
    exact (Text.part_words_iff hmarkerWord _).mpr ⟨word, hpage, hmarker⟩
  show Text.join ['\n'] ((substituteTags source).lines.filter _) = _
  rw [List.filter_eq_self.mpr hlines]

/-- The words of a page are a function of the words of the source. -/
theorem pageWords_eq {source : Text} (h : ¬ applyMarker <:+: source) :
    pageWords source = substituteTagsOfWords source.words := by
  rw [pageWords, asPage_eq h, Text.words_join_lines, words_substituteTags]

/-- A source without the tags that are substituted, and without mixins that are applied, keeps its
words. -/
theorem pageWords_eq_words {source : Text} (happly : ¬ applyMarker <:+: source)
    (hwrapper : ¬ wrapperTag <:+: source) (hopen : ¬ "<template".toList <:+: source)
    (hclose : ¬ "</template".toList <:+: source) : pageWords source = source.words := by
  rw [pageWords_eq happly, ← words_substituteTags, substituteTags_eq_self hwrapper hopen hclose]

/-! ## Normalisation and analysis -/

/-- **Layout does not matter.** Two sources that apply no mixin and have the same words are
normalised alike, to the same markup or with the same failure. So the same is found in both, however pages are
read and whatever is checked. -/
theorem normalize_layout {source other : Text} (hsource : ¬ applyMarker <:+: source)
    (hother : ¬ applyMarker <:+: other) (hwords : source.words = other.words) :
    normalize source = normalize other ∧
      ∀ (read : PageReader) (checks : Checks),
        checks.analyzeWith read source = checks.analyzeWith read other := by
  have hpages : pageWords source = pageWords other := by
    rw [pageWords_eq hsource, pageWords_eq hother, hwords]
  have hnormalize : normalize source = normalize other := by
    show (strip (pageWords source)).map _ = (strip (pageWords other)).map _
    rw [hpages]
  refine ⟨hnormalize, fun read checks => ?_⟩
  rw [Checks.analyzeWith, Checks.analyzeWith, hnormalize]

/-- Tags on one line, and on lines with other blanks and breaks between them. -/
theorem normalize_layout_tags :
    normalize "<template> <template>".toList =
        normalize "<template>\r\n\u2003<template>\n".toList ∧
      ∀ checks : Checks, checks.analyze "<template> <template>".toList =
        checks.analyze "<template>\r\n\u2003<template>\n".toList := by
  have hlayout := @normalize_layout "<template> <template>".toList
    "<template>\r\n\u2003<template>\n".toList (by decide +kernel) (by decide +kernel)
    (by decide +kernel)
  exact ⟨hlayout.1, hlayout.2 Page.ofMarkup⟩

end StyleAudit.Template
