import StyleAudit.Text.Blank

/-!
# Templates

A component source is normalised into markup that a plain HTML reader accepts.

- `Template.asPage`: the wrapper becomes the root element, the outer template
  the body, and lines that apply a mixin are dropped.
- `Template.Opening`, `Template.opening?`: the words that open a script, a
  comment or a mixin, and the marker that closes it.
- `Template.strip`: drops each opened part up to the next word with its marker,
  and turns host selectors in the words that stay into selectors of the root.
- `Template.hostToRoot`: selectors of the host become selectors of the root.
- `Template.normalize`: all of it.
-/

namespace StyleAudit.Template

/-- A part of a source that normalisation removes. -/
inductive Construct where
  | mixin | script | comment
  deriving DecidableEq, Repr

/-- What a part is called in messages. -/
def Construct.name : Construct → Text
  | mixin => "mixin declaration".toList
  | script => "script".toList
  | comment => "comment".toList

/-- A part that was opened and never closed: the word that opened it and the
marker that no later word holds. -/
structure Unterminated where
  construct : Construct
  opening : Text
  expected : Text
  deriving DecidableEq, Repr

/-- The wording of the failure. -/
def Unterminated.message (failure : Unterminated) : Text :=
  "unterminated ".toList ++ failure.construct.name ++ " starting at '".toList ++ failure.opening ++
    "': expected '".toList ++ failure.expected ++ "' before end of input".toList

/-! ## Tags and mixin lines -/

/-- The element that wraps a component definition. -/
def wrapperTag : Text := "dom-module".toList

/-- The element that the wrapper and the host selectors become. -/
def rootTag : Text := "html".toList

/-- The marker of a line that applies a mixin. -/
def applyMarker : Text := "@apply".toList

/-- Substitute the tags, and drop the lines that apply a mixin. -/
def asPage (source : Text) : Text :=
  let rooted := Text.replaceAll wrapperTag rootTag source
  let opened := Text.replaceFirst "<template".toList "<body".toList rooted
  let page := Text.replaceLast "</template".toList "</body".toList opened
  Text.join ['\n'] (page.lines.filter fun line => !Text.contains applyMarker line)

/-! ## Host selectors -/

/-- The two sides of the parenthesis that closes one already open; `depth` more
are open inside it. -/
def closing? : Nat → Text → Option (Text × Text)
  | _, [] => none
  | depth, '(' :: cs => (closing? (depth + 1) cs).map fun sides => ('(' :: sides.1, sides.2)
  | 0, ')' :: cs => some ([], cs)
  | depth + 1, ')' :: cs => (closing? depth cs).map fun sides => (')' :: sides.1, sides.2)
  | depth, c :: cs => (closing? depth cs).map fun sides => (c :: sides.1, sides.2)

/-- A host selector with an argument. -/
def hostCall : Text := ":host(".toList

theorem closing?_length {depth : Nat} {text inside rest : Text}
    (h : closing? depth text = some (inside, rest)) : rest.length < text.length := by
  fun_induction closing? depth text generalizing inside with
  | case1 => simp at h
  | case3 => simp_all
  | case2 _ _ ih | case4 _ _ ih | case5 _ _ _ _ _ _ ih =>
    simp only [Option.map_eq_some_iff, Prod.mk.injEq, Prod.exists] at h
    obtain ⟨a, b, hab, _, rfl⟩ := h
    have := ih hab
    simp only [List.length_cons]
    omega

theorem cut?_hostCall_length {text before inner : Text}
    (h : Text.cut? hostCall text = some (before, inner)) : inner.length < text.length := by
  have := congrArg List.length (Text.cut?_eq_append h)
  simp [hostCall] at this
  omega

/-- Replace each host call by the root element followed by its argument; a call
that is not closed loses only its opening. -/
def hostCallsToRoot (word : Text) : Text :=
  match _cut : Text.cut? hostCall word with
  | none => word
  | some (before, inner) =>
    before ++ rootTag ++
      match _close : closing? 0 inner with
      | some (inside, rest) => inside ++ hostCallsToRoot rest
      | none => hostCallsToRoot inner
termination_by word.length
decreasing_by
  · have := cut?_hostCall_length _cut
    have := closing?_length _close
    omega
  · exact cut?_hostCall_length _cut

/-- Turn the host selectors of a word into the root element: a call keeps its
argument, a word with an attribute test of the host becomes the root element. -/
def hostToRoot (word : Text) : Text :=
  if Text.contains hostCall word then hostCallsToRoot word
  else if Text.contains ":host[".toList word then rootTag
  else Text.replaceAll ":host".toList rootTag word

/-! ## Removal -/

/-- A part that is open: what it is, the word that opened it, and its marker. -/
structure Opening where
  construct : Construct
  word : Text
  marker : Text
  deriving DecidableEq, Repr

/-- What a word opens. A mixin is a block if the word after its name has a brace,
else a single value. -/
def opening? (word : Text) (next : Option Text) : Option Opening :=
  if Text.startsWith ['-', '-'] word then
    if next.any (Text.contains ['{']) then some ⟨.mixin, word, ['}']⟩ else some ⟨.mixin, word, [';']⟩
  else if Text.contains "<script".toList word then some ⟨.script, word, "</script".toList⟩
  else if Text.contains "<!--".toList word then some ⟨.comment, word, "-->".toList⟩
  else none

/-- Drop the opened parts of a list of words, and turn the hosts of the others into the root;
`inside` is the part that is open before the first word. Markers are looked for
only in words after the opening one. -/
def stripFrom : Option Opening → List Text → Except Unterminated (List Text)
  | none, [] => .ok []
  | some part, [] => .error ⟨part.construct, part.word, part.marker⟩
  | some part, word :: rest =>
    if Text.contains part.marker word then stripFrom none rest else stripFrom (some part) rest
  | none, word :: rest =>
    match opening? word rest.head? with
    | some part => stripFrom (some part) rest
    | none => (stripFrom none rest).map (hostToRoot word :: ·)

/-- Drop the opened parts of a list of words, and turn the hosts of the others into the root. -/
def strip (words : List Text) : Except Unterminated (List Text) := stripFrom none words

/-- Normalise a component source into markup. -/
def normalize (source : Text) : Except Unterminated Text :=
  (strip (asPage source).words).map (Text.join [' '])

end StyleAudit.Template
