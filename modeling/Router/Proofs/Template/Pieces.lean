import Mathlib.Data.List.Forall2
import Router.Template.Token

/-!
Pieces of a path. A token list fits a path that can be cut into pieces, one for each token: the piece of
a literal is its text, the piece of a parameter holds no slash, the piece of a splat is any text.
`backtrack` tries all lengths of every piece.
-/

set_option autoImplicit false
set_option relaxedAutoImplicit false

namespace Router.Template

/-- The texts a token may stand for. -/
def Token.Takes : Token → List Char → Prop
  | literal text, piece => piece = text
  | param _, piece => '/' ∉ piece
  | splat, _ => True

instance Token.decidableTakes : (t : Token) → (piece : List Char) → Decidable (t.Takes piece)
  | literal text, piece => inferInstanceAs (Decidable (piece = text))
  | param _, piece => inferInstanceAs (Decidable ('/' ∉ piece))
  | splat, _ => inferInstanceAs (Decidable True)

/-- The path can be cut into pieces, one for each token and in their order. -/
def Cut (tokens : List Token) (path : List Char) : Prop :=
  ∃ pieces, List.Forall₂ Token.Takes tokens pieces ∧ pieces.flatten = path

theorem cut_nil {path : List Char} : Cut [] path ↔ path = [] := by
  simp [Cut, eq_comm]

theorem cut_cons {t : Token} {ts : List Token} {path : List Char} :
    Cut (t :: ts) path ↔ ∃ piece rest, t.Takes piece ∧ Cut ts rest ∧ piece ++ rest = path := by
  constructor
  · intro h
    obtain ⟨pieces, hpieces, rfl⟩ := h
    obtain ⟨piece, rest, htake, hrest, rfl⟩ := List.forall₂_cons_left_iff.1 hpieces
    exact ⟨piece, rest.flatten, htake, ⟨rest, hrest, rfl⟩, rfl⟩
  · intro h
    obtain ⟨piece, rest, htake, ⟨pieces, hpieces, rfl⟩, rfl⟩ := h
    exact ⟨piece :: pieces, .cons htake hpieces, rfl⟩

theorem cut_splat {ts : List Token} {path : List Char} :
    Cut (.splat :: ts) path ↔ ∃ rest, rest <:+ path ∧ Cut ts rest := by
  rw [cut_cons]
  constructor
  · intro h
    obtain ⟨piece, rest, -, hrest, rfl⟩ := h
    exact ⟨rest, List.suffix_append piece rest, hrest⟩
  · intro h
    obtain ⟨rest, ⟨piece, rfl⟩, hrest⟩ := h
    exact ⟨piece, rest, trivial, hrest, rfl⟩

theorem cut_literal {text : List Char} {ts : List Token} {path : List Char} :
    Cut (.literal text :: ts) path ↔ ∃ rest, Cut ts rest ∧ text ++ rest = path := by
  rw [cut_cons]
  constructor
  · intro h
    obtain ⟨piece, rest, rfl, hrest, rfl⟩ := h
    exact ⟨rest, hrest, rfl⟩
  · intro h
    obtain ⟨rest, hrest, rfl⟩ := h
    exact ⟨text, rest, rfl, hrest, rfl⟩

/-- The search for a cut: every length for the first piece, and the rest for the other tokens. -/
def backtrack : List Token → List Char → Bool
  | [], path => path.isEmpty
  | t :: ts, path =>
    (List.range (path.length + 1)).any fun n =>
      decide (t.Takes (path.take n)) && backtrack ts (path.drop n)

theorem backtrack_eq_true {tokens : List Token} {path : List Char} :
    backtrack tokens path = true ↔ Cut tokens path := by
  induction tokens generalizing path with
  | nil => simp [backtrack, cut_nil]
  | cons t ts ih =>
    simp only [backtrack, List.any_eq_true, List.mem_range, Bool.and_eq_true, decide_eq_true_eq, ih,
      cut_cons]
    constructor
    · intro h
      obtain ⟨n, -, htake, hrest⟩ := h
      exact ⟨path.take n, path.drop n, htake, hrest, List.take_append_drop n path⟩
    · intro h
      obtain ⟨piece, rest, htake, hrest, rfl⟩ := h
      exact ⟨piece.length, by simp only [List.length_append]; omega, by simpa using htake,
        by simpa using hrest⟩

instance decidableCut (tokens : List Token) (path : List Char) : Decidable (Cut tokens path) :=
  decidable_of_iff _ backtrack_eq_true

example : Cut [.splat, .literal ['/', 'é', '/'], .param "x".toList] "/é/b/é/".toList := by decide

end Router.Template
