import Mathlib.Data.List.TakeWhile
import Router.Template.Token

/-!
What tokenizing does to a template: one equation for each kind of token in front of the rest, and the
induction on templates that goes from the end of one token to the end of the next.
-/

set_option autoImplicit false
set_option relaxedAutoImplicit false

namespace Router.Template

/-- The text does not begin with a character that satisfies `p`. -/
def Stops (p : Char → Bool) (rest : List Char) : Prop := ∀ c ∈ rest.head?, p c = false

theorem stops_nil (p : Char → Bool) : Stops p [] := by simp [Stops]

theorem stops_cons {p : Char → Bool} {c : Char} {rest : List Char} :
    Stops p (c :: rest) ↔ p c = false := by simp [Stops]

theorem stops_dropWhile (p : Char → Bool) (cs : List Char) : Stops p (cs.dropWhile p) := by
  intro c hc
  have h := List.head?_dropWhile_not p cs
  rw [Option.mem_def.1 hc] at h
  simpa using h

theorem takeWhile_append_of_stops {p : Char → Bool} {xs rest : List Char}
    (hxs : ∀ c ∈ xs, p c = true) (hrest : Stops p rest) : (xs ++ rest).takeWhile p = xs := by
  rw [List.takeWhile_append_of_pos hxs]
  cases rest with
  | nil => simp
  | cons c rest => simp [stops_cons.1 hrest]

theorem dropWhile_append_of_stops {p : Char → Bool} {xs rest : List Char}
    (hxs : ∀ c ∈ xs, p c = true) (hrest : Stops p rest) : (xs ++ rest).dropWhile p = rest := by
  rw [List.dropWhile_append_of_pos hxs]
  cases rest with
  | nil => rfl
  | cons c rest => simp [stops_cons.1 hrest]

@[simp] theorem inName_slash : inName '/' = false := by decide

@[simp] theorem inLiteral_colon : inLiteral ':' = false := by decide

@[simp] theorem inLiteral_star : inLiteral '*' = false := by decide

theorem inName_eq_true {c : Char} : inName c = true ↔ c ≠ '/' := by simp [inName]

theorem inLiteral_eq_true {c : Char} : inLiteral c = true ↔ c ≠ ':' ∧ c ≠ '*' := by
  simp [inLiteral]

@[simp] theorem tokenize_nil : tokenize [] = [] := by rw [tokenize]

@[simp] theorem tokenize_splat (rest : List Char) :
    tokenize ('*' :: rest) = .splat :: tokenize rest := by
  rw [tokenize]
  simp

theorem tokenize_param {name rest : List Char} (hname : ∀ c ∈ name, inName c = true)
    (hrest : Stops inName rest) :
    tokenize (':' :: (name ++ rest)) = .param name :: tokenize rest := by
  rw [tokenize, takeWhile_append_of_stops hname hrest, dropWhile_append_of_stops hname hrest]
  simp

theorem tokenize_literal {text rest : List Char} (hne : text ≠ [])
    (htext : ∀ c ∈ text, inLiteral c = true) (hrest : Stops inLiteral rest) :
    tokenize (text ++ rest) = .literal text :: tokenize rest := by
  obtain ⟨c, tail, rfl⟩ := List.exists_cons_of_ne_nil hne
  have hc := inLiteral_eq_true.1 (htext c (by simp))
  have htail : ∀ d ∈ tail, inLiteral d = true := fun d hd => htext d (by simp [hd])
  rw [List.cons_append, tokenize, takeWhile_append_of_stops htail hrest,
    dropWhile_append_of_stops htail hrest]
  simp [hc.1, hc.2]

@[elab_as_elim]
theorem template_induction {motive : List Char → Prop} (template : List Char)
    (nil : motive [])
    (splat : ∀ rest, motive rest → motive ('*' :: rest))
    (param : ∀ name rest, (∀ c ∈ name, inName c = true) → Stops inName rest → motive rest →
      motive (':' :: (name ++ rest)))
    (literal : ∀ text rest, text ≠ [] → (∀ c ∈ text, inLiteral c = true) → Stops inLiteral rest →
      motive rest → motive (text ++ rest)) : motive template := by
  induction template using tokenize.induct with
  | case1 => exact nil
  | case2 rest ih => exact splat rest ih
  | case3 rest _ ih =>
    have h := param (rest.takeWhile inName) (rest.dropWhile inName)
      (fun _ hc => List.mem_takeWhile_imp hc) (stops_dropWhile inName rest) ih
    rwa [List.takeWhile_append_dropWhile] at h
  | case4 c rest hstar hcolon ih =>
    have htext : ∀ d ∈ c :: rest.takeWhile inLiteral, inLiteral d = true := by
      intro d hd
      rcases List.mem_cons.1 hd with rfl | hd
      · exact inLiteral_eq_true.2 ⟨hcolon, hstar⟩
      · exact List.mem_takeWhile_imp hd
    have h := literal (c :: rest.takeWhile inLiteral) (rest.dropWhile inLiteral) (by simp) htext
      (stops_dropWhile inLiteral rest) ih
    rwa [List.cons_append, List.takeWhile_append_dropWhile] at h

end Router.Template
