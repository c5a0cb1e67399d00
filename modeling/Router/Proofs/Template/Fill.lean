import Router.Proofs.Template.Pieces

/-!
Values for wildcards. `fill` puts one value after the other in place of the wildcards of a token list;
a token list cuts a path if values that its wildcards take fill it to the path.
-/

set_option autoImplicit false
set_option relaxedAutoImplicit false

namespace Router.Template

def wildcards (tokens : List Token) : List Token := tokens.filter Token.isWildcard

/-- The text with the values in place of the wildcards; a wildcard without a value is left out. -/
def fill : List Token → List (List Char) → List Char
  | [], _ => []
  | .literal text :: ts, values => text ++ fill ts values
  | _ :: ts, [] => fill ts []
  | _ :: ts, value :: values => value ++ fill ts values

@[simp] theorem wildcards_nil : wildcards [] = [] := rfl

@[simp] theorem wildcards_literal (text : List Char) (ts : List Token) :
    wildcards (.literal text :: ts) = wildcards ts := rfl

theorem Token.literal_or_isWildcard (t : Token) :
    (∃ text, t = literal text) ∨ t.isWildcard = true := by
  cases t <;> simp [Token.isWildcard]

theorem wildcards_cons {t : Token} (h : t.isWildcard = true) (ts : List Token) :
    wildcards (t :: ts) = t :: wildcards ts := List.filter_cons_of_pos h

theorem fill_cons {t : Token} (h : t.isWildcard = true) (ts : List Token) (value : List Char)
    (values : List (List Char)) : fill (t :: ts) (value :: values) = value ++ fill ts values := by
  cases t with
  | literal text => simp [Token.isWildcard] at h
  | param name => rfl
  | splat => rfl

/-- The values that fill the tokens to a text, one for each wildcard. -/
def Fills (tokens : List Token) (values : List (List Char)) (text : List Char) : Prop :=
  List.Forall₂ Token.Takes (wildcards tokens) values ∧ fill tokens values = text

theorem fills_nil {values : List (List Char)} {text : List Char} :
    Fills [] values text ↔ values = [] ∧ text = [] := by
  simp only [Fills, wildcards_nil, List.forall₂_nil_left_iff, fill]
  tauto

theorem fills_literal {text : List Char} {ts : List Token} {values : List (List Char)}
    {path : List Char} :
    Fills (.literal text :: ts) values path ↔ ∃ rest, Fills ts values rest ∧ text ++ rest = path := by
  simp [Fills, fill]

theorem fills_cons {t : Token} (ht : t.isWildcard = true) {ts : List Token}
    {values : List (List Char)} {path : List Char} :
    Fills (t :: ts) values path ↔ ∃ value more rest, values = value :: more ∧ t.Takes value ∧
      Fills ts more rest ∧ value ++ rest = path := by
  rw [Fills, wildcards_cons ht, List.forall₂_cons_left_iff]
  constructor
  · intro h
    obtain ⟨⟨value, more, htake, hmore, rfl⟩, rfl⟩ := h
    exact ⟨value, more, fill ts more, rfl, htake, ⟨hmore, rfl⟩, (fill_cons ht ts value more).symm⟩
  · intro h
    obtain ⟨value, more, rest, rfl, htake, ⟨hmore, rfl⟩, rfl⟩ := h
    exact ⟨⟨value, more, htake, hmore, rfl⟩, fill_cons ht ts value more⟩

theorem cut_iff_exists_fills {tokens : List Token} {path : List Char} :
    Cut tokens path ↔ ∃ values, Fills tokens values path := by
  induction tokens generalizing path with
  | nil => simp [cut_nil, fills_nil]
  | cons t ts ih =>
    rcases t.literal_or_isWildcard with ⟨text, rfl⟩ | ht
    · simp only [cut_literal, fills_literal, ih]
      constructor
      · intro h
        obtain ⟨rest, ⟨values, hvalues⟩, heq⟩ := h
        exact ⟨values, rest, hvalues, heq⟩
      · intro h
        obtain ⟨values, rest, hvalues, heq⟩ := h
        exact ⟨rest, ⟨values, hvalues⟩, heq⟩
    · simp only [cut_cons, fills_cons ht, ih]
      constructor
      · intro h
        obtain ⟨value, rest, htake, ⟨more, hmore⟩, heq⟩ := h
        exact ⟨value :: more, value, more, rest, rfl, htake, hmore, heq⟩
      · intro h
        obtain ⟨_, value, more, rest, -, htake, hmore, heq⟩ := h
        exact ⟨value, rest, htake, ⟨more, hmore⟩, heq⟩

end Router.Template
