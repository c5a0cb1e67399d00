import Router.Pattern
import Router.Proofs.Template.Fill

/-!
Readings of a path. A reading gives a value to every wildcard of a token list. The patterns that capture
one kind of wildcard make the same reading and keep the values of that kind. A reading fills the tokens
to the path, or to the path less one slash at the end, and its first wildcard is the shortest for which
there is a reading at all, then the second, and so on.
-/

set_option autoImplicit false
set_option relaxedAutoImplicit false

namespace Router.Pattern

open Router.Template

/-- The part that stands for a token as it is, captured if the token is kept. -/
def Part.of (keep : Token → Bool) : Token → Part
  | .literal text => .literal text
  | .param name => .segment (keep (.param name))
  | .splat => .run (keep .splat)

/-- The values of all wildcards. -/
def reading (tokens : List Token) : List Char → Answer :=
  captures (tokens.map (Part.of fun _ => true))

/-- What the value of a wildcard may hold. -/
def holds : Token → Char → Bool
  | .param _ => inSegment
  | _ => fun _ => true

theorem takes_iff_holds {t : Token} (ht : t.isWildcard = true) {value : List Char} :
    t.Takes value ↔ ∀ c ∈ value, holds t c = true := by
  cases t with
  | literal text => simp [Token.isWildcard] at ht
  | param name =>
    simp only [Token.Takes, holds, inSegment, bne_iff_ne, ne_eq]
    constructor
    · rintro h c hc rfl
      exact h hc
    · intro h hslash
      exact h '/' hslash rfl
  | splat => simp [Token.Takes, holds]

theorem captures_of_wildcard {t : Token} (ht : t.isWildcard = true) (keep : Token → Bool)
    (rest : List Part) (path : List Char) : captures (Part.of keep t :: rest) path =
      shortest (holds t) (keep t) (captures rest) path := by
  cases t with
  | literal text => simp [Token.isWildcard] at ht
  | param name => rfl
  | splat => rfl

theorem reading_literal (text : List Char) (ts : List Token) (path : List Char) :
    reading (.literal text :: ts) path =
      if text.isPrefixOf path then reading ts (path.drop text.length) else none := rfl

theorem reading_cons {t : Token} (ht : t.isWildcard = true) (ts : List Token) (path : List Char) :
    reading (t :: ts) path = shortest (holds t) true (reading ts) path :=
  captures_of_wildcard ht _ _ _

variable {ok : Char → Bool} {f : List Char → Answer}

theorem shortest_eq_some {path : List Char} {values : List (List Char)}
    (h : shortest ok true f path = some values) :
    ∃ value rest more, values = value :: more ∧ value ++ rest = path ∧ (∀ c ∈ value, ok c = true) ∧
      f rest = some more ∧ ∀ n < value.length, f (path.drop n) = none := by
  induction path generalizing values with
  | nil =>
    rw [shortest] at h
    obtain ⟨more, hmore, rfl⟩ := Option.map_eq_some_iff.1 h
    exact ⟨[], [], more, rfl, rfl, by simp, hmore, by simp⟩
  | cons c path ih =>
    rw [shortest] at h
    split at h
    · rename_i more hmore
      obtain rfl := Option.some.inj h
      exact ⟨[], c :: path, more, rfl, rfl, by simp, hmore, by simp⟩
    · rename_i hnone
      split at h
      · rename_i hc
        obtain ⟨values', hvalues', rfl⟩ := Option.map_eq_some_iff.1 h
        obtain ⟨value, rest, more, rfl, rfl, hvalue, hmore, hleast⟩ := ih hvalues'
        refine ⟨c :: value, rest, more, rfl, rfl, List.forall_mem_cons.2 ⟨hc, hvalue⟩, hmore, ?_⟩
        intro n hn
        cases n with
        | zero => exact hnone
        | succ n => exact hleast n (by simpa using hn)
      · simp at h

theorem exists_shortest_eq_some {value rest : List Char} {more : List (List Char)}
    (hvalue : ∀ c ∈ value, ok c = true) (hmore : f rest = some more) :
    ∃ values, shortest ok true f (value ++ rest) = some values := by
  induction value with
  | nil =>
    rw [List.nil_append]
    cases rest with
    | nil => exact ⟨[] :: more, by simp [shortest, hmore, enter]⟩
    | cons c rest => exact ⟨[] :: more, by simp [shortest, hmore, enter]⟩
  | cons c value ih =>
    obtain ⟨hc, hvalue⟩ := List.forall_mem_cons.1 hvalue
    obtain ⟨values, hvalues⟩ := ih hvalue
    rw [List.cons_append, shortest]
    split
    · exact ⟨_, rfl⟩
    · rw [if_pos hc, hvalues]
      exact ⟨_, rfl⟩

/-- The values fill the tokens to the path, or to the path less one slash at its end. -/
def Assigns (tokens : List Token) (path : List Char) (values : List (List Char)) : Prop :=
  Fills tokens values path ∨ ∃ front, Fills tokens values front ∧ front ++ ['/'] = path

theorem assigns_nil {path : List Char} {values : List (List Char)} :
    Assigns [] path values ↔ values = [] ∧ (path = [] ∨ path = ['/']) := by
  simp only [Assigns, fills_nil]
  constructor
  · rintro (⟨rfl, rfl⟩ | ⟨_, ⟨rfl, rfl⟩, rfl⟩) <;> simp
  · intro h
    rcases h with ⟨rfl, rfl | rfl⟩
    · exact .inl ⟨rfl, rfl⟩
    · exact .inr ⟨[], ⟨rfl, rfl⟩, rfl⟩

theorem assigns_literal {text : List Char} {ts : List Token} {path : List Char}
    {values : List (List Char)} : Assigns (.literal text :: ts) path values ↔
      ∃ rest, Assigns ts rest values ∧ text ++ rest = path := by
  simp only [Assigns, fills_literal]
  constructor
  · intro h
    rcases h with ⟨rest, hrest, rfl⟩ | ⟨_, ⟨rest, hrest, rfl⟩, rfl⟩
    · exact ⟨rest, .inl hrest, rfl⟩
    · exact ⟨rest ++ ['/'], .inr ⟨rest, hrest, rfl⟩, by simp⟩
  · intro h
    rcases h with ⟨_, hrest | ⟨rest, hrest, rfl⟩, rfl⟩
    · exact .inl ⟨_, hrest, rfl⟩
    · exact .inr ⟨text ++ rest, ⟨rest, hrest, rfl⟩, by simp⟩

theorem assigns_cons {t : Token} (ht : t.isWildcard = true) {ts : List Token} {path : List Char}
    {values : List (List Char)} : Assigns (t :: ts) path values ↔
      ∃ value more rest, values = value :: more ∧ t.Takes value ∧ Assigns ts rest more ∧
        value ++ rest = path := by
  simp only [Assigns, fills_cons ht]
  constructor
  · intro h
    rcases h with ⟨value, more, rest, rfl, htake, hrest, rfl⟩ |
      ⟨_, ⟨value, more, rest, rfl, htake, hrest, rfl⟩, rfl⟩
    · exact ⟨value, more, rest, rfl, htake, .inl hrest, rfl⟩
    · exact ⟨value, more, rest ++ ['/'], rfl, htake, .inr ⟨rest, hrest, rfl⟩, by simp⟩
  · intro h
    rcases h with ⟨value, more, _, rfl, htake, hrest | ⟨rest, hrest, rfl⟩, rfl⟩
    · exact .inl ⟨value, more, _, rfl, htake, hrest, rfl⟩
    · exact .inr ⟨value ++ rest, ⟨value, more, rest, rfl, htake, hrest, rfl⟩, by simp⟩

theorem assigns_of_reading {tokens : List Token} {path : List Char} {values : List (List Char)}
    (h : reading tokens path = some values) : Assigns tokens path values := by
  induction tokens generalizing path values with
  | nil =>
    rw [assigns_nil]
    simp only [reading, List.map_nil, captures, atEnd] at h
    split at h
    · rename_i hend
      exact ⟨(Option.some.inj h).symm, hend⟩
    · simp at h
  | cons t ts ih =>
    rcases t.literal_or_isWildcard with ⟨text, rfl⟩ | ht
    · rw [reading_literal] at h
      split at h
      · rename_i hpre
        obtain ⟨rest, rfl⟩ := List.isPrefixOf_iff_prefix.1 hpre
        rw [List.drop_left] at h
        exact assigns_literal.2 ⟨rest, ih h, rfl⟩
      · simp at h
    · rw [reading_cons ht] at h
      obtain ⟨value, rest, more, rfl, rfl, hvalue, hmore, -⟩ := shortest_eq_some h
      exact (assigns_cons ht).2 ⟨value, more, rest, rfl, (takes_iff_holds ht).2 hvalue, ih hmore, rfl⟩

/-- Where values can be assigned there is a reading, and every other assignment has a longer value at
the first wildcard where the lengths differ. -/
theorem exists_reading_of_assigns {tokens : List Token} {path : List Char}
    {others : List (List Char)} (h : Assigns tokens path others) :
    ∃ values, reading tokens path = some values ∧
      (others = values ∨ values.map List.length < others.map List.length) := by
  induction tokens generalizing path others with
  | nil =>
    obtain ⟨rfl, hend⟩ := assigns_nil.1 h
    exact ⟨[], by simp [reading, captures, atEnd, hend], .inl rfl⟩
  | cons t ts ih =>
    rcases t.literal_or_isWildcard with ⟨text, rfl⟩ | ht
    · obtain ⟨rest, hrest, rfl⟩ := assigns_literal.1 h
      rw [reading_literal, if_pos (by simp), List.drop_left]
      exact ih hrest
    · obtain ⟨other, others, back, rfl, htake, hback, rfl⟩ := (assigns_cons ht).1 h
      -- The rest can be read behind `other`, so the shortest front is no longer than `other`.
      obtain ⟨more, hmore, hleast⟩ := ih hback
      rw [reading_cons ht]
      obtain ⟨values, hvalues⟩ := exists_shortest_eq_some ((takes_iff_holds ht).1 htake) hmore
      refine ⟨values, hvalues, ?_⟩
      obtain ⟨value, rest, more', rfl, heq, -, hmore', hshort⟩ := shortest_eq_some hvalues
      rw [List.map_cons, List.map_cons, List.cons_lt_cons_iff]
      rcases Nat.lt_trichotomy value.length other.length with hlt | hlen | hlt
      · exact .inr (.inl hlt)
      · obtain ⟨rfl, rfl⟩ := List.append_inj heq hlen
        obtain rfl : more' = more := Option.some.inj (hmore'.symm.trans hmore)
        rcases hleast with rfl | hlt
        · exact .inl rfl
        · exact .inr (.inr ⟨rfl, hlt⟩)
      · have hnone := hshort other.length hlt
        rw [List.drop_left, hmore] at hnone
        simp at hnone

def select (keep : Token → Bool) (wildcards : List Token) (values : List (List Char)) :
    List (List Char) :=
  ((wildcards.zip values).filter fun e => keep e.1).map Prod.snd

theorem length_select {keep : Token → Bool} {wildcards : List Token} {values : List (List Char)}
    (h : List.Forall₂ Token.Takes wildcards values) :
    (select keep wildcards values).length = wildcards.countP keep := by
  induction h with
  | nil => rfl
  | @cons t value ts values _ _ ih =>
    rw [List.countP_cons, ← ih]
    cases hkeep : keep t <;> simp [select, hkeep]

theorem exists_takes_of_mem_select {keep : Token → Bool} {wildcards : List Token}
    {values : List (List Char)} {value : List Char} (h : List.Forall₂ Token.Takes wildcards values)
    (hvalue : value ∈ select keep wildcards values) :
    ∃ t, keep t = true ∧ t.Takes value := by
  obtain ⟨⟨t, value⟩, hmem, rfl⟩ := List.mem_map.1 hvalue
  obtain ⟨hzip, hkeep⟩ := List.mem_filter.1 hmem
  exact ⟨t, hkeep, List.forall₂_zip h hzip⟩

private theorem shortest_map {captured : Bool} {g h : List (List Char) → List (List Char)}
    (hnil : h [] = [])
    (hcons : ∀ value values, h (value :: values) =
      if captured then value :: g values else g values) (path : List Char) :
    shortest ok captured (fun rest => (f rest).map g) path = (shortest ok true f path).map h := by
  have henter : ∀ values, enter captured (g values) = h (enter true values) := by
    intro values
    rw [enter, enter, if_pos rfl, hcons]
  have hextend : ∀ c values, extend captured c (h values) = h (extend true c values) := by
    intro c values
    cases values with
    | nil => cases captured <;> simp [extend, hnil]
    | cons value values => cases captured <;> simp [extend, hcons]
  induction path with
  | nil => simp [shortest, Function.comp_def, henter]
  | cons c path ih =>
    rw [shortest, shortest, ih]
    cases f (c :: path) with
    | some values => simp [henter]
    | none =>
      cases ok c with
      | false => simp
      | true => simp [Function.comp_def, hextend]

theorem captures_eq_select (keep : Token → Bool) (tokens : List Token) (path : List Char) :
    captures (tokens.map (Part.of keep)) path =
      (reading tokens path).map (select keep (wildcards tokens)) := by
  induction tokens generalizing path with
  | nil =>
    simp only [reading, List.map_nil, captures, atEnd]
    split <;> rfl
  | cons t ts ih =>
    rcases t.literal_or_isWildcard with ⟨text, rfl⟩ | ht
    · rw [reading_literal, List.map_cons, Part.of, captures, wildcards_literal]
      split
      · exact ih _
      · rfl
    · rw [List.map_cons, captures_of_wildcard ht, reading_cons ht, wildcards_cons ht, funext ih]
      refine shortest_map (by simp [select]) (fun value values => ?_) path
      cases hkeep : keep t <;> simp [select, hkeep]

end Router.Pattern
