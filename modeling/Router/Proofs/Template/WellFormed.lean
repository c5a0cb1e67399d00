import Mathlib.Data.List.Chain
import Router.Proofs.Template.Tokens

/-!
Which token lists are the tokens of a template. In a well-formed list every token could have been read
where it stands: a literal goes on up to the next wildcard and a name up to the next slash, so neither
is followed by more of the same. Templates and well-formed token lists are the same thing: splitting
and writing back undo each other.
-/

set_option autoImplicit false
set_option relaxedAutoImplicit false

namespace Router.Template

/-- What a token may hold: literal text no mark of a wildcard, a name no slash. -/
def Token.Sound : Token → Prop
  | literal text => text ≠ [] ∧ ':' ∉ text ∧ '*' ∉ text
  | param name => '/' ∉ name
  | splat => True

/-- What may follow a token: no literal behind a literal, and behind a parameter only a literal that
begins with a slash. -/
def Token.Precedes : Token → Token → Prop
  | literal _, literal _ => False
  | literal _, _ => True
  | param _, literal text => text.head? = some '/'
  | param _, _ => False
  | splat, _ => True

/-- Every token could have been read where it stands. -/
structure WellFormed (tokens : List Token) : Prop where
  sound : ∀ t ∈ tokens, t.Sound
  adjacent : tokens.IsChain Token.Precedes

theorem wellFormed_nil : WellFormed [] := ⟨by simp, by simp⟩

theorem wellFormed_cons {t : Token} {ts : List Token} :
    WellFormed (t :: ts) ↔ t.Sound ∧ (∀ u ∈ ts.head?, t.Precedes u) ∧ WellFormed ts := by
  constructor
  · intro h
    obtain ⟨ht, hts⟩ := List.forall_mem_cons.1 h.sound
    obtain ⟨hhead, hchain⟩ := List.isChain_cons.1 h.adjacent
    exact ⟨ht, hhead, hts, hchain⟩
  · intro h
    obtain ⟨ht, hhead, hts⟩ := h
    exact ⟨List.forall_mem_cons.2 ⟨ht, hts.sound⟩, List.isChain_cons.2 ⟨hhead, hts.adjacent⟩⟩

theorem sound_literal_iff {text : List Char} :
    (Token.literal text).Sound ↔ text ≠ [] ∧ ∀ c ∈ text, inLiteral c = true := by
  simp only [Token.Sound, inLiteral_eq_true]
  refine and_congr_right fun _ => ?_
  constructor
  · intro h c hc
    exact ⟨fun heq => h.1 (heq ▸ hc), fun heq => h.2 (heq ▸ hc)⟩
  · intro h
    exact ⟨fun hc => (h _ hc).1 rfl, fun hc => (h _ hc).2 rfl⟩

theorem sound_param_iff {name : List Char} :
    (Token.param name).Sound ↔ ∀ c ∈ name, inName c = true := by
  simp only [Token.Sound, inName_eq_true]
  constructor
  · intro h c hc heq
    exact h (heq ▸ hc)
  · intro h hc
    exact h _ hc rfl

theorem write_tokenize (template : List Char) : write (tokenize template) = template := by
  induction template using template_induction with
  | nil => simp [write]
  | splat rest ih =>
    rw [tokenize_splat, write, List.flatMap_cons, ← write, ih]
    rfl
  | param name rest hname hrest ih =>
    rw [tokenize_param hname hrest, write, List.flatMap_cons, ← write, ih]
    rfl
  | literal text rest hne htext hrest ih =>
    rw [tokenize_literal hne htext hrest, write, List.flatMap_cons, ← write, ih]
    rfl

theorem isWildcard_head?_tokenize {rest : List Char} (hrest : Stops inLiteral rest) :
    ∀ u ∈ (tokenize rest).head?, u.isWildcard = true := by
  intro u hu
  cases rest with
  | nil => simp at hu
  | cons c rest =>
    have hc : ¬ (c ≠ ':' ∧ c ≠ '*') := by
      rw [← inLiteral_eq_true, stops_cons.1 hrest]
      simp
    rw [tokenize] at hu
    split_ifs at hu with hstar hcolon
    · obtain rfl : Token.splat = u := by simpa using hu
      rfl
    · obtain rfl : Token.param _ = u := by simpa using hu
      rfl
    · exact absurd ⟨hcolon, hstar⟩ hc

theorem precedes_head?_tokenize {rest : List Char} (hrest : Stops inName rest) (name : List Char) :
    ∀ u ∈ (tokenize rest).head?, (Token.param name).Precedes u := by
  intro u hu
  cases rest with
  | nil => simp at hu
  | cons c rest =>
    obtain rfl : c = '/' := by simpa [inName] using stops_cons.1 hrest
    rw [tokenize, if_neg (by decide), if_neg (by decide)] at hu
    obtain rfl : Token.literal _ = u := by simpa using hu
    rfl

theorem wellFormed_tokenize (template : List Char) : WellFormed (tokenize template) := by
  induction template using template_induction with
  | nil => rw [tokenize_nil]; exact wellFormed_nil
  | splat rest ih =>
    rw [tokenize_splat]
    exact wellFormed_cons.2 ⟨trivial, fun _ _ => trivial, ih⟩
  | param name rest hname hrest ih =>
    rw [tokenize_param hname hrest]
    exact wellFormed_cons.2 ⟨sound_param_iff.2 hname, precedes_head?_tokenize hrest name, ih⟩
  | literal text rest hne htext hrest ih =>
    rw [tokenize_literal hne htext hrest]
    refine wellFormed_cons.2 ⟨sound_literal_iff.2 ⟨hne, htext⟩, fun u hu => ?_, ih⟩
    have hwildcard := isWildcard_head?_tokenize hrest u hu
    cases u with
    | literal text => simp [Token.isWildcard] at hwildcard
    | param name => trivial
    | splat => trivial

theorem stops_inLiteral_write {text : List Char} {ts : List Token}
    (h : ∀ u ∈ ts.head?, (Token.literal text).Precedes u) : Stops inLiteral (write ts) := by
  cases ts with
  | nil => exact stops_nil inLiteral
  | cons u ts =>
    have hu := h u rfl
    cases u with
    | literal other => exact absurd hu id
    | param name => exact stops_cons.2 inLiteral_colon
    | splat => exact stops_cons.2 inLiteral_star

theorem stops_inName_write {name : List Char} {ts : List Token}
    (h : ∀ u ∈ ts.head?, (Token.param name).Precedes u) : Stops inName (write ts) := by
  cases ts with
  | nil => exact stops_nil inName
  | cons u ts =>
    have hu := h u rfl
    cases u with
    | literal text =>
      obtain ⟨tail, rfl⟩ := List.head?_eq_some_iff.1 hu
      exact stops_cons.2 inName_slash
    | param other => exact absurd hu id
    | splat => exact absurd hu id

theorem tokenize_write {tokens : List Token} (h : WellFormed tokens) :
    tokenize (write tokens) = tokens := by
  induction tokens with
  | nil => simp [write]
  | cons t ts ih =>
    obtain ⟨ht, hhead, hts⟩ := wellFormed_cons.1 h
    have hwrite : write (t :: ts) = t.write ++ write ts := by rw [write, List.flatMap_cons, ← write]
    rw [hwrite]
    cases t with
    | literal text =>
      obtain ⟨hne, htext⟩ := sound_literal_iff.1 ht
      rw [Token.write, tokenize_literal hne htext (stops_inLiteral_write hhead), ih hts]
    | param name =>
      rw [Token.write, List.cons_append,
        tokenize_param (sound_param_iff.1 ht) (stops_inName_write hhead), ih hts]
    | splat => rw [Token.write, List.singleton_append, tokenize_splat, ih hts]

theorem tokenize_injective : Function.Injective tokenize :=
  Function.LeftInverse.injective write_tokenize

/-- Templates and well-formed token lists correspond: the tokens of a template are well-formed and
write that template, and the token lists that are read back from what they write are the well-formed
ones. -/
theorem tokenize_write_iff_wellFormed :
    (∀ template, write (tokenize template) = template ∧ WellFormed (tokenize template)) ∧
    ∀ tokens, tokenize (write tokens) = tokens ↔ WellFormed tokens := by
  refine ⟨fun template => ⟨write_tokenize template, wellFormed_tokenize template⟩, fun tokens => ?_⟩
  constructor
  · intro h
    rw [← h]
    exact wellFormed_tokenize (write tokens)
  · exact tokenize_write

/-- A name takes colons and stars with it, but two literals in a row would be read as one. -/
example : tokenize (write [.param ":a*".toList, .literal ['/'], .splat, .splat]) =
      [.param ":a*".toList, .literal ['/'], .splat, .splat] ∧
    tokenize (write [.literal ['a'], .literal ['b']]) ≠ [.literal ['a'], .literal ['b']] := by
  decide +kernel

end Router.Template
