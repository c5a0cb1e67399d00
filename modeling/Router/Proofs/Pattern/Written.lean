import Router.Proofs.Template.Canonical
import Router.Proofs.Template.WellFormed
import Router.Proofs.Text

/-!
What the written form of a pattern shows. It is the template without the names of its parameters, with
single slashes and without a slash at its end, in a code of its own: a wildcard is written as a fragment
that begins with a special character, and literal text shows a special character only behind a backslash.
So nothing of literal text is taken for a wildcard, and templates with the same written form differ only
in names, runs of slashes and a final slash.
-/

set_option autoImplicit false
set_option relaxedAutoImplicit false

namespace Router.Template

def Token.unnamed : Token → Token
  | literal text => literal text
  | param _ => param []
  | splat => splat

/-- The tokens without names, with single slashes and without a slash at the end. -/
def skeleton (tokens : List Token) : List Token :=
  trimTokens (tokens.map fun t => t.collapse.unnamed)

theorem Token.Sound.unnamed_collapse {t : Token} (h : t.Sound) : t.collapse.unnamed.Sound := by
  cases t with
  | literal text =>
    obtain ⟨hne, htext⟩ := sound_literal_iff.1 h
    exact sound_literal_iff.2 ⟨collapse_ne_nil hne, fun c hc => htext c (mem_of_mem_collapse hc)⟩
  | param name => simp [Token.collapse, Token.unnamed, Token.Sound]
  | splat => trivial

theorem Token.Precedes.unnamed_collapse {t u : Token} (h : t.Precedes u) :
    t.collapse.unnamed.Precedes u.collapse.unnamed := by
  cases t with
  | literal text => cases u <;> exact h
  | param name =>
    cases u with
    | literal text => exact (Pattern.head?_collapse text).trans h
    | param other => exact h
    | splat => exact h
  | splat => trivial

theorem WellFormed.map_unnamed_collapse {tokens : List Token} (h : WellFormed tokens) :
    WellFormed (tokens.map fun t => t.collapse.unnamed) := by
  constructor
  · exact List.forall_mem_map.2 fun t ht => (h.sound t ht).unnamed_collapse
  · rw [List.isChain_map]
    exact h.adjacent.imp fun _ _ => Token.Precedes.unnamed_collapse

theorem tokenize_dropFinalSlash_write {tokens : List Token} (h : WellFormed tokens) :
    tokenize (dropFinalSlash (write (tokens.map fun t => t.collapse.unnamed))) = skeleton tokens := by
  rw [tokenize_dropFinalSlash, tokenize_write h.map_unnamed_collapse, skeleton]

theorem not_doubled_of_mem_skeleton {tokens : List Token} {text : List Char}
    (h : .literal text ∈ skeleton tokens) : ¬ ['/', '/'] <:+: text := by
  refine not_doubled_of_mem_trimTokens (fun t text ht => ?_) h
  cases t with
  | literal whole =>
    obtain rfl : Pattern.collapse whole = text := Token.literal.inj ht
    exact Pattern.not_doubled_collapse whole
  | param name => cases ht
  | splat => cases ht

end Router.Template

namespace Router.Pattern

open Router.Template Router.Text

/-- How a pattern shows one character of a template without names. -/
def showChar (capture : Capture) (c : Char) : List Char :=
  if c = ':' then (Part.segment (capture = .params)).write
  else if c = '*' then (Part.run (capture = .splats)).write
  else if c ∈ special then ['\\', c]
  else [c]

theorem showChar_of_inLiteral (capture : Capture) {c : Char} (h : inLiteral c = true) :
    showChar capture c = if c ∈ special then ['\\', c] else [c] := by
  obtain ⟨hcolon, hstar⟩ := inLiteral_eq_true.1 h
  rw [showChar, if_neg hcolon, if_neg hstar]

/-- The character that a shown text begins with. -/
def firstShown? (capture : Capture) : List Char → Option Char
  | [] => none
  | x :: text =>
    if x = '\\' then text.head?
    else if x ∈ special then
      if (showChar capture ':').head? = some x then some ':' else some '*'
    else some x

theorem firstShown?_append (capture : Capture) (c : Char) (text : List Char) :
    firstShown? capture (showChar capture c ++ text) = some c := by
  by_cases hcolon : c = ':'
  · subst hcolon
    cases capture <;> rfl
  by_cases hstar : c = '*'
  · subst hstar
    cases capture <;> rfl
  rw [showChar_of_inLiteral capture (inLiteral_eq_true.2 ⟨hcolon, hstar⟩)]
  by_cases hspecial : c ∈ special
  · simp [hspecial, firstShown?]
  · have hbackslash : c ≠ '\\' := by
      rintro rfl
      exact hspecial (by decide)
    simp [hspecial, hbackslash, firstShown?]

theorem showChar_ne_nil (capture : Capture) (c : Char) : showChar capture c ≠ [] := by
  intro hnil
  have hfirst := firstShown?_append capture c []
  rw [hnil] at hfirst
  simp [firstShown?] at hfirst

theorem prefixCode_showChar (capture : Capture) : PrefixCode (showChar capture) := by
  refine ⟨showChar_ne_nil capture, fun c d s t h => ?_⟩
  have hfirst := firstShown?_append capture c s
  rw [h, firstShown?_append] at hfirst
  exact (Option.some.inj hfirst).symm

theorem getLast?_showChar (capture : Capture) (c : Char) :
    (showChar capture c).getLast? = some '/' ↔ c = '/' := by
  by_cases hcolon : c = ':'
  · subst hcolon
    cases capture <;> decide
  by_cases hstar : c = '*'
  · subst hstar
    cases capture <;> decide
  rw [showChar_of_inLiteral capture (inLiteral_eq_true.2 ⟨hcolon, hstar⟩)]
  split <;> simp

theorem dropFinalSlash_flatMap_showChar (capture : Capture) (cs : List Char) :
    dropFinalSlash (cs.flatMap (showChar capture)) =
      (dropFinalSlash cs).flatMap (showChar capture) := by
  refine dropFinalSlash_flatMap ?_ (showChar_ne_nil capture)
    (fun c h => (getLast?_showChar capture c).1 h) cs
  cases capture <;> rfl

theorem escape_eq_flatMap (capture : Capture) {text : List Char}
    (h : ∀ c ∈ text, inLiteral c = true) : escape text = text.flatMap (showChar capture) := by
  rw [escape]
  exact List.flatMap_congr fun c hc => (showChar_of_inLiteral capture (h c hc)).symm

theorem write_ofToken (capture : Capture) {t : Token} (h : t.Sound) :
    (Part.ofToken capture t).write = t.collapse.unnamed.write.flatMap (showChar capture) := by
  cases t with
  | literal text =>
    have htext : ∀ c ∈ collapse text, inLiteral c = true :=
      fun c hc => (sound_literal_iff.1 h).2 c (mem_of_mem_collapse hc)
    exact escape_eq_flatMap capture htext
  | param name => exact (List.append_nil _).symm
  | splat => exact (List.append_nil _).symm

theorem flatMap_write_ofTokens (capture : Capture) {tokens : List Token}
    (h : ∀ t ∈ tokens, t.Sound) :
    (ofTokens capture tokens).parts.flatMap Part.write =
      (write (tokens.map fun t => t.collapse.unnamed)).flatMap (showChar capture) := by
  rw [ofTokens, write, List.flatMap_map, List.flatMap_map, List.flatMap_assoc]
  exact List.flatMap_congr fun t ht => write_ofToken capture (h t ht)

theorem text_eq_iff {p q : Pattern} :
    p.text = q.text ↔ dropFinalSlash (p.parts.flatMap Part.write) =
      dropFinalSlash (q.parts.flatMap Part.write) := by
  rw [text, text]
  constructor
  · intro h
    have hlist := congrArg String.toList h
    simpa using hlist
  · intro h
    rw [h]

/-- Two templates have the same written pattern exactly if they agree up to the names of parameters,
runs of slashes and a slash at the end, whichever kind of wildcard is captured. -/
theorem text_ofTokens_eq_iff (capture : Capture) (s t : String) :
    ((ofTokens capture (tokenize s.toList)).text = (ofTokens capture (tokenize t.toList)).text ↔
      skeleton (tokenize s.toList) = skeleton (tokenize t.toList)) ∧
    ∀ text, .literal text ∈ skeleton (tokenize s.toList) → ¬ ['/', '/'] <:+: text := by
  refine ⟨?_, fun text => not_doubled_of_mem_skeleton⟩
  have hs := wellFormed_tokenize s.toList
  have ht := wellFormed_tokenize t.toList
  rw [text_eq_iff, flatMap_write_ofTokens capture hs.sound, flatMap_write_ofTokens capture ht.sound,
    dropFinalSlash_flatMap_showChar, dropFinalSlash_flatMap_showChar,
    ← tokenize_dropFinalSlash_write hs,
    ← tokenize_dropFinalSlash_write ht]
  exact (prefixCode_showChar capture).flatMap_injective.eq_iff.trans tokenize_injective.eq_iff.symm

/-- A doubled slash, a name and a final slash make no difference; literal text that looks like a segment does. -/
theorem text_ofTokens_eq_iff_doubled :
    (ofTokens .params (tokenize "/a//:id/".toList)).text =
        (ofTokens .params (tokenize "/a/:x".toList)).text ∧
      (ofTokens .params (tokenize "/a/:x".toList)).text ≠
        (ofTokens .params (tokenize "/a/([^/]".toList)).text ∧
      .literal ['/', 'a', '/'] ∈ skeleton (tokenize "/a//:id/".toList) ∧
      ¬ ['/', '/'] <:+: ['/', 'a', '/'] := by
  have hliteral : .literal ['/', 'a', '/'] ∈ skeleton (tokenize "/a//:id/".toList) := by
    decide +kernel
  obtain ⟨hsame, hsingle⟩ := text_ofTokens_eq_iff .params "/a//:id/" "/a/:x"
  obtain ⟨hother, -⟩ := text_ofTokens_eq_iff .params "/a/:x" "/a/([^/]"
  exact ⟨hsame.2 (by decide +kernel), mt hother.1 (by decide +kernel), hliteral,
    hsingle _ hliteral⟩

example : (ofTokens .params (tokenize "/a//:id/".toList)).text = "(?s)^/a/([^/]*?)/?$" ∧
    (ofTokens .params (tokenize "/a/([^/]".toList)).text = "(?s)^/a/\\(\\[\\^/\\]/?$" := by
  decide +kernel

end Router.Pattern
