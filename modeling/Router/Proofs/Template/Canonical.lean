import Mathlib.Data.List.Infix
import Router.Pattern
import Router.Proofs.Template.Tokens

/-!
Templates with single slashes and without one at the end. Making every run of slashes one slash, and
taking one slash off the end, change the literals of a template and no wildcard: runs of slashes lie in
one literal, and so does a final slash.
-/

set_option autoImplicit false
set_option relaxedAutoImplicit false

namespace Router.Template

open Router.Pattern

@[simp] theorem collapse_nil : collapse [] = [] := rfl

theorem collapse_cons_of_ne {c : Char} (hc : c ≠ '/') (rest : List Char) :
    collapse (c :: rest) = c :: collapse rest := by simp [collapse, hc]

theorem mem_of_mem_collapse {c : Char} {cs : List Char} (h : c ∈ collapse cs) : c ∈ cs := by
  induction cs with
  | nil => exact h
  | cons d cs ih =>
    rw [collapse] at h
    split at h
    · exact List.mem_cons_of_mem d (ih h)
    · rcases List.mem_cons.1 h with rfl | h
      · exact List.mem_cons_self
      · exact List.mem_cons_of_mem d (ih h)

theorem collapse_ne_nil {cs : List Char} (h : cs ≠ []) : collapse cs ≠ [] := by
  intro hnil
  have hhead := head?_collapse cs
  rw [hnil, List.head?_nil] at hhead
  exact h (List.head?_eq_none_iff.1 hhead.symm)

theorem collapse_append_of_forall_ne {name : List Char} (hname : ∀ c ∈ name, inName c = true)
    (rest : List Char) : collapse (name ++ rest) = name ++ collapse rest := by
  induction name with
  | nil => rfl
  | cons c name ih =>
    have hc : c ≠ '/' := inName_eq_true.1 (hname c List.mem_cons_self)
    rw [List.cons_append, collapse_cons_of_ne hc,
      ih fun d hd => hname d (List.mem_cons_of_mem c hd), List.cons_append]

theorem collapse_append {text rest : List Char} (hrest : rest.head? ≠ some '/') :
    collapse (text ++ rest) = collapse text ++ collapse rest := by
  induction text with
  | nil => rfl
  | cons c text ih =>
    have hhead : c = '/' ∧ (text ++ rest).head? = some '/' ↔
        c = '/' ∧ text.head? = some '/' := by
      cases text with
      | nil => simp [hrest]
      | cons d text => simp
    rw [List.cons_append, collapse, collapse, if_congr hhead rfl rfl, ih]
    split <;> rfl

theorem collapse_eq_self {cs : List Char} (h : ¬ ['/', '/'] <:+: cs) : collapse cs = cs := by
  induction cs with
  | nil => rfl
  | cons c cs ih =>
    rw [collapse, if_neg, ih fun hdoubled => h (List.infix_cons hdoubled)]
    intro h
    obtain ⟨rfl, hhead⟩ := h
    obtain ⟨cs, rfl⟩ := List.head?_eq_some_iff.1 hhead
    exact h ⟨[], cs, rfl⟩

def Token.collapse : Token → Token
  | literal text => literal (Pattern.collapse text)
  | param name => param name
  | splat => splat

theorem tokenize_collapse (template : List Char) :
    tokenize (Pattern.collapse template) = (tokenize template).map Token.collapse := by
  induction template using template_induction with
  | nil => simp
  | splat rest ih =>
    rw [collapse_cons_of_ne (by decide), tokenize_splat, tokenize_splat, ih]
    rfl
  | param name rest hname hrest ih =>
    have hstops : Stops inName (Pattern.collapse rest) := by rwa [Stops, head?_collapse]
    rw [collapse_cons_of_ne (by decide), collapse_append_of_forall_ne hname,
      tokenize_param hname hstops, tokenize_param hname hrest, ih]
    rfl
  | literal text rest hne htext hrest ih =>
    have hhead : rest.head? ≠ some '/' := by
      intro h
      exact absurd (hrest '/' h) (by decide)
    have hstops : Stops inLiteral (Pattern.collapse rest) := by rwa [Stops, head?_collapse]
    rw [collapse_append hhead,
      tokenize_literal (collapse_ne_nil hne) (fun c hc => htext c (mem_of_mem_collapse hc)) hstops,
      tokenize_literal hne htext hrest, ih]
    rfl

theorem dropFinalSlash_prefix_self (cs : List Char) : dropFinalSlash cs <+: cs := by
  unfold dropFinalSlash
  split
  · exact List.dropLast_prefix cs
  · exact List.prefix_rfl

theorem dropFinalSlash_of_ne {cs : List Char} (h : cs.getLast? ≠ some '/') :
    dropFinalSlash cs = cs := if_neg h

theorem dropFinalSlash_append {text rest : List Char} (h : rest ≠ []) :
    dropFinalSlash (text ++ rest) = text ++ dropFinalSlash rest := by
  rw [dropFinalSlash, dropFinalSlash, List.getLast?_append_of_ne_nil text h]
  split
  · exact List.dropLast_append_of_ne_nil h
  · rfl

/-- A slash that is shown as itself, and at the end of nothing else, is taken off before or after. -/
theorem dropFinalSlash_flatMap {f : Char → List Char} (hslash : f '/' = ['/'])
    (hne : ∀ c, f c ≠ []) (hlast : ∀ c, (f c).getLast? = some '/' → c = '/') (cs : List Char) :
    dropFinalSlash (cs.flatMap f) = (dropFinalSlash cs).flatMap f := by
  rcases List.eq_nil_or_concat cs with rfl | ⟨front, c, rfl⟩
  · rfl
  · rw [List.concat_eq_append, List.flatMap_append, List.flatMap_singleton]
    by_cases hc : c = '/'
    · subst hc
      rw [hslash, dropFinalSlash_append_slash, dropFinalSlash_append_slash]
    · rw [dropFinalSlash_append (hne c), dropFinalSlash_of_ne fun h => hc (hlast c h),
        dropFinalSlash_of_ne (by simpa using hc), List.flatMap_append, List.flatMap_singleton]

theorem dropFinalSlash_append_of_forall_ne {name : List Char}
    (hname : ∀ c ∈ name, inName c = true) (rest : List Char) :
    dropFinalSlash (name ++ rest) = name ++ dropFinalSlash rest := by
  by_cases hrest : rest = []
  · subst hrest
    rw [List.append_nil, show dropFinalSlash [] = [] by rfl, List.append_nil]
    refine dropFinalSlash_of_ne fun hlast => ?_
    exact absurd (hname '/' (List.mem_of_getLast? hlast)) (by decide)
  · exact dropFinalSlash_append hrest

theorem stops_dropFinalSlash {p : Char → Bool} {cs : List Char} (h : Stops p cs) :
    Stops p (dropFinalSlash cs) := by
  obtain ⟨rest, hrest⟩ := dropFinalSlash_prefix_self cs
  intro c hc
  refine h c ?_
  rw [← hrest]
  simp [Option.mem_def.1 hc]

/-- The tokens less one slash at the end of a literal in last place, which goes if it was only that. -/
def trimTokens : List Token → List Token
  | [] => []
  | [.literal text] => if dropFinalSlash text = [] then [] else [.literal (dropFinalSlash text)]
  | t :: ts => t :: trimTokens ts

theorem trimTokens_cons {t : Token} {ts : List Token} (h : ts ≠ []) :
    trimTokens (t :: ts) = t :: trimTokens ts := by
  cases t <;> simp [trimTokens, h]

theorem trimTokens_cons_of_isWildcard {t : Token} (h : t.isWildcard = true) (ts : List Token) :
    trimTokens (t :: ts) = t :: trimTokens ts := by
  cases t with
  | literal text => simp [Token.isWildcard] at h
  | param name => rfl
  | splat => rfl

theorem tokenize_ne_nil {cs : List Char} (h : cs ≠ []) : tokenize cs ≠ [] := by
  obtain ⟨c, cs, rfl⟩ := List.exists_cons_of_ne_nil h
  rw [tokenize]
  split_ifs <;> simp

theorem tokenize_dropFinalSlash (template : List Char) :
    tokenize (dropFinalSlash template) = trimTokens (tokenize template) := by
  induction template using template_induction with
  | nil => simp [dropFinalSlash, trimTokens]
  | splat rest ih =>
    have hdrop : dropFinalSlash ('*' :: rest) = '*' :: dropFinalSlash rest :=
      dropFinalSlash_append_of_forall_ne (List.forall_mem_singleton.2 (by decide)) rest
    rw [hdrop, tokenize_splat, tokenize_splat, ih, trimTokens_cons_of_isWildcard rfl]
  | param name rest hname hrest ih =>
    have hcolon : ∀ c ∈ ':' :: name, inName c = true :=
      List.forall_mem_cons.2 ⟨by decide, hname⟩
    rw [← List.cons_append, dropFinalSlash_append_of_forall_ne hcolon, List.cons_append,
      List.cons_append, tokenize_param hname (stops_dropFinalSlash hrest),
      tokenize_param hname hrest, ih, trimTokens_cons_of_isWildcard rfl]
  | literal text rest hne htext hrest ih =>
    rw [tokenize_literal hne htext hrest]
    by_cases hnil : rest = []
    · subst hnil
      rw [List.append_nil, tokenize_nil, trimTokens]
      split_ifs with hdrop
      · rw [hdrop, tokenize_nil]
      · have hsub : ∀ c ∈ dropFinalSlash text, inLiteral c = true :=
          fun c hc => htext c ((dropFinalSlash_prefix_self text).subset hc)
        simpa using tokenize_literal hdrop hsub (stops_nil inLiteral)
    · rw [dropFinalSlash_append hnil, tokenize_literal hne htext (stops_dropFinalSlash hrest), ih,
        trimTokens_cons (tokenize_ne_nil hnil)]

/-- The tokens of a template with single slashes and without one at the end. -/
def canonicalTokens (template : List Char) : List Token :=
  tokenize (dropFinalSlash (Pattern.collapse template))

theorem canonicalTokens_eq (template : List Char) :
    canonicalTokens template = trimTokens ((tokenize template).map Token.collapse) := by
  rw [canonicalTokens, tokenize_dropFinalSlash, tokenize_collapse]

theorem mem_of_mem_trimTokens {t : Token} {tokens : List Token} (h : t ∈ trimTokens tokens) :
    t ∈ tokens ∨ ∃ text, .literal text ∈ tokens ∧ t = .literal (dropFinalSlash text) := by
  induction tokens using trimTokens.induct with
  | case1 => exact .inl h
  | case2 text hdrop =>
    rw [trimTokens, if_pos hdrop] at h
    exact absurd h List.not_mem_nil
  | case3 text hdrop =>
    rw [trimTokens, if_neg hdrop] at h
    exact .inr ⟨text, List.mem_singleton_self _, List.mem_singleton.1 h⟩
  | case4 u tokens hnot ih =>
    have hcons : trimTokens (u :: tokens) = u :: trimTokens tokens := by
      rw [trimTokens]
      exact hnot
    rw [hcons] at h
    rcases List.mem_cons.1 h with rfl | h
    · exact .inl List.mem_cons_self
    · rcases ih h with h | ⟨text, hmem, heq⟩
      · exact .inl (List.mem_cons_of_mem u h)
      · exact .inr ⟨text, List.mem_cons_of_mem u hmem, heq⟩

theorem not_doubled_of_mem_trimTokens {f : Token → Token} {tokens : List Token} {text : List Char}
    (hf : ∀ t text, f t = .literal text → ¬ ['/', '/'] <:+: text)
    (h : .literal text ∈ trimTokens (tokens.map f)) : ¬ ['/', '/'] <:+: text := by
  rcases mem_of_mem_trimTokens h with hmem | ⟨whole, hmem, heq⟩
  · obtain ⟨t, -, ht⟩ := List.mem_map.1 hmem
    exact hf t text ht
  · obtain ⟨t, -, ht⟩ := List.mem_map.1 hmem
    obtain rfl : text = dropFinalSlash whole := Token.literal.inj heq
    exact fun hdoubled => hf t whole ht (hdoubled.trans (dropFinalSlash_prefix_self whole).isInfix)

theorem Token.not_doubled_collapse {t : Token} {text : List Char} (h : t.collapse = .literal text) :
    ¬ ['/', '/'] <:+: text := by
  cases t with
  | literal whole =>
    obtain rfl : Pattern.collapse whole = text := Token.literal.inj h
    exact Pattern.not_doubled_collapse whole
  | param name => cases h
  | splat => cases h

theorem not_doubled_of_mem_canonicalTokens {template text : List Char}
    (h : .literal text ∈ canonicalTokens template) : ¬ ['/', '/'] <:+: text := by
  rw [canonicalTokens_eq] at h
  exact not_doubled_of_mem_trimTokens (fun _ _ => Token.not_doubled_collapse) h

end Router.Template
