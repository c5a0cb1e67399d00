import Router.Proofs.Registry.Steps
import Router.Proofs.Scan.Cut

/-!
What a registry accepts. Every template fits itself: a parameter takes its own name, and a splat takes
the star. So the rule that a template accepts the path that is written like it never lets in a path
that the other rules keep out, and a registry with lenient options accepts what the template fits.
-/

set_option autoImplicit false
set_option relaxedAutoImplicit false

namespace Router

open Router.Template

theorem Template.cut_self (template : List Char) : Cut (tokenize template) template := by
  induction template using template_induction with
  | nil => simpa using cut_nil.2 rfl
  | splat rest ih =>
    rw [tokenize_splat, cut_splat]
    exact ⟨rest, List.suffix_cons '*' rest, ih⟩
  | param name rest hname hrest ih =>
    -- A name ends in front of a slash, so the parameter may take it with its colon.
    rw [tokenize_param hname hrest, cut_cons]
    refine ⟨':' :: name, rest, ?_, ih, rfl⟩
    intro hslash
    rcases List.mem_cons.1 hslash with h | h
    · exact absurd h (by decide)
    · exact absurd (hname '/' h) (by decide)
  | literal text rest hne htext hrest ih =>
    rw [tokenize_literal hne htext hrest, cut_literal]
    exact ⟨rest, ih, rfl⟩

theorem Template.fits_self (template : String) : fits template template = true :=
  fits_iff_cut.2 (cut_self _)

theorem Template.fits_star (path : String) : fits "*" path = true := by
  have hstar : dropFinalSlash "*".toList = ['*'] := by decide
  rw [fits_iff_cut, hstar, tokenize_splat, tokenize_nil, cut_splat]
  exact ⟨[], List.nil_suffix, cut_nil.2 rfl⟩

namespace Registry

variable {H : Type}

/-- The rules behind the two shortcuts: the options allow the slash at the end, and the template fits. -/
def Rules (r : Registry H) (e : Entry H) (path : String) : Prop :=
  Template.fits e.template path = true ∧
    (r.config.ignoreTrailingSlashes = true ∨ endsInSlash e.template = endsInSlash path)

theorem rules_self (r : Registry H) (e : Entry H) : r.Rules e e.template :=
  ⟨Template.fits_self e.template, .inr rfl⟩

theorem accepts_iff_rules (r : Registry H) (e : Entry H) (path : String) :
    r.accepts e path = true ↔ e.template = "*" ∨ r.Rules e path := by
  unfold accepts
  split
  · rename_i hshort
    rcases hshort with hstar | rfl
    · simp [hstar]
    · simp [rules_self]
  · rename_i hshort
    have hstar : e.template ≠ "*" := fun h => hshort (.inl h)
    rw [or_iff_right hstar, Rules]
    split
    · rename_i hstrict
      simp only [Bool.and_eq_true, Bool.not_eq_true', bne_iff_ne, ne_eq] at hstrict
      simp [hstrict]
    · rename_i hstrict
      simp only [Bool.and_eq_true, Bool.not_eq_true', bne_iff_ne, ne_eq, not_and_or,
        Bool.not_eq_false, not_not] at hstrict
      exact (and_iff_left hstrict).symm

theorem accepts_of_lenient {r : Registry H} (h : r.config.ignoreTrailingSlashes = true) (e : Entry H)
    (path : String) : r.accepts e path = Template.fits e.template path := by
  rw [Bool.eq_iff_iff, accepts_iff_rules, Rules]
  constructor
  · intro h
    rcases h with hstar | hrules
    · rw [hstar]
      exact Template.fits_star path
    · exact hrules.1
  · intro hfits
    exact .inr ⟨hfits, .inl h⟩

theorem candidates_sublist {r r' : Registry H} {method : Method} {path : String}
    (hentries : r.entries method = r'.entries method)
    (haccepts : ∀ e, r.accepts e path = true → r'.accepts e path = true) :
    (r.candidates method path).Sublist (r'.candidates method path) := by
  rw [candidates, candidates, hentries]
  exact List.monotone_filter_right _ haccepts

/-- A registry accepts what the template `*` or its rules accept. The shortcut for a path equal to the
template goes through the rules as well; under lenient options the rules are the template alone; and
what a strict registry finds, a lenient one with the same routes finds in the same order. -/
theorem accepts_iff_fits {H : Type} (engine : Engine) (r : Registry H) (e : Entry H) (path : String)
    (steps : List (Step H)) (method : Method) :
    (r.accepts e path = true ↔ e.template = "*" ∨ (Template.fits e.template path = true ∧
      (r.config.ignoreTrailingSlashes = true ∨ endsInSlash e.template = endsInSlash path))) ∧
    (e.template = path → Template.fits e.template path = true ∧
      endsInSlash e.template = endsInSlash path) ∧
    (r.config.ignoreTrailingSlashes = true → r.accepts e path = Template.fits e.template path) ∧
    (((withConfig ⟨false⟩).perform engine steps).candidates method path).Sublist
      (((withConfig ⟨true⟩).perform engine steps).candidates method path) := by
  refine ⟨accepts_iff_rules r e path, ?_, fun h => accepts_of_lenient h e path, ?_⟩
  · rintro rfl
    exact ⟨Template.fits_self e.template, rfl⟩
  · have hshelves : (withConfig ⟨false⟩ : Registry H).shelves = (withConfig ⟨true⟩).shelves := rfl
    have hentries := entries_perform engine hshelves steps method
    refine candidates_sublist hentries fun e he => ?_
    have hlenient : ((withConfig ⟨true⟩ : Registry H).perform engine steps).config = ⟨true⟩ :=
      perform_config engine _ steps
    rw [accepts_of_lenient (by rw [hlenient])]
    rcases (accepts_iff_rules _ e path).1 he with hstar | hrules
    · rw [hstar]
      exact Template.fits_star path
    · exact hrules.1

end Registry

end Router
