import Router.Proofs.Scan.Reads

/-!
The turns of the loop. `Leads` lists all that one turn can do, and the bounds on the cursors and the
progress of the loop are read off it. A turn either lets the remembered splat take more of the path or
leaves what it has taken and moves on in the template, so no run is longer than `bound`.
-/

set_option autoImplicit false
set_option relaxedAutoImplicit false

namespace Router.Template.Scan

/-- The next byte of the template is no mark and not the next byte of the path, or the template ends
before the path. -/
def Stuck (template path : Bytes) (c : Cursor) : Prop :=
  match template[c.template]? with
  | none => c.path ≠ path.size
  | some b => b ≠ star ∧ b ≠ colon ∧ path[c.path]? ≠ some b

/-- All that one turn can lead to, each with its occasion. -/
inductive Leads (template path : Bytes) (c : Cursor) : Turn → Prop
  | atEnd : template[c.template]? = none → c.path = path.size → Leads template path c (.halt true)
  | lastSplat : template[c.template]? = some star → c.template + 1 = template.size →
      Leads template path c (.halt true)
  | splat : template[c.template]? = some star → c.template + 1 ≠ template.size →
      Leads template path c (.move ⟨c.template + 1, c.path, some ⟨c.template + 1, c.path⟩⟩)
  | param : template[c.template]? = some colon →
      Leads template path c
        (.move ⟨nextSlash template c.template, nextSlash path c.path, c.splat⟩)
  | byte (b : UInt8) : template[c.template]? = some b → b ≠ star → b ≠ colon →
      path[c.path]? = some b →
      Leads template path c (.move ⟨c.template + 1, c.path + 1, c.splat⟩)
  | retry (r : Resume) : Stuck template path c → c.splat = some r → r.start < path.size →
      Leads template path c (.move ⟨r.after, r.start + 1, some ⟨r.after, r.start + 1⟩⟩)
  | fail : Stuck template path c → (∀ r, c.splat = some r → path.size ≤ r.start) →
      Leads template path c (.halt false)

variable {template path : Bytes} {c next : Cursor}

private theorem leads_retry (h : Stuck template path c) :
    Leads template path c (retry path c.splat) := by
  cases hsplat : c.splat with
  | none => exact .fail h (by simp [hsplat])
  | some r =>
    rw [retry]
    split
    · rename_i hlt
      exact .retry r h hsplat hlt
    · rename_i hle
      refine .fail h fun r' hr' => ?_
      obtain rfl : r = r' := Option.some.inj (hsplat.symm.trans hr')
      omega

theorem leads_step (template path : Bytes) (c : Cursor) :
    Leads template path c (step template path c) := by
  unfold step
  cases ht : template[c.template]? with
  | none =>
    by_cases hp : c.path = path.size
    · simpa [hp] using Leads.atEnd ht hp
    · simpa [hp] using leads_retry (by simpa [Stuck, ht] using hp)
  | some b =>
    by_cases hstar : b = star
    · subst hstar
      by_cases hlast : c.template + 1 = template.size
      · simpa [hlast] using Leads.lastSplat ht hlast
      · simpa [hlast] using Leads.splat ht hlast
    · by_cases hcolon : b = colon
      · subst hcolon
        simpa [colon_ne_star] using Leads.param ht
      · by_cases hp : path[c.path]? = some b
        · simpa [hstar, hcolon, hp] using Leads.byte b ht hstar hcolon hp
        · simpa [hstar, hcolon, hp] using leads_retry (by simp [Stuck, ht, hstar, hcolon, hp])

theorem leads_of_step {turn : Turn} (h : step template path c = turn) :
    Leads template path c turn := h ▸ leads_step template path c

/-- The cursors lie in their texts, and the remembered splat lies behind them. -/
structure Within (template path : Bytes) (c : Cursor) : Prop where
  template_le : c.template ≤ template.size
  path_le : c.path ≤ path.size
  after_le : ∀ r, c.splat = some r → r.after ≤ c.template
  start_le : ∀ r, c.splat = some r → r.start ≤ c.path

theorem within_start (template path : Bytes) : Within template path start :=
  ⟨Nat.zero_le _, Nat.zero_le _, by simp [start], by simp [start]⟩

private theorem lt_size_of_getElem? {bytes : Bytes} {i : Nat} {b : UInt8}
    (h : bytes[i]? = some b) : i < bytes.size :=
  (Array.getElem?_eq_some_iff.1 h).1

theorem within_step (hc : Within template path c) (h : step template path c = .move next) :
    Within template path next := by
  cases leads_of_step h with
  | splat ht _ =>
    have := lt_size_of_getElem? ht
    exact ⟨this, hc.path_le, by rintro r ⟨⟩; exact Nat.le_refl _, by rintro r ⟨⟩; exact Nat.le_refl _⟩
  | param ht =>
    exact ⟨nextSlash_le _ _, nextSlash_le _ _,
      fun r hr => Nat.le_trans (hc.after_le r hr) (le_nextSlash hc.template_le),
      fun r hr => Nat.le_trans (hc.start_le r hr) (le_nextSlash hc.path_le)⟩
  | byte b ht _ _ hp =>
    exact ⟨lt_size_of_getElem? ht, lt_size_of_getElem? hp,
      fun r hr => Nat.le_trans (hc.after_le r hr) (Nat.le_succ _),
      fun r hr => Nat.le_trans (hc.start_le r hr) (Nat.le_succ _)⟩
  | retry r _ hr hlt =>
    exact ⟨Nat.le_trans (hc.after_le r hr) hc.template_le, hlt, by rintro r' ⟨⟩; exact Nat.le_refl _,
      by rintro r' ⟨⟩; exact Nat.le_refl _⟩

/-- The path index up to which the remembered splat has taken the path; zero before the first splat. -/
def Cursor.taken (c : Cursor) : Nat :=
  match c.splat with
  | none => 0
  | some r => r.start

theorem Within.taken_le (hc : Within template path c) : c.taken ≤ c.path := by
  cases hsplat : c.splat with
  | none => simp [Cursor.taken, hsplat]
  | some r => simpa [Cursor.taken, hsplat] using hc.start_le r hsplat

theorem taken_lt_or_template_lt (hc : Within template path c)
    (h : step template path c = .move next) :
    c.taken < next.taken ∨ c.taken = next.taken ∧ c.template < next.template := by
  cases leads_of_step h with
  | splat _ _ =>
    rcases Nat.lt_or_eq_of_le hc.taken_le with hlt | heq
    · exact .inl hlt
    · exact .inr ⟨heq, Nat.lt_succ_self _⟩
  | param ht => exact .inr ⟨rfl, lt_nextSlash ht colon_ne_slash⟩
  | byte _ _ _ _ _ => exact .inr ⟨rfl, Nat.lt_succ_self _⟩
  | retry r _ hr _ => exact .inl (by simp [Cursor.taken, hr])

/-- What the splat has taken, and next to it how far the template is read. -/
def progress (template : Bytes) (c : Cursor) : Nat := c.taken * (template.size + 1) + c.template

theorem progress_lt (hc : Within template path c) (h : step template path c = .move next) :
    progress template c < progress template next := by
  have ht := hc.template_le
  unfold progress
  rcases taken_lt_or_template_lt hc h with hlt | ⟨heq, hlt⟩
  · have hmul : (c.taken + 1) * (template.size + 1) ≤ next.taken * (template.size + 1) :=
      Nat.mul_le_mul_right _ hlt
    rw [Nat.add_one_mul] at hmul
    omega
  · rw [heq]
    omega

theorem progress_lt_bound (hc : Within template path c) :
    progress template c < bound template path := by
  have ht := hc.template_le
  have hmul : c.taken * (template.size + 1) ≤ path.size * (template.size + 1) :=
    Nat.mul_le_mul_right _ (Nat.le_trans hc.taken_le hc.path_le)
  rw [progress, bound, Nat.mul_comm (template.size + 1), Nat.add_one_mul]
  omega

/-- A run that has as many turns left as the bound leaves to its progress comes to an answer. -/
theorem exists_run_eq_some {turns : Nat} (hc : Within template path c)
    (h : bound template path ≤ turns + progress template c) :
    ∃ fits, run template path turns c = some fits := by
  induction turns generalizing c with
  | zero =>
    have := progress_lt_bound hc
    omega
  | succ turns ih =>
    rw [run]
    cases hstep : step template path c with
    | halt fits => exact ⟨fits, rfl⟩
    | move next =>
      have := progress_lt hc hstep
      exact ih (within_step hc hstep) (by omega)

end Router.Template.Scan
