import Router.Proofs.Scan.Turns

/-!
The loop reads what the template reads. A cursor has hopes if the template reads the path from here on,
or from the remembered splat on with more of the path taken. Every turn keeps the hopes as they are.
The one turn that gives up an earlier splat is the one that meets a new splat: what lies between the
two goes through literals and whole segments, so it never ends earlier in the path when it begins
later, and what the earlier splat could still take the new one can take. `Carries` is this fact about a
cursor.
-/

set_option autoImplicit false
set_option relaxedAutoImplicit false

namespace Router.Template.Scan

/-- The path can be read from here on, or with more of it taken by the remembered splat. -/
def Hopes (template path : Bytes) (c : Cursor) : Prop :=
  ReadsAt template path c.template c.path ∨
    ∃ r q, c.splat = some r ∧ r.start < q ∧ q ≤ path.size ∧ ReadsAt template path r.after q

/-- However much the remembered splat takes, the template is then read at the cursor from a place in
the path that does not lie in front of the cursor. -/
def Carries (template path : Bytes) (c : Cursor) : Prop :=
  ∀ r q, c.splat = some r → r.start ≤ q → q ≤ path.size → ReadsAt template path r.after q →
    ∃ q', c.path ≤ q' ∧ q' ≤ path.size ∧ ReadsAt template path c.template q'

variable {template path : Bytes} {c next : Cursor}

theorem not_readsAt_of_stuck (hc : Within template path c) (h : Stuck template path c) :
    ¬ ReadsAt template path c.template c.path := by
  intro hreads
  unfold Stuck at h
  split at h
  · rename_i ht
    exact h ((readsAt_end ht hc.path_le).1 hreads)
  · rename_i b ht
    obtain ⟨hstar, hcolon, hne⟩ := h
    exact hne ((readsAt_byte ht hstar hcolon).1 hreads).1

theorem carries_start (template path : Bytes) : Carries template path start := by
  intro r q hr
  simp [start] at hr

private theorem carries_at_splat {t p : Nat} :
    Carries template path ⟨t, p, some ⟨t, p⟩⟩ := by
  rintro r q ⟨⟩ hq hsize hreads
  exact ⟨q, hq, hsize, hreads⟩

theorem carries_step (h : Carries template path c)
    (hstep : step template path c = .move next) : Carries template path next := by
  cases leads_of_step hstep with
  | splat _ _ => exact carries_at_splat
  | retry r _ _ _ => exact carries_at_splat
  | param ht =>
    intro r q hr hq hsize hreads
    obtain ⟨q', hq', hsize', hreads'⟩ := h r q hr hq hsize hreads
    exact ⟨nextSlash path q', nextSlash_mono hq' hsize', nextSlash_le path q',
      (readsAt_colon ht).1 hreads'⟩
  | byte b ht hstar hcolon _ =>
    intro r q hr hq hsize hreads
    obtain ⟨q', hq', hsize', hreads'⟩ := h r q hr hq hsize hreads
    obtain ⟨hb, hreads'⟩ := (readsAt_byte ht hstar hcolon).1 hreads'
    exact ⟨q' + 1, Nat.succ_le_succ hq', (Array.getElem?_eq_some_iff.1 hb).1, hreads'⟩

private theorem hopes_at_splat {t p : Nat} (hp : p ≤ path.size) :
    Hopes template path ⟨t, p, some ⟨t, p⟩⟩ ↔
      ∃ q, p ≤ q ∧ q ≤ path.size ∧ ReadsAt template path t q := by
  constructor
  · intro h
    rcases h with h | ⟨r, q, ⟨⟩, hq, hsize, h⟩
    · exact ⟨p, Nat.le_refl p, hp, h⟩
    · exact ⟨q, Nat.le_of_lt hq, hsize, h⟩
  · intro h
    obtain ⟨q, hq, hsize, h⟩ := h
    rcases Nat.eq_or_lt_of_le hq with rfl | hlt
    · exact .inl h
    · exact .inr ⟨⟨t, p⟩, q, rfl, hlt, hsize, h⟩

theorem hopes_step (hc : Within template path c) (h : Carries template path c)
    (hstep : step template path c = .move next) :
    Hopes template path c ↔ Hopes template path next := by
  cases leads_of_step hstep with
  | splat ht _ =>
    rw [hopes_at_splat hc.path_le, ← readsAt_star ht hc.path_le]
    refine ⟨?_, .inl⟩
    intro hhopes
    rcases hhopes with hreads | ⟨r, q, hr, hq, hsize, hreads⟩
    · exact hreads
    · -- The earlier splat is given up: the new one takes what lies between the cursor and `q''`.
      obtain ⟨q', hq', hsize', hreads'⟩ := h r q hr (Nat.le_of_lt hq) hsize hreads
      obtain ⟨q'', hq'', hsize'', hreads''⟩ := (readsAt_star ht hsize').1 hreads'
      exact (readsAt_star ht hc.path_le).2 ⟨q'', Nat.le_trans hq' hq'', hsize'', hreads''⟩
  | param ht => rw [Hopes, Hopes, readsAt_colon ht]
  | byte b ht hstar hcolon hp => simp only [Hopes, readsAt_byte ht hstar hcolon, hp, true_and]
  | retry r hstuck hr hlt =>
    rw [hopes_at_splat hlt, Hopes, or_iff_right (not_readsAt_of_stuck hc hstuck)]
    constructor
    · intro h
      obtain ⟨r', q, hr', hq, hsize, hreads⟩ := h
      obtain rfl := Option.some.inj (hr.symm.trans hr')
      exact ⟨q, hq, hsize, hreads⟩
    · intro h
      obtain ⟨q, hq, hsize, hreads⟩ := h
      exact ⟨r, q, hr, hq, hsize, hreads⟩

theorem hopes_of_halt {fits : Bool} (hc : Within template path c)
    (hstep : step template path c = .halt fits) : fits = true ↔ Hopes template path c := by
  cases leads_of_step hstep with
  | atEnd ht hp => simpa using .inl ((readsAt_end ht hc.path_le).2 hp)
  | lastSplat ht hlast =>
    have hend : template[c.template + 1]? = none := by simp [hlast]
    have hreads := (readsAt_end hend (Nat.le_refl path.size)).2 rfl
    simpa using .inl ((readsAt_star ht hc.path_le).2 ⟨path.size, hc.path_le, Nat.le_refl _, hreads⟩)
  | fail hstuck hspent =>
    simp only [Bool.false_eq_true, false_iff]
    intro hhopes
    rcases hhopes with hreads | ⟨r, q, hr, hq, hsize, -⟩
    · exact not_readsAt_of_stuck hc hstuck hreads
    · have := hspent r hr
      omega

/-- A run that comes to an answer says whether its first cursor has hopes. -/
theorem run_iff_hopes {turns : Nat} {fits : Bool} (hc : Within template path c)
    (h : Carries template path c) (hrun : run template path turns c = some fits) :
    fits = true ↔ Hopes template path c := by
  induction turns generalizing c with
  | zero => simp [run] at hrun
  | succ turns ih =>
    rw [run] at hrun
    cases hstep : step template path c with
    | halt answer =>
      rw [hstep] at hrun
      obtain rfl := Option.some.inj hrun
      exact hopes_of_halt hc hstep
    | move next =>
      -- `Within` and `Carries` hold of every cursor of the run, and with them the hopes stay.
      rw [hstep] at hrun
      rw [hopes_step hc h hstep]
      exact ih (within_step hc hstep) (carries_step h hstep) hrun

theorem accepts_iff_reads (template path : Bytes) :
    accepts template path = true ↔ Reads template.toList path.toList := by
  have henough : bound template path ≤ bound template path + progress template start :=
    Nat.le_add_right _ _
  obtain ⟨fits, hrun⟩ := exists_run_eq_some (within_start template path) henough
  have hfits := run_iff_hopes (within_start template path) (carries_start template path) hrun
  rw [accepts, hrun, beq_iff_eq, Option.some_inj, hfits, Hopes]
  simp [start, ReadsAt]

end Router.Template.Scan
