import Router.Proofs.Scan.Turns

/-!
The heads of the loop. A run passes through heads, one for each turn, and every head is bound by what the
turns keep. Progress grows from head to head, so it tells the heads of a run apart and counts them: none
comes back, and the run is over before there could be more heads than places in the two texts.
-/

set_option autoImplicit false
set_option relaxedAutoImplicit false

namespace Router.Template.Scan

variable {template path : Bytes} {c : Cursor}

/-- The loop, begun at its start, is after so many turns at the head with this cursor. -/
inductive Reaches (template path : Bytes) : Nat → Cursor → Prop
  | start : Reaches template path 0 start
  | turn {turns : Nat} {c next : Cursor} (h : Reaches template path turns c)
      (hstep : step template path c = .move next) : Reaches template path (turns + 1) next

namespace Reaches

variable {m n : Nat} {d : Cursor}

theorem within (h : Reaches template path n c) : Within template path c := by
  induction h with
  | start => exact within_start template path
  | turn _ hstep ih => exact within_step ih hstep

theorem unique (hc : Reaches template path n c) (hd : Reaches template path n d) : c = d := by
  induction hc generalizing d with
  | start =>
    cases hd with
    | start => rfl
  | turn _ hstep ih =>
    cases hd with
    | turn hd hstep' =>
      rw [ih hd] at hstep
      exact Turn.move.inj (hstep.symm.trans hstep')

/-- A later head has made more progress, so progress tells the heads of a run apart. -/
theorem progress_lt_of_lt (hc : Reaches template path m c) (hd : Reaches template path n d)
    (h : m < n) : progress template c < progress template d := by
  induction hd with
  | start => exact absurd h (Nat.not_lt_zero m)
  | turn hd hstep ih =>
    have hlt := progress_lt hd.within hstep
    rcases Nat.lt_succ_iff_lt_or_eq.1 h with h | rfl
    · exact Nat.lt_trans (ih h) hlt
    · rwa [hc.unique hd]

theorem eq_of_progress_eq (hc : Reaches template path m c) (hd : Reaches template path n d)
    (h : progress template c = progress template d) : m = n := by
  rcases Nat.lt_trichotomy m n with hlt | heq | hlt
  · exact absurd h (Nat.ne_of_lt (hc.progress_lt_of_lt hd hlt))
  · exact heq
  · exact absurd h (Nat.ne_of_gt (hd.progress_lt_of_lt hc hlt))

theorem le_progress (h : Reaches template path n c) : n ≤ progress template c := by
  induction h with
  | start => exact Nat.zero_le _
  | turn h hstep ih => exact Nat.lt_of_le_of_lt ih (progress_lt h.within hstep)

theorem lt_bound (h : Reaches template path n c) : n < bound template path :=
  Nat.lt_of_le_of_lt h.le_progress (progress_lt_bound h.within)

theorem exists_halt {turns : Nat} {fits : Bool} (h : Reaches template path n c)
    (hrun : run template path turns c = some fits) :
    ∃ m d, Reaches template path m d ∧ step template path d = .halt fits := by
  induction turns generalizing n c with
  | zero => simp [run] at hrun
  | succ turns ih =>
    rw [run] at hrun
    cases hstep : step template path c with
    | halt answer =>
      rw [hstep] at hrun
      obtain rfl := Option.some.inj hrun
      exact ⟨n, c, h, hstep⟩
    | move next =>
      rw [hstep] at hrun
      exact ih (h.turn hstep) hrun

end Reaches

/-- At every head of the loop the cursors lie in their texts and the remembered splat lies behind them, so
every place from which a slash is looked for is in range. No two heads of a run agree both in the place in
the template and in what the splat has taken, and the run comes to its answer within the bound. -/
theorem heads_within_distinct_bounded (template path : String) :
    let t := stripped template
    let p := stripped path
    (∀ n c, Reaches t p n c → c.template ≤ t.size ∧ c.path ≤ p.size ∧
      ∀ r, c.splat = some r → r.after ≤ c.template ∧ r.start ≤ c.path) ∧
    (∀ m n c d, Reaches t p m c → Reaches t p n d → m ≠ n →
      (c.template, c.taken) ≠ (d.template, d.taken)) ∧
    (∀ n c, Reaches t p n c → n + 1 ≤ (t.size + 1) * (p.size + 1)) ∧
    ∃ n c, Reaches t p n c ∧ step t p c = .halt (fits template path) := by
  intro t p
  refine ⟨?_, ?_, fun n c h => h.lt_bound, ?_⟩
  · intro n c h
    exact ⟨h.within.template_le, h.within.path_le,
      fun r hr => ⟨h.within.after_le r hr, h.within.start_le r hr⟩⟩
  · intro m n c d hc hd hne heq
    obtain ⟨htemplate, htaken⟩ := Prod.mk.inj heq
    have hprogress : progress t c = progress t d := by rw [progress, progress, htaken, htemplate]
    exact hne (hc.eq_of_progress_eq hd hprogress)
  · obtain ⟨answer, hrun⟩ := exists_run_eq_some (within_start t p) (Nat.le_add_right (bound t p) _)
    have hfits : fits template path = answer := by
      show accepts t p = answer
      rw [accepts, hrun]
      cases answer <;> rfl
    rw [hfits]
    exact Reaches.start.exists_halt hrun

/-- The second splat takes one byte more, and the head behind it is met again with the longer splat. -/
theorem heads_within_distinct_bounded_two_splats :
    let t := stripped "*a*ab"
    let p := stripped "aaab/"
    Reaches t p 3 ⟨3, 1, some ⟨3, 1⟩⟩ ∧ Reaches t p 5 ⟨3, 2, some ⟨3, 2⟩⟩ ∧
      (3 ≤ t.size ∧ 2 ≤ p.size) ∧ (3, 1) ≠ (3, 2) ∧ 5 + 1 ≤ (t.size + 1) * (p.size + 1) ∧
      ∃ n c, Reaches t p n c ∧ step t p c = .halt true := by
  intro t p
  have h₁ : Reaches t p 1 ⟨1, 0, some ⟨1, 0⟩⟩ := .turn .start (by decide +kernel)
  have h₂ : Reaches t p 2 ⟨2, 1, some ⟨1, 0⟩⟩ := .turn h₁ (by decide +kernel)
  have h₃ : Reaches t p 3 ⟨3, 1, some ⟨3, 1⟩⟩ := .turn h₂ (by decide +kernel)
  have h₄ : Reaches t p 4 ⟨4, 2, some ⟨3, 1⟩⟩ := .turn h₃ (by decide +kernel)
  have h₅ : Reaches t p 5 ⟨3, 2, some ⟨3, 2⟩⟩ := .turn h₄ (by decide +kernel)
  obtain ⟨hwithin, hdistinct, hbound, hhalt⟩ := heads_within_distinct_bounded "*a*ab" "aaab/"
  have hfits : fits "*a*ab" "aaab/" = true := by decide +kernel
  obtain ⟨htemplate, hpath, -⟩ := hwithin 5 _ h₅
  refine ⟨h₃, h₅, ⟨htemplate, hpath⟩, hdistinct 3 5 _ _ h₃ h₅ (by decide), hbound 5 _ h₅, ?_⟩
  rwa [hfits] at hhalt

end Router.Template.Scan
