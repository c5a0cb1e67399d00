import Router.Proofs.Json.Numerals

/-!
Where numbers end. Reading a number and passing over it take the same characters: what is read is passed
over to the same place. So a number that is read ends where its numeral ends, whatever its value.
-/

set_option autoImplicit false
set_option relaxedAutoImplicit false

namespace Router.Json

open Router.Template (stops_cons)

theorem gather_left (limit n : Nat) (cs : List Char) :
    (gather limit n cs).2.2.dropWhile Char.isDigit = cs.dropWhile Char.isDigit ∧
    (gather limit n cs).2.1 + ((gather limit n cs).2.2.takeWhile Char.isDigit).length =
      (cs.takeWhile Char.isDigit).length := by
  induction cs generalizing n with
  | nil => exact ⟨rfl, rfl⟩
  | cons c cs ih =>
    rw [gather]
    split
    · rename_i hfits
      have hdigit : c.isDigit = true := (Bool.and_eq_true_iff.1 hfits).1
      obtain ⟨hdrop, htake⟩ := ih (n * 10 + digitValue c)
      generalize gather limit (n * 10 + digitValue c) cs = gathered at hdrop htake ⊢
      obtain ⟨m, taken, left⟩ := gathered
      dsimp only at hdrop htake ⊢
      refine ⟨by simpa [hdigit] using hdrop, ?_⟩
      simp only [List.takeWhile_cons, hdigit, if_true, List.length_cons, ← htake]
      omega
    · exact ⟨rfl, Nat.zero_add _⟩

theorem skipDigits_gather (limit n : Nat) (c : Cursor) :
    (c.gather limit n).2.2.skipDigits = c.skipDigits := by
  obtain ⟨hdrop, htake⟩ := gather_left limit n c.rest
  simp only [Cursor.gather, Cursor.skipDigits, hdrop, Nat.add_assoc, htake]

theorem atDigit_of_gather {limit n : Nat} {c : Cursor}
    (h : (c.gather limit n).2.2.atDigit = true ∨ (c.gather limit n).2.1 ≠ 0) : c.atDigit = true := by
  obtain ⟨rest, offset⟩ := c
  cases rest with
  | nil => simp [Cursor.gather, gather, Cursor.atDigit] at h
  | cons x rest =>
    by_contra hx
    have hdigit : x.isDigit = false := by simpa [Cursor.atDigit] using hx
    simp [Cursor.gather, gather, Cursor.atDigit, hdigit] at h

theorem skipDigits_of_not_atDigit {c : Cursor} (h : ¬ c.atDigit = true) : c.skipDigits = c := by
  obtain ⟨rest, offset⟩ := c
  cases rest with
  | nil => rfl
  | cons x rest =>
    have hdigit : x.isDigit = false := by simpa [Cursor.atDigit] using h
    simp [Cursor.skipDigits, hdigit]

theorem skipDigits_cons {x : Char} (h : x.isDigit = true) (rest : List Char) (offset : Nat) :
    Cursor.skipDigits ⟨x :: rest, offset⟩ = Cursor.skipDigits ⟨rest, offset + 1⟩ := by
  simp only [Cursor.skipDigits, List.dropWhile_cons, List.takeWhile_cons, h, if_true,
    List.length_cons, Cursor.mk.injEq, true_and]
  omega

variable {positive raises : Bool} {significand : Nat} {exponent : Int} {c c' : Cursor} {x : Number}

theorem floatNumber_eq_ok (h : floatNumber positive significand exponent c = .ok (x, c')) :
    c' = c := by
  rw [floatNumber] at h
  split at h
  · simp at h
  · exact (Reading.ok_inj h).2.symm

theorem exponentDigits_eq_ok
    (h : exponentDigits positive significand exponent raises c = .ok (x, c')) :
    c.atDigit = true ∧ c' = c.skipDigits := by
  obtain ⟨rest, offset⟩ := c
  cases rest with
  | nil => simp [exponentDigits] at h
  | cons d rest =>
    obtain ⟨⟨n, taken, left⟩, hgather⟩ :
        ∃ g, Cursor.gather maxExponent (digitValue d) ⟨rest, offset + 1⟩ = g := ⟨_, rfl⟩
    simp only [exponentDigits, Cursor.past, List.tail_cons, hgather] at h
    split at h
    · rename_i hd
      refine ⟨by simpa [Cursor.atDigit] using hd, ?_⟩
      rw [skipDigits_cons hd, ← skipDigits_gather maxExponent (digitValue d), hgather]
      split at h
      · split at h
        · simp at h
        · exact (Reading.ok_inj h).2.symm
      · rename_i hend
        rw [skipDigits_of_not_atDigit hend]
        exact floatNumber_eq_ok h
    · simp at h

theorem skipExponent_of_exponentPart
    (h : exponentPart positive significand exponent c = .ok (x, c')) :
    skipExponent c.past = .ok ((), c') := by
  rw [exponentPart] at h
  rw [skipExponent]
  generalize c.past = c at h ⊢
  split at h
  · rename_i hplus
    obtain ⟨hdigit, rfl⟩ := exponentDigits_eq_ok h
    simp [hplus, hdigit]
  · rename_i hminus
    obtain ⟨hdigit, rfl⟩ := exponentDigits_eq_ok h
    simp [hminus, hdigit]
  · obtain ⟨hdigit, rfl⟩ := exponentDigits_eq_ok h
    have hsign : ¬ (c.rest.head? = some '+' ∨ c.rest.head? = some '-') := by
      rintro (hhead | hhead) <;> simp [Cursor.atDigit, hhead] at hdigit
    simp [hsign, hdigit]

theorem skipExponent?_of_floatEnd (h : floatEnd positive significand exponent c = .ok (x, c')) :
    (if c.atExponent then skipExponent c.past else .ok ((), c)) = .ok ((), c') := by
  rw [floatEnd] at h
  split at h
  · rename_i hexponent
    rw [if_pos hexponent]
    exact skipExponent_of_exponentPart h
  · rename_i hexponent
    rw [if_neg hexponent, floatNumber_eq_ok h]

theorem skipFraction_of_fractionPart
    (h : fractionPart positive significand exponent c = .ok (x, c')) :
    skipFraction c.past = .ok ((), c') := by
  simp only [fractionPart] at h
  rw [skipFraction, ← skipDigits_gather maxSignificand significand]
  split at h
  · rename_i hmore
    rw [if_pos (atDigit_of_gather (.inl hmore))]
    exact skipExponent?_of_floatEnd h
  · rename_i hend
    split at h
    · simp at h
    · rename_i htaken
      rw [if_pos (atDigit_of_gather (.inr htaken)), skipDigits_of_not_atDigit hend]
      exact skipExponent?_of_floatEnd h

theorem skipNumberEnd_of_numberEnd (h : numberEnd positive significand c = .ok (x, c')) :
    skipNumberEnd c = .ok ((), c') := by
  rw [numberEnd] at h
  rw [skipNumberEnd]
  split_ifs at h ⊢ with hpoint hexponent
  · exact skipFraction_of_fractionPart h
  · exact skipExponent_of_exponentPart h
  · rw [(Reading.ok_inj h).2]

theorem skipNumberEnd_of_longNumberEnd (h : longNumberEnd positive significand c = .ok (x, c')) :
    skipNumberEnd c.skipDigits = .ok ((), c') := by
  simp only [longNumberEnd] at h
  rw [skipNumberEnd]
  split at h
  · rename_i hpoint
    rw [if_pos hpoint]
    exact skipFraction_of_fractionPart h
  · rename_i hpoint
    rw [if_neg hpoint]
    exact skipExponent?_of_floatEnd h

/-- A number that is read is passed over to the same place. -/
theorem skipNumber_of_number (h : number positive c = .ok (x, c')) :
    skipNumber c = .ok ((), c') := by
  obtain ⟨rest, offset⟩ := c
  cases rest with
  | nil => simp [number] at h
  | cons d rest =>
    by_cases hzero : d = '0'
    · subst hzero
      simp only [number] at h
      simp only [skipNumber]
      split_ifs at h ⊢
      exact skipNumberEnd_of_numberEnd h
    · by_cases hd : d.isDigit = true
      · rw [number_cons hd hzero] at h
        have hskip : skipNumber ⟨d :: rest, offset⟩ =
            skipNumberEnd (Cursor.skipDigits ⟨d :: rest, offset⟩) := by
          simp [skipNumber, hd]
        rw [hskip, skipDigits_cons hd, ← skipDigits_gather maxSignificand (digitValue d)]
        dsimp only at h
        split at h
        · exact skipNumberEnd_of_longNumberEnd h
        · rename_i hend
          rw [skipDigits_of_not_atDigit hend]
          exact skipNumberEnd_of_numberEnd h
      · simp [number, hd] at h

theorem rest_eq_of_number {n : Numeral} {rest : List Char} {offset : Nat} (hrest : Delimited rest)
    (h : number positive ⟨n.writeMagnitude ++ rest, offset⟩ = .ok (x, c')) : c'.rest = rest := by
  obtain ⟨offset', hskip⟩ := consumes_skipNumber n hrest offset
  have hsame := (skipNumber_of_number h).symm.trans hskip
  rw [(Reading.ok_inj hsame).2]

end Router.Json
