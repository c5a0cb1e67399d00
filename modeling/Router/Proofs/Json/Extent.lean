import Router.Proofs.Json.NumberExtent
import Router.Proofs.Json.Skipping

/-!
How far readers go. A reader may refuse a text of the grammar; where it succeeds it takes just this text,
and what follows is left to be read. This holds of strings and numbers, from there of values of a known
type, of lists and objects, and of whole values.
-/

set_option autoImplicit false
set_option relaxedAutoImplicit false

namespace Router.Json

variable {α β : Type}

/-- Where the reader succeeds in front of the rest it takes just the text, and gives a value with the
property. -/
def TakesJust (read : Cursor → Reading α) (text : List Char) (P : α → Prop) (rest : List Char) :
    Prop :=
  ∀ offset a c, read ⟨text ++ rest, offset⟩ = .ok (a, c) → c.rest = rest ∧ P a

section Readers

variable {read : Cursor → Reading α} {text rest : List Char} {P : α → Prop}

theorem Consumes.takesJust {a : α} (h : Consumes read text a rest) :
    TakesJust read text (· = a) rest := by
  intro offset b c hread
  obtain ⟨offset', hwhole⟩ := h offset
  rw [hread] at hwhole
  obtain ⟨rfl, rfl⟩ := Reading.ok_inj hwhole
  exact ⟨rfl, rfl⟩

theorem TakesJust.imp {Q : α → Prop} (h : TakesJust read text P rest) (himp : ∀ a, P a → Q a) :
    TakesJust read text Q rest := by
  intro offset a c hread
  obtain ⟨hrest, ha⟩ := h offset a c hread
  exact ⟨hrest, himp a ha⟩

theorem TakesJust.map {f : α → β} {Q : β → Prop} (h : TakesJust read text P rest)
    (hf : ∀ a, P a → Q (f a)) : TakesJust (fun c => (read c).map f) text Q rest := by
  intro offset b c hread
  obtain ⟨a, ha, rfl⟩ := Reading.map_eq_ok hread
  obtain ⟨hrest, hP⟩ := h offset a c ha
  exact ⟨hrest, hf a hP⟩

theorem TakesJust.andThen {next : α → Cursor → Reading β} {text' : List Char} {Q : β → Prop}
    (h : TakesJust read text P (text' ++ rest)) (h' : ∀ a, P a → TakesJust (next a) text' Q rest) :
    TakesJust (fun c => (read c).andThen next) (text ++ text') Q rest := by
  intro offset b c hread
  obtain ⟨a, middle, ha, hnext⟩ := Reading.andThen_eq_ok hread
  rw [List.append_assoc] at ha
  obtain ⟨hmiddle, hP⟩ := h offset a middle ha
  obtain ⟨more, offset'⟩ := middle
  subst hmiddle
  exact h' a hP offset' b c hnext

theorem TakesJust.blanks (h : TakesJust read text P rest) (hread : SkipsBlanks read)
    {blanks : List Char} (hblanks : Blank blanks) : TakesJust read (blanks ++ text) P rest := by
  intro offset a c hok
  rw [← hread, List.append_assoc, skipBlanks_append hblanks, hread] at hok
  exact h _ a c hok

theorem TakesJust.exists_some (h : TakesJust read text P rest) (offset : Nat) :
    ∃ r, some (read ⟨text ++ rest, offset⟩) = some r ∧
      ∀ a c, r = .ok (a, c) → c.rest = rest ∧ P a :=
  ⟨_, rfl, h offset⟩

theorem takesJust_afterColon {blanks : List Char} (h : TakesJust read text P rest)
    (hblanks : Blank blanks) : TakesJust (afterColon read) (blanks ++ ':' :: text) P rest := by
  have htext : blanks ++ ':' :: text = (blanks ++ [':']) ++ text := by simp
  rw [htext]
  exact (consumes_colon hblanks _).takesJust.andThen fun _ _ => h

end Readers

theorem toNat_ofNat_of_isValidChar {n : Nat} (h : n.isValidChar) : (Char.ofNat n).toNat = n := by
  rw [Char.ofNat, dif_pos h]
  rfl

theorem charUnits_ofNat {n : Nat} (h : n < 0x10000) (hleading : isLeading n = false)
    (htrailing : isTrailing n = false) : charUnits (Char.ofNat n) = [n] := by
  have hvalid : n.isValidChar := by
    simp only [isLeading, isTrailing, Bool.and_eq_false_iff, decide_eq_false_iff_not] at hleading htrailing
    simp only [Nat.isValidChar]
    omega
  have hnat : (Char.ofNat n).toNat = n := toNat_ofNat_of_isValidChar hvalid
  rw [charUnits, hnat, if_pos h]

theorem charUnits_joinHalves {m n : Nat} (hm : isLeading m = true) (hn : isTrailing n = true) :
    charUnits (joinHalves m n) = [m, n] := by
  simp only [isLeading, isTrailing, Bool.and_eq_true, decide_eq_true_eq] at hm hn
  have hvalid : (0x10000 + (m - 0xD800) * 0x400 + (n - 0xDC00)).isValidChar := by
    simp only [Nat.isValidChar]
    omega
  have hnat : (joinHalves m n).toNat = 0x10000 + (m - 0xD800) * 0x400 + (n - 0xDC00) := by
    rw [joinHalves, toNat_ofNat_of_isValidChar hvalid]
  have hhigh : 0x10000 ≤ (joinHalves m n).toNat := by omega
  have hleading : leadingHalf (joinHalves m n) = m := by
    rw [leadingHalf, hnat]
    omega
  have htrailing : trailingHalf (joinHalves m n) = n := by
    rw [trailingHalf, hnat]
    omega
  rw [charUnits_of_le hhigh, hleading, htrailing]

section Strings

variable {us : List Nat} {text rest : List Char} {offset : Nat} {x : Char} {c : Cursor}

/-- The character and the units behind the cursor make up the units of the text. -/
def Splits (us : List Nat) (rest : List Char) (x : Char) (c : Cursor) : Prop :=
  ∃ vs more, charUnits x ++ vs = us ∧ SpellsUnits vs more ∧ c.rest = more ++ '"' :: rest

theorem splits_of_secondHalf {m : Nat} (hm : isLeading m = true) (h : SpellsUnits us text)
    (hread : secondHalf m ⟨text ++ '"' :: rest, offset⟩ = .ok (x, c)) :
    Splits (m :: us) rest x c := by
  cases h with
  | nil => simp [secondHalf] at hread
  | @cons us vs text more hpiece hmore =>
    rw [List.append_assoc] at hread
    cases hpiece with
    | plain hquote hbackslash hcontrol => simp [secondHalf, hbackslash] at hread
    | letter hletter =>
      obtain ⟨-, hu⟩ := letterEscape?_of_mem hletter
      simp [secondHalf, Cursor.past, hu] at hread
    | @unit n digits hunit =>
      obtain ⟨offset', hdigits⟩ := consumes_hexEscape hunit (more ++ '"' :: rest) (offset + 1 + 1)
      simp only [secondHalf, List.cons_append, Cursor.past, List.tail_cons, hdigits,
        Reading.andThen_ok] at hread
      split at hread
      · rename_i hn
        obtain ⟨rfl, rfl⟩ := Reading.ok_inj hread
        exact ⟨_, _, by rw [charUnits_joinHalves hm hn]; rfl, hmore, rfl⟩
      · simp at hread

theorem splits_of_codeEscape {n : Nat} {digits : List Char} (hunit : SpellsUnit n digits)
    (h : SpellsUnits us text)
    (hread : codeEscape ⟨digits ++ (text ++ '"' :: rest), offset⟩ = .ok (x, c)) :
    Splits (n :: us) rest x c := by
  obtain ⟨offset', hdigits⟩ := consumes_hexEscape hunit (text ++ '"' :: rest) offset
  rw [codeEscape, hdigits, Reading.andThen_ok] at hread
  split at hread
  · simp at hread
  · rename_i htrailing
    split at hread
    · rename_i hleading
      exact splits_of_secondHalf hleading h hread
    · rename_i hleading
      obtain ⟨rfl, rfl⟩ := Reading.ok_inj hread
      refine ⟨us, text, ?_, h, rfl⟩
      rw [charUnits_ofNat (lt_of_spellsUnit hunit) (by simpa using hleading) (by simpa using htrailing)]
      rfl

theorem stringBody_extent {fuel : Nat} {cs : List Char} (h : SpellsUnits us text)
    (hread : stringBody fuel ⟨text ++ '"' :: rest, offset⟩ = .ok (cs, c)) :
    c.rest = rest ∧ cs.flatMap charUnits = us := by
  induction fuel generalizing us text offset cs with
  | zero => simp [stringBody] at hread
  | succ fuel ih =>
    -- the reader takes one piece of the text, or two where the halves of a pair follow each other
    have hstep : ∀ {us x middle}, Splits us rest x middle →
        (stringBody fuel middle).map (x :: ·) = .ok (cs, c) →
        c.rest = rest ∧ cs.flatMap charUnits = us := by
      intro us x middle hsplits hlater
      obtain ⟨vs, more, rfl, hmore, hmiddle⟩ := hsplits
      obtain ⟨tail, htail, rfl⟩ := Reading.map_eq_ok hlater
      obtain ⟨left, offset'⟩ := middle
      subst hmiddle
      obtain ⟨hrest, hunits⟩ := ih hmore htail
      exact ⟨hrest, by rw [List.flatMap_cons, hunits]⟩
    cases h with
    | nil =>
      obtain ⟨rfl, rfl⟩ := Reading.ok_inj hread
      exact ⟨rfl, rfl⟩
    | @cons us vs text more hpiece hmore =>
      rw [List.append_assoc] at hread
      cases hpiece with
      | @plain x hquote hbackslash hcontrol =>
        simp only [stringBody, List.singleton_append, hcontrol] at hread
        exact hstep ⟨vs, more, rfl, hmore, rfl⟩ hread
      | @letter y x hletter =>
        have hescape := escape_letter hletter (more ++ '"' :: rest) (offset + 1)
        simp only [stringBody, List.cons_append, List.nil_append, Cursor.past, List.tail_cons,
          hescape, Reading.andThen_ok] at hread
        exact hstep ⟨vs, more, rfl, hmore, rfl⟩ hread
      | @unit n digits hunit =>
        obtain ⟨x, middle, hescape, hlater⟩ := Reading.andThen_eq_ok hread
        exact hstep (splits_of_codeEscape hunit hmore hescape) hlater

theorem takesJust_string (h : SpellsUnits us text) (rest : List Char) :
    TakesJust string (text ++ ['"']) (fun s => units s = us) rest := by
  intro offset s c hread
  rw [List.append_assoc, List.singleton_append] at hread
  obtain ⟨cs, hbody, rfl⟩ := Reading.map_eq_ok hread
  obtain ⟨hrest, hunits⟩ := stringBody_extent h hbody
  refine ⟨hrest, ?_⟩
  show (String.ofList cs).toList.flatMap charUnits = us
  rw [String.toList_ofList, hunits]

end Strings

/-- A value that is a string stands for a string of the same code units. -/
def StringOf (t : Tree) (v : Value) : Prop := ∀ s, v = .string s → t = .string (units s)

section Scalars

variable {t : Tree} {text rest : List Char} {depth : Nat}

theorem takesJust_leafWord (letters rest : List Char) {v : Value} (h : StringOf t v) :
    TakesJust (fun c => (word letters c).map fun _ => v) letters (StringOf t) rest :=
  (consumes_word letters rest).takesJust.map fun _ _ => h

theorem takesJust_leafNumber (n : Numeral) (positive : Bool) (hrest : Delimited rest) :
    TakesJust (fun c => (number positive c).map .number) n.writeMagnitude (StringOf (.number n))
      rest := by
  have hnumber : TakesJust (number positive) n.writeMagnitude (fun _ => True) rest :=
    fun _ _ _ hread => ⟨rest_eq_of_number hrest hread, trivial⟩
  refine hnumber.map fun x _ s hs => ?_
  exact absurd hs (by simp)

theorem scalar?_of_leaf (h : Leaf t text) (hrest : Delimited rest) (offset : Nat) :
    ∃ r, scalar? ⟨text ++ rest, offset⟩ = some r ∧
      ∀ v c, r = .ok (v, c) → c.rest = rest ∧ StringOf t v := by
  cases h with
  | null =>
    exact (takesJust_leafWord ['u', 'l', 'l'] rest (by simp [StringOf])).exists_some (offset + 1)
  | true =>
    exact (takesJust_leafWord ['r', 'u', 'e'] rest (by simp [StringOf])).exists_some (offset + 1)
  | false =>
    exact (takesJust_leafWord ['a', 'l', 's', 'e'] rest (by simp [StringOf])).exists_some (offset + 1)
  | number n =>
    rw [Numeral.write]
    cases n.negative with
    | true => exact (takesJust_leafNumber n false hrest).exists_some (offset + 1)
    | false =>
      obtain ⟨d, ds, htext⟩ := List.exists_cons_of_ne_nil n.whole.ne_nil
      have hd : d.isDigit = true := n.whole.isDigit d (htext ▸ List.mem_cons_self)
      have hread := takesJust_leafNumber n true hrest
      rw [Numeral.writeMagnitude, htext] at hread ⊢
      obtain ⟨r, hr, hextent⟩ := hread.exists_some offset
      exact ⟨r, (scalar?_of_isDigit hd _ offset).trans hr, hextent⟩
  | string h =>
    obtain ⟨body, hbody, rfl⟩ := h
    have hread := (takesJust_string hbody rest).map (f := Value.string) (Q := StringOf _)
      fun s hunits s' hs => by rw [← Value.string.inj hs, hunits]
    exact hread.exists_some (offset + 1)

/-- A value of a known type that is picked from a tree is the whole tree. -/
theorem takesJust_typed (h : t.Spells depth text) (hrest : Delimited rest) (expected : String)
    {pick : Value → Option α} {P : α → Prop} (hpick : ∀ v a, StringOf t v → pick v = some a → P a) :
    TakesJust (typed expected pick) text P rest := by
  have hleaf : Leaf t text → TakesJust (typed expected pick) text P rest := by
    intro hleaf offset a c hread
    obtain ⟨r, hscalar, hextent⟩ := scalar?_of_leaf hleaf hrest offset
    rw [typed, skipBlanks_of_solid (solid_of_leaf hleaf)] at hread
    dsimp only at hread
    rw [hscalar] at hread
    obtain ⟨v, after, hr, hnext⟩ := Reading.andThen_eq_ok hread
    obtain ⟨hafter, hv⟩ := hextent v after hr
    split at hnext
    · rename_i b hb
      obtain ⟨rfl, rfl⟩ := Reading.ok_inj hnext
      exact ⟨hafter, hpick v b hv hb⟩
    · simp at hnext
  cases depth with
  | zero => exact hleaf h
  | succ depth =>
    rcases h with h | h
    · exact hleaf h
    · intro offset a c hread
      have hsolid := Tree.solid_of_spells (Tree.spells_of_branch h)
      rw [typed, skipBlanks_of_solid hsolid] at hread
      cases h <;> simp [scalar?] at hread

theorem takesJust_typedString (h : t.Spells depth text) (hrest : Delimited rest) :
    TakesJust typedString text (fun s => t = .string (units s)) rest := by
  unfold typedString
  refine takesJust_typed h hrest "a string" fun v s hv hs => ?_
  split at hs
  · obtain rfl := Option.some.inj hs
    exact hv _ rfl
  · simp at hs

theorem takesJust_typed_none (h : t.Spells depth text) (hrest : Delimited rest) (expected : String) :
    TakesJust (typed expected fun _ => (none : Option α)) text (fun _ => False) rest :=
  takesJust_typed h hrest expected fun _ _ _ hnone => by simp at hnone

theorem takesJust_typedString? (h : t.Spells depth text) (hrest : Delimited rest) :
    TakesJust typedString? text (fun _ => True) rest := by
  intro offset label c hread
  have hsolid := Tree.solid_of_spells h
  rw [typedString?, skipBlanks_of_solid hsolid] at hread
  obtain ⟨x, xs, rfl, -, -⟩ := hsolid
  by_cases hx : x = 'n'
  · subst hx
    obtain rfl := Tree.eq_null_of_spells h
    obtain ⟨_, hword, -⟩ := Reading.map_eq_ok hread
    exact ⟨((consumes_word ['u', 'l', 'l'] rest).takesJust _ _ _ hword).1, trivial⟩
  · have hstring : (typedString ⟨x :: xs ++ rest, offset⟩).map some = .ok (label, c) := by
      simpa [hx] using hread
    obtain ⟨s, hs, -⟩ := Reading.map_eq_ok hstring
    exact ⟨(takesJust_typedString h hrest _ _ _ hs).1, trivial⟩

end Scalars

end Router.Json
