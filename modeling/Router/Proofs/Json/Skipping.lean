import Router.Proofs.Json.Tree

/-!
Passing over a value. The loop keeps a stack of what is open, so the induction says of each text where the
loop stands behind it: at the ends that follow a value, with as much of its fuel left as it was given
beyond the length of the text. Every text of the grammar is passed over, whatever it stands for, and so is
every spelling of a value.
-/

set_option autoImplicit false
set_option relaxedAutoImplicit false

namespace Router.Json

open Router.Template (Stops stops_cons)

variable {α : Type}

/-- What the loop does behind the beginning of a value. -/
def goOn (fuel : Nat) (frames : List Frame) (c : Cursor) : Reading Unit :=
  match frames with
  | [] => .ok ((), c)
  | .list :: _ => skipUpTo fuel frames c
  | .object :: _ => (skipKey c).andThen fun _ c => skipUpTo fuel frames c

theorem skipUpTo_succ (fuel : Nat) (frames : List Frame) (c : Cursor) :
    skipUpTo (fuel + 1) frames c = (skipPiece frames c).andThen (goOn fuel) := rfl

theorem skipsBlanks_skipPiece (frames : List Frame) : SkipsBlanks (skipPiece frames) := by
  intro c
  rw [skipPiece, skipPiece, skipBlanks_skipBlanks]

theorem skipsBlanks_skipUpTo (fuel : Nat) (frames : List Frame) :
    SkipsBlanks (skipUpTo (fuel + 1) frames) :=
  (skipsBlanks_skipPiece frames).andThen (goOn fuel)

theorem skipsBlanks_skipKey : SkipsBlanks skipKey := by
  intro c
  rw [skipKey, skipKey, skipBlanks_skipBlanks]

theorem skipsBlanks_goOn (fuel : Nat) (f : Frame) (frames : List Frame) :
    SkipsBlanks (goOn (fuel + 1) (f :: frames)) := by
  cases f with
  | list => exact skipsBlanks_skipUpTo fuel _
  | object => exact skipsBlanks_skipKey.andThen _

/-- From every place in front of the text the loop comes to the ends behind it. -/
def Passes (text : List Char) : Prop :=
  ∃ more < text.length, ∀ frames before rest offset, Blank before → Delimited rest →
    ∃ offset', ∀ fuel, skipUpTo (fuel + more + 1) frames ⟨before ++ (text ++ rest), offset⟩ =
      (skipEnds frames ⟨rest, offset'⟩).andThen (goOn fuel)

/-- The same for an item of a list or a member of an object. Neither begins like the end of what it is in. -/
structure PassesIn (f : Frame) (text : List Char) : Prop where
  begins : ∃ c cs, text = c :: cs ∧ Cursor.isBlank c = false ∧ c ≠ f.closer
  passes : ∃ more < text.length, ∀ frames before rest offset, Blank before → Delimited rest →
    ∃ offset', ∀ fuel, goOn (fuel + more + 1) (f :: frames) ⟨before ++ (text ++ rest), offset⟩ =
      (skipEnds (f :: frames) ⟨rest, offset'⟩).andThen (goOn fuel)

theorem Frame.closer_mem (f : Frame) : f.closer ∈ delimiters := by cases f <;> decide

theorem Frame.isBlank_closer (f : Frame) : Cursor.isBlank f.closer = false := by
  cases f <;> decide

theorem skipEnds_comma (f : Frame) (frames : List Frame) {blanks : List Char} (h : Blank blanks)
    (rest : List Char) (offset : Nat) :
    skipEnds (f :: frames) ⟨blanks ++ ',' :: rest, offset⟩ =
      .ok (f :: frames, ⟨rest, offset + blanks.length + 1⟩) := by
  have hstops : Stops Cursor.isBlank (',' :: rest) := stops_cons.2 (by decide)
  rw [skipEnds, skipBlanks_append h, skipBlanks_of_stops hstops]
  rfl

theorem skipEnds_closer (f : Frame) (frames : List Frame) {blanks : List Char} (h : Blank blanks)
    (rest : List Char) (offset : Nat) :
    skipEnds (f :: frames) ⟨blanks ++ f.closer :: rest, offset⟩ =
      skipEnds frames ⟨rest, offset + blanks.length + 1⟩ := by
  have hcomma : f.closer ≠ ',' := by cases f <;> decide
  rw [skipEnds, skipBlanks_append h, skipBlanks_of_stops (stops_cons.2 f.isBlank_closer)]
  simp [hcomma, Cursor.past]

theorem goOn_of_items {f : Frame} {spells : α → List Char → Prop}
    (hpasses : ∀ a text, spells a text → PassesIn f text) {as : List α} {text : List Char}
    (h : Items spells as text) :
    ∃ more < text.length, ∀ frames rest offset, ∃ offset', ∀ fuel,
      goOn (fuel + more + 1) (f :: frames) ⟨text ++ f.closer :: rest, offset⟩ =
        (skipEnds frames ⟨rest, offset'⟩).andThen (goOn fuel) := by
  induction h with
  | @single a before text behind hbefore h hbehind =>
    obtain ⟨more, hmore, hread⟩ := (hpasses a text h).passes
    refine ⟨more, by simp only [List.length_append]; omega, fun frames rest offset => ?_⟩
    have hrest : Delimited (behind ++ f.closer :: rest) :=
      delimited_blank_append hbehind (delimited_cons f.closer_mem rest)
    obtain ⟨middle, hread⟩ := hread frames before _ offset hbefore hrest
    refine ⟨middle + behind.length + 1, fun fuel => ?_⟩
    rw [List.append_assoc, List.append_assoc, hread, skipEnds_closer f frames hbehind]
  | @cons a as before text behind later hbefore h hbehind _ ih =>
    obtain ⟨more, hmore, hread⟩ := (hpasses a text h).passes
    obtain ⟨more', hmore', hlater⟩ := ih
    refine ⟨more + more' + 1, by simp only [List.length_append, List.length_cons]; omega,
      fun frames rest offset => ?_⟩
    have hrest : Delimited (behind ++ ',' :: (later ++ f.closer :: rest)) :=
      delimited_blank_append hbehind (delimited_cons (by decide) _)
    obtain ⟨middle, hread⟩ := hread frames before _ offset hbefore hrest
    obtain ⟨offset', hlater⟩ := hlater frames rest (middle + behind.length + 1)
    refine ⟨offset', fun fuel => ?_⟩
    have htext : before ++ (text ++ (behind ++ ',' :: later)) ++ f.closer :: rest =
        before ++ (text ++ (behind ++ ',' :: (later ++ f.closer :: rest))) := by simp
    have hfuel : fuel + (more + more' + 1) + 1 = fuel + more' + 1 + more + 1 := by omega
    rw [htext, hfuel, hread, skipEnds_comma f frames hbehind, Reading.andThen_ok, hlater]

theorem Items.begins {f : Frame} {spells : α → List Char → Prop}
    (hpasses : ∀ a text, spells a text → PassesIn f text) {as : List α} {text : List Char}
    (h : Items spells as text) : ∃ before c cs, Blank before ∧ text = before ++ c :: cs ∧
      Cursor.isBlank c = false ∧ c ≠ f.closer := by
  cases h with
  | single hbefore h _ =>
    obtain ⟨c, cs, rfl, hc⟩ := (hpasses _ _ h).begins
    exact ⟨_, c, _, hbefore, rfl, hc⟩
  | cons hbefore h _ _ =>
    obtain ⟨c, cs, rfl, hc⟩ := (hpasses _ _ h).begins
    exact ⟨_, c, _, hbefore, rfl, hc⟩

theorem skipEmpty_of_enclosed {f : Frame} {spells : α → List Char → Prop}
    (hpasses : ∀ a text, spells a text → PassesIn f text) {as : List α} {text : List Char}
    (h : Enclosed spells as text) :
    ∃ more ≤ text.length, ∀ frames rest offset, ∃ offset', ∀ fuel,
      (skipEmpty f frames ⟨text ++ f.closer :: rest, offset⟩).andThen (goOn (fuel + more)) =
        (skipEnds frames ⟨rest, offset'⟩).andThen (goOn fuel) := by
  cases h with
  | empty hblank =>
    refine ⟨0, Nat.zero_le _, fun frames rest offset => ⟨offset + text.length + 1, fun fuel => ?_⟩⟩
    rw [skipEmpty, skipBlanks_append hblank, skipBlanks_of_stops (stops_cons.2 f.isBlank_closer)]
    simp [Cursor.past]
  | items h =>
    obtain ⟨more, hmore, hread⟩ := goOn_of_items hpasses h
    refine ⟨more + 1, hmore, fun frames rest offset => ?_⟩
    obtain ⟨offset', hread⟩ := hread frames rest offset
    refine ⟨offset', fun fuel => ?_⟩
    obtain ⟨before, c, cs, hbefore, rfl, hblank, hcloser⟩ := h.begins hpasses
    have hblanks : Cursor.skipBlanks ⟨before ++ c :: cs ++ f.closer :: rest, offset⟩ =
        ⟨c :: (cs ++ f.closer :: rest), offset + before.length⟩ := by
      rw [List.append_assoc, skipBlanks_append hbefore, List.cons_append,
        skipBlanks_of_stops (stops_cons.2 hblank)]
    rw [← hread fuel, skipEmpty, ← skipsBlanks_goOn, hblanks]
    simp [hcloser, ← Nat.add_assoc]

theorem skipScalar?_of_isDigit {d : Char} (h : d.isDigit = true) (more : List Char) (offset : Nat) :
    skipScalar? ⟨d :: more, offset⟩ = some (skipNumber ⟨d :: more, offset⟩) := by
  have hne : ∀ c : Char, c.isDigit = false → d ≠ c := fun c => ne_of_isDigit h
  rw [skipScalar?]
  simp only [hne 'n' (by decide), hne 't' (by decide), hne 'f' (by decide), hne '-' (by decide),
    if_false, if_pos h]

theorem skipStringBody_piece {us : List Nat} {text : List Char} (h : SpellsPiece us text)
    (rest : List Char) (offset : Nat) : ∃ offset', ∀ fuel,
      skipStringBody (fuel + 1) ⟨text ++ rest, offset⟩ = skipStringBody fuel ⟨rest, offset'⟩ := by
  cases h with
  | @plain c hquote hbackslash hcontrol =>
    exact ⟨offset + c.utf8Size, fun fuel => by simp [skipStringBody, hcontrol]⟩
  | letter h => exact skipStringBody_escape (consumes_skipEscape h rest) offset
  | unit h => exact skipStringBody_escape (consumes_skipEscape_unit h rest) offset

theorem SpellsPiece.length_pos {us : List Nat} {text : List Char} (h : SpellsPiece us text) :
    0 < text.length := by
  cases h <;> simp

theorem skipStringBody_of_spellsUnits {us : List Nat} {text : List Char} (h : SpellsUnits us text)
    (rest : List Char) {fuel : Nat} (hfuel : text.length < fuel) (offset : Nat) :
    ∃ offset', skipStringBody fuel ⟨text ++ '"' :: rest, offset⟩ = .ok ((), ⟨rest, offset'⟩) := by
  induction h generalizing fuel offset with
  | nil =>
    obtain ⟨fuel, rfl⟩ := Nat.exists_eq_succ_of_ne_zero (Nat.ne_of_gt hfuel)
    exact ⟨offset + 1, rfl⟩
  | @cons us vs text more h _ ih =>
    have hpos := h.length_pos
    rw [List.length_append] at hfuel
    obtain ⟨fuel, rfl⟩ : ∃ n, fuel = n + 1 := ⟨fuel - 1, by omega⟩
    obtain ⟨middle, hfirst⟩ := skipStringBody_piece h (more ++ '"' :: rest) offset
    rw [List.append_assoc, hfirst]
    exact ih (by omega) middle

theorem consumes_skipString {us : List Nat} {body : List Char} (h : SpellsUnits us body)
    (rest : List Char) : Consumes skipString (body ++ ['"']) () rest := by
  intro offset
  have hfuel : body.length < (body ++ '"' :: rest).length + 1 := by
    rw [List.length_append]
    omega
  rw [List.append_assoc, List.singleton_append, skipString]
  exact skipStringBody_of_spellsUnits h rest hfuel offset

theorem skipScalar?_of_leaf {t : Tree} {text rest : List Char} (h : Leaf t text)
    (hrest : Delimited rest) (offset : Nat) :
    ∃ offset', skipScalar? ⟨text ++ rest, offset⟩ = some (.ok ((), ⟨rest, offset'⟩)) := by
  cases h with
  | null => exact (consumes_word ['u', 'l', 'l'] rest).exists_some (offset + 1)
  | true => exact (consumes_word ['r', 'u', 'e'] rest).exists_some (offset + 1)
  | false => exact (consumes_word ['a', 'l', 's', 'e'] rest).exists_some (offset + 1)
  | number n =>
    have hread := consumes_skipNumber n hrest
    rw [Numeral.write]
    cases n.negative with
    | true => exact hread.exists_some (offset + 1)
    | false =>
      obtain ⟨d, ds, htext⟩ := List.exists_cons_of_ne_nil n.whole.ne_nil
      have hd : d.isDigit = true := n.whole.isDigit d (htext ▸ List.mem_cons_self)
      rw [Numeral.writeMagnitude, htext] at hread ⊢
      obtain ⟨offset', hread⟩ := hread.exists_some offset
      exact ⟨offset', (skipScalar?_of_isDigit hd _ offset).trans hread⟩
  | string h =>
    obtain ⟨body, hbody, rfl⟩ := h
    exact (consumes_skipString hbody rest).exists_some (offset + 1)

theorem passes_of_leaf {t : Tree} {text : List Char} (h : Leaf t text) : Passes text := by
  have hsolid := solid_of_leaf h
  refine ⟨0, ?_, fun frames before rest offset hbefore hrest => ?_⟩
  · obtain ⟨c, cs, rfl, -⟩ := hsolid
    simp
  · obtain ⟨offset', hread⟩ := skipScalar?_of_leaf h hrest (offset + before.length)
    refine ⟨offset', fun fuel => ?_⟩
    rw [skipUpTo_succ, skipPiece, skipBlanks_solid hbefore hsolid]
    dsimp only
    rw [hread]
    rfl

theorem consumes_skipKey {us : List Nat} {before name space : List Char} (hbefore : Blank before)
    (hname : Quotes us name) (hspace : Blank space) (rest : List Char) :
    Consumes skipKey (before ++ (name ++ (space ++ [':']))) () rest := by
  refine Consumes.blanks ?_ skipsBlanks_skipKey hbefore
  have hsolid := solid_of_quotes hname
  obtain ⟨body, hbody, rfl⟩ := hname
  have hkey : Consumes (fun c => (skipString c).andThen fun _ c => colon c)
      (body ++ ['"'] ++ (space ++ [':'])) () rest :=
    (consumes_skipString hbody _).andThen (consumes_colon hspace rest)
  intro offset
  obtain ⟨offset', hread⟩ := hkey (offset + 1)
  refine ⟨offset', ?_⟩
  rw [List.append_assoc, skipKey, skipBlanks_of_solid hsolid]
  rw [List.append_assoc] at hread
  exact hread

def Frame.opener : Frame → Char
  | list => '['
  | object => '{'

theorem skipPiece_opener (f : Frame) {before : List Char} (h : Blank before) (frames : List Frame)
    (more : List Char) (offset : Nat) : skipPiece frames ⟨before ++ f.opener :: more, offset⟩ =
      skipEmpty f frames ⟨more, offset + before.length + 1⟩ := by
  have hblank : Cursor.isBlank f.opener = false := by cases f <;> decide
  rw [skipPiece, skipBlanks_append h, skipBlanks_of_stops (stops_cons.2 hblank)]
  cases f <;> rfl

theorem passes_of_enclosed {f : Frame} {spells : α → List Char → Prop}
    (hpasses : ∀ a text, spells a text → PassesIn f text) {as : List α} {body : List Char}
    (h : Enclosed spells as body) : Passes (f.opener :: (body ++ [f.closer])) := by
  obtain ⟨more, hmore, hread⟩ := skipEmpty_of_enclosed hpasses h
  refine ⟨more, by simp only [List.length_cons, List.length_append]; omega,
    fun frames before rest offset hbefore _ => ?_⟩
  obtain ⟨offset', hread⟩ := hread frames rest (offset + before.length + 1)
  refine ⟨offset', fun fuel => ?_⟩
  rw [← hread fuel, skipUpTo_succ, List.cons_append, skipPiece_opener f hbefore, List.append_assoc,
    List.singleton_append]

theorem passesIn_list {text : List Char} (h : Passes text) (hsolid : Solid text) :
    PassesIn .list text := by
  obtain ⟨more, hmore, hread⟩ := h
  exact ⟨hsolid, more, hmore, fun frames => hread (.list :: frames)⟩

theorem passesIn_object {spells : Tree → List Char → Prop}
    (hpasses : ∀ t body, spells t body → Passes body) {m : List Nat × Tree} {text : List Char}
    (h : SpellsPair spells m text) : PassesIn .object text := by
  obtain @⟨name, space, behind, body, hname, hspace, hbehind, hbody⟩ := h
  constructor
  · obtain ⟨chars, -, rfl⟩ := hname
    exact ⟨'"', _, rfl, by decide, by decide⟩
  · obtain ⟨more, hmore, hread⟩ := hpasses m.2 body hbody
    refine ⟨more, by simp only [List.length_append, List.length_cons]; omega,
      fun frames before rest offset hbefore hrest => ?_⟩
    obtain ⟨middle, hkey⟩ :=
      consumes_skipKey hbefore hname hspace (behind ++ (body ++ rest)) offset
    obtain ⟨offset', hread⟩ := hread (.object :: frames) behind rest middle hbehind hrest
    refine ⟨offset', fun fuel => ?_⟩
    have htext : before ++ (name ++ (space ++ ':' :: (behind ++ body)) ++ rest) =
        before ++ (name ++ (space ++ [':'])) ++ (behind ++ (body ++ rest)) := by simp
    rw [goOn, htext, hkey, Reading.andThen_ok, hread]

theorem passes_of_tree {depth : Nat} {t : Tree} {text : List Char} (h : t.Spells depth text) :
    Passes text := by
  induction depth generalizing t text with
  | zero => exact passes_of_leaf h
  | succ depth ih =>
    rcases h with h | h
    · exact passes_of_leaf h
    · cases h with
      | list h =>
        exact passes_of_enclosed (f := .list)
          (fun _ _ h => passesIn_list (ih h) (Tree.solid_of_spells h)) h
      | object h =>
        exact passes_of_enclosed (f := .object)
          (fun _ _ h => passesIn_object (fun _ _ => ih) h) h

/-- Every text of the grammar is passed over, however deep it nests. -/
theorem consumes_skip_tree {depth : Nat} {t : Tree} {blanks text rest : List Char}
    (h : t.Spells depth text) (hblanks : Blank blanks) (hrest : Delimited rest) :
    Consumes skip (blanks ++ text) () rest := by
  intro offset
  obtain ⟨more, hmore, hread⟩ := passes_of_tree h
  obtain ⟨offset', hread⟩ := hread [] blanks rest offset hblanks hrest
  refine ⟨offset', ?_⟩
  have hfuel : (blanks ++ (text ++ rest)).length + 1 =
      (blanks ++ (text ++ rest)).length - more + more + 1 := by
    simp only [List.length_append]
    omega
  rw [List.append_assoc, skip]
  show skipUpTo ((blanks ++ (text ++ rest)).length + 1) _ _ = _
  rw [hfuel]
  exact hread _

theorem consumes_skip {depth : Nat} {v : Value} {blanks text rest : List Char}
    (h : Spells depth v text) (hblanks : Blank blanks) (hrest : Delimited rest) :
    Consumes skip (blanks ++ text) () rest := by
  obtain ⟨t, ht⟩ := exists_tree_of_spells h
  exact consumes_skip_tree ht hblanks hrest

end Router.Json
