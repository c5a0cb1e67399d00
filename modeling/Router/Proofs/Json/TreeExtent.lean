import Router.Proofs.Json.Extent

/-!
How far readers of lists, objects and whole values go. Each step of a loop takes one item off what is left,
so a loop that succeeds has taken all of them.
-/

set_option autoImplicit false
set_option relaxedAutoImplicit false

namespace Router.Json

open Router.Template (stops_cons)

variable {α β σ μ : Type}

section Lists

variable {spells : α → List Char → Prop} {isFirst : Bool} {as : List α} {text rest : List Char}

theorem rest_eq_of_closeList {offset : Nat} {c : Cursor} (h : Left spells false as text)
    (hread : Cursor.closeList ⟨text ++ ']' :: rest, offset⟩ = .ok ((), c)) : c.rest = rest := by
  cases h with
  | done hblank =>
    rw [Cursor.closeList, skipBlanks_append hblank,
      skipBlanks_of_stops (stops_cons.2 (by decide))] at hread
    rw [← (Reading.ok_inj hread).2]
    rfl
  | more hlead h =>
    obtain ⟨blanks, hblanks, rfl⟩ := hlead
    have hcomma : Solid [','] := ⟨',', [], rfl, by decide, by decide⟩
    rw [Cursor.closeList, List.append_assoc, List.append_assoc, skipBlanks_solid hblanks hcomma]
      at hread
    simp at hread

/-- The cursor is in a list behind some of its items. -/
def StopsInside (spells : α → List Char → Prop) (rest : List Char) (c : Cursor) : Prop :=
  ∃ as left, Left spells false as left ∧ c.rest = left ++ ']' :: rest

theorem stopsInside_end {c : Cursor} (h : c.rest = ']' :: rest) : StopsInside spells rest c :=
  ⟨[], [], .done blank_nil, h⟩

/-- A reader that stops in a list behind some of its items takes the whole list with its bracket. -/
theorem takesJust_inList {inside : Cursor → Reading β} {P : β → Prop}
    (h : ∀ offset b c, inside ⟨text ++ ']' :: rest, offset⟩ = .ok (b, c) →
      P b ∧ StopsInside spells rest c) :
    TakesJust (inList inside) (text ++ [']']) P rest := by
  intro offset b c hread
  rw [List.append_assoc, List.singleton_append, inList] at hread
  split at hread
  · simp at hread
  · rename_i b' c' hinside
    obtain ⟨hb, as, left, hleft, hc'⟩ := h offset b' c' hinside
    obtain ⟨_, hclose, rfl⟩ := Reading.map_eq_ok hread
    obtain ⟨middle, offset'⟩ := c'
    subst hc'
    exact ⟨rest_eq_of_closeList hleft hclose, hb⟩

variable {item : Cursor → Reading β} {Q : α → Prop}
  (hsolid : ∀ a text, spells a text → Solid text)
  (hitem : ∀ a text rest, spells a text → Delimited rest →
    TakesJust item text (fun _ => Q a) rest)
include hsolid hitem

theorem takesJust_itemsUpTo (h : Left spells isFirst as text) (fuel : Nat) (rest : List Char) :
    TakesJust (itemsUpTo item fuel isFirst) text (fun _ => ∀ a ∈ as, Q a) (']' :: rest) := by
  induction fuel generalizing isFirst as text with
  | zero => exact fun _ _ _ hread => by simp [itemsUpTo] at hread
  | succ fuel ih =>
    intro offset bs c hread
    rw [itemsUpTo] at hread
    rcases nextItem_of_left hsolid h rest offset with
      ⟨rfl, offset', hnext⟩ | ⟨a, as', piece, left, offset', rfl, hspells, hleft, hnext⟩
    · rw [hnext, Reading.andThen_ok] at hread
      obtain ⟨rfl, rfl⟩ := Reading.ok_inj hread
      exact ⟨rfl, List.forall_mem_nil _⟩
    · rw [hnext, Reading.andThen_ok, if_pos rfl] at hread
      obtain ⟨b, ⟨middle, offset''⟩, hb, hlater⟩ := Reading.andThen_eq_ok hread
      obtain ⟨rfl, ha⟩ := hitem a piece _ hspells (hleft.delimited (by decide) rest) offset' b _ hb
      obtain ⟨bs, hbs, rfl⟩ := Reading.map_eq_ok hlater
      obtain ⟨hrest, hall⟩ := ih hleft offset'' bs c hbs
      exact ⟨hrest, List.forall_mem_cons.2 ⟨ha, hall⟩⟩

theorem takesJust_list (h : Enclosed spells as text) (rest : List Char) :
    TakesJust (inList (items item)) (text ++ [']']) (fun _ => ∀ a ∈ as, Q a) rest := by
  have hinside : ∀ offset bs c, items item ⟨text ++ ']' :: rest, offset⟩ = .ok (bs, c) →
      (∀ a ∈ as, Q a) ∧ StopsInside spells rest c := by
    intro offset bs c hread
    obtain ⟨hrest, hall⟩ := takesJust_itemsUpTo hsolid hitem h.left _ rest offset bs c hread
    exact ⟨hall, stopsInside_end hrest⟩
  exact takesJust_inList hinside

end Lists

/-- The members lead from one state to another, one step for each. -/
inductive Leads (step : σ → μ → σ → Prop) : σ → List μ → σ → Prop
  | nil {s : σ} : Leads step s [] s
  | cons {s s' s'' : σ} {m : μ} {ms : List μ} (h : step s m s') (hmore : Leads step s' ms s'') :
      Leads step s (m :: ms) s''

section Leads

variable {step : σ → μ → σ → Prop} {s s' : σ} {ms : List μ}

theorem Leads.forall_mem {Q : μ → Prop} (h : Leads step s ms s')
    (hstep : ∀ s m s', step s m s' → Q m) : ∀ m ∈ ms, Q m := by
  induction h with
  | nil => exact List.forall_mem_nil _
  | cons hm _ ih => exact List.forall_mem_cons.2 ⟨hstep _ _ _ hm, ih⟩

/-- What each step counts is counted by the whole run. -/
theorem Leads.count_eq {f : σ → Nat} {p : μ → Bool} (h : Leads step s ms s')
    (hstep : ∀ s m s', step s m s' → f s' = f s + if p m then 1 else 0) :
    f s' = f s + ms.countP p := by
  induction h with
  | nil => simp
  | cons hm _ ih =>
    rw [ih, hstep _ _ _ hm, List.countP_cons]
    omega

end Leads

section Objects

variable {spells : Tree → List Char → Prop} {isFirst : Bool} {ms : List (List Nat × Tree)}
  {text : List Char}

theorem head?_of_spellsPair (m : List Nat × Tree) (text : List Char) (h : SpellsPair spells m text) :
    text.head? = some '"' := by
  obtain ⟨hname, -, -, -⟩ := h
  obtain ⟨chars, -, rfl⟩ := hname
  rfl

variable {member : σ → String → Cursor → Reading σ} {step : σ → List Nat × Tree → σ → Prop}
  (hmember : ∀ s key t before behind body rest, Blank before → Blank behind → spells t body →
    Delimited rest →
    TakesJust (member s key) (before ++ ':' :: (behind ++ body)) (step s (units key, t)) rest)
include hmember

theorem takesJust_membersUpTo (h : Left (SpellsPair spells) isFirst ms text) (fuel : Nat) (s : σ)
    (rest : List Char) :
    TakesJust (membersUpTo member fuel isFirst s) text (Leads step s ms) ('}' :: rest) := by
  induction fuel generalizing isFirst ms text s with
  | zero => exact fun _ _ _ hread => by simp [membersUpTo] at hread
  | succ fuel ih =>
    intro offset s'' c hread
    rw [membersUpTo] at hread
    rcases nextKey_of_left head?_of_spellsPair h rest offset with
      ⟨rfl, offset', hnext⟩ | ⟨⟨us, t⟩, ms', item, left, offset', rfl, hspells, hleft, hnext⟩
    · rw [hnext, Reading.andThen_ok] at hread
      obtain ⟨rfl, rfl⟩ := Reading.ok_inj hread
      exact ⟨rfl, .nil⟩
    · obtain @⟨name, before, behind, body, hname, hbefore, hbehind, hbody⟩ := hspells
      obtain ⟨chars, hchars, rfl⟩ := hname
      have hrest : Delimited (left ++ '}' :: rest) := hleft.delimited (by decide) rest
      rw [hnext, List.cons_append, List.tail_cons, List.append_assoc] at hread
      obtain ⟨key, ⟨middle, offset'⟩, hkey, hlater⟩ := Reading.andThen_eq_ok hread
      obtain ⟨k, hstring, rfl⟩ := Reading.map_eq_ok hkey
      obtain ⟨rfl, hunits⟩ := takesJust_string hchars _ _ k _ hstring
      obtain rfl : units k = us := hunits
      obtain ⟨s', ⟨middle, offset'⟩, hs', hlater⟩ := Reading.andThen_eq_ok hlater
      obtain ⟨rfl, hstep⟩ := hmember s k t before behind body _ hbefore hbehind hbody hrest _ s' _ hs'
      obtain ⟨hend, hleads⟩ := ih hleft s' offset' s'' c hlater
      exact ⟨hend, .cons hstep hleads⟩

theorem takesJust_members (h : Enclosed (SpellsPair spells) ms text) (s : σ) (rest : List Char) :
    TakesJust (members member s) text (Leads step s ms) ('}' :: rest) :=
  fun offset s' c hread => takesJust_membersUpTo hmember h.left _ s rest offset s' c hread

end Objects

theorem takesJust_inObject {inside : Cursor → Reading α} {text rest : List Char} {P : α → Prop}
    (h : TakesJust inside text P ('}' :: rest)) :
    TakesJust (inObject inside) (text ++ ['}']) P rest := by
  intro offset a c hread
  rw [List.append_assoc, List.singleton_append, inObject] at hread
  split at hread
  · simp at hread
  · rename_i a' c' hinside
    obtain ⟨hc', ha⟩ := h offset a' c' hinside
    obtain ⟨middle, offset'⟩ := c'
    subst hc'
    obtain ⟨_, hclose, rfl⟩ := Reading.map_eq_ok hread
    rw [Cursor.closeObject, skipBlanks_of_stops (stops_cons.2 (by decide))] at hclose
    rw [← (Reading.ok_inj hclose).2]
    exact ⟨rfl, ha⟩

section Values

variable {depth limit : Nat} {t : Tree} {text rest : List Char}

theorem takesJust_value_leaf (h : Leaf t text) (hrest : Delimited rest) :
    TakesJust (value limit) text (fun _ => True) rest := by
  intro offset v c hread
  obtain ⟨r, hscalar, hextent⟩ := scalar?_of_leaf h hrest offset
  rw [value.eq_def, skipBlanks_of_solid (solid_of_leaf h)] at hread
  dsimp only at hread
  rw [hscalar] at hread
  exact ⟨(hextent v c hread).1, trivial⟩

theorem takesJust_value_tooDeep {spells : Tree → List Char → Prop} (h : Branch spells t text) :
    TakesJust (value 0) text (fun _ => False) rest := by
  intro offset v c hread
  have hsolid : Solid text := by
    cases h <;> exact ⟨_, _, rfl, by decide, by decide⟩
  rw [value.eq_def, skipBlanks_of_solid hsolid] at hread
  cases h <;> simp [scalar?] at hread

/-- A value that is read is a whole tree, however deep the reader is allowed to go. -/
theorem takesJust_value (h : t.Spells depth text) (hrest : Delimited rest) :
    TakesJust (value limit) text (fun _ => True) rest := by
  -- on the depth of the tree: the limit of the reader may be smaller, and then it fails
  induction depth generalizing t limit text rest with
  | zero => exact takesJust_value_leaf h hrest
  | succ depth ih =>
    rcases h with h | h
    · exact takesJust_value_leaf h hrest
    · cases limit with
      | zero => exact (takesJust_value_tooDeep h).imp fun _ hfalse => hfalse.elim
      | succ limit =>
        intro offset v c hread
        cases h with
        | @list items body h =>
          have hitem : ∀ (t : Tree) text rest, t.Spells depth text → Delimited rest →
              TakesJust (value limit) text (fun _ => True) rest := fun _ _ _ => ih
          have hlist := takesJust_list (fun _ _ => Tree.solid_of_spells) hitem h rest
          rw [List.cons_append, value_list] at hread
          obtain ⟨vs, hvs, rfl⟩ := Reading.map_eq_ok hread
          exact ⟨(hlist _ vs c hvs).1, trivial⟩
        | @object ms body h =>
          let member (got : List (String × Value)) (key : String) (c : Cursor) :=
            (afterColon (value limit) c).map fun v => got ++ [(key, v)]
          have hmember : ∀ got key (t : Tree) before behind body rest, Blank before → Blank behind →
              t.Spells depth body → Delimited rest →
              TakesJust (member got key) (before ++ ':' :: (behind ++ body)) (fun _ => True) rest := by
            intro got key t before behind body rest hbefore hbehind hbody hrest
            have hvalue := (ih hbody hrest).blanks (skipsBlanks_value limit) hbehind
            exact (takesJust_afterColon hvalue hbefore).map fun _ _ => trivial
          have hmembers : TakesJust (members member []) body (Leads (fun _ _ _ => True) [] ms)
              ('}' :: rest) := takesJust_members hmember h [] rest
          rw [List.cons_append, value_object] at hread
          obtain ⟨got, hgot, rfl⟩ := Reading.map_eq_ok hread
          exact ⟨(takesJust_inObject hmembers _ got c hgot).1, trivial⟩

end Values

end Router.Json
