import Router.Proofs.Json.Strings

/-!
What stands inside of a list or an object: nothing but blanks, or items with commas between them and blanks
around them. An item of an object is a member: a key, a colon and a value. The readers of lists and
objects take such a text if their readers of one item or one member take each of them.
-/

set_option autoImplicit false
set_option relaxedAutoImplicit false

namespace Router.Json

open Router.Template (Stops stops_cons)

variable {α σ μ : Type}

/-- The text consists of the items, blanks around each and commas between them. -/
inductive Items (spells : α → List Char → Prop) : List α → List Char → Prop
  | single {a : α} {before text behind : List Char} (hbefore : Blank before) (h : spells a text)
      (hbehind : Blank behind) : Items spells [a] (before ++ (text ++ behind))
  | cons {a : α} {as : List α} {before text behind more : List Char} (hbefore : Blank before)
      (h : spells a text) (hbehind : Blank behind) (hmore : Items spells as more) :
      Items spells (a :: as) (before ++ (text ++ (behind ++ ',' :: more)))

/-- The text may stand between brackets or braces for the items. -/
inductive Enclosed (spells : α → List Char → Prop) : List α → List Char → Prop
  | empty {blanks : List Char} (h : Blank blanks) : Enclosed spells [] blanks
  | items {as : List α} {text : List Char} (h : Items spells as text) : Enclosed spells as text

inductive SpellsMember (key : μ → String) (spells : μ → List Char → Prop) (m : μ) : List Char → Prop
  | mk {name before behind body : List Char} (hname : SpellsString (key m) name)
      (hbefore : Blank before) (hbehind : Blank behind) (h : spells m body) :
      SpellsMember key spells m (name ++ (before ++ ':' :: (behind ++ body)))

/-- The text begins with a character that is neither blank nor a closing bracket. -/
def Solid (text : List Char) : Prop :=
  ∃ c cs, text = c :: cs ∧ Cursor.isBlank c = false ∧ c ≠ ']'

theorem Items.exists_spells {spells : α → List Char → Prop} {as : List α} {text : List Char}
    (h : Items spells as text) : ∀ a ∈ as, ∃ text, spells a text := by
  induction h with
  | single _ h _ => simpa using ⟨_, h⟩
  | cons _ h _ _ ih => exact List.forall_mem_cons.2 ⟨⟨_, h⟩, ih⟩

theorem Enclosed.exists_spells {spells : α → List Char → Prop} {as : List α} {text : List Char}
    (h : Enclosed spells as text) : ∀ a ∈ as, ∃ text, spells a text := by
  cases h with
  | empty => simp
  | items h => exact h.exists_spells

theorem Items.length_le {spells : α → List Char → Prop} {as : List α} {text : List Char}
    (h : Items spells as text) : as.length ≤ text.length + 1 := by
  induction h with
  | single => simp
  | cons _ _ _ _ ih =>
    simp only [List.length_cons, List.length_append]
    omega

theorem Enclosed.length_le {spells : α → List Char → Prop} {as : List α} {text : List Char}
    (h : Enclosed spells as text) : as.length ≤ text.length + 1 := by
  cases h with
  | empty => simp
  | items h => exact h.length_le

def Lead (isFirst : Bool) (text : List Char) : Prop :=
  if isFirst then text = [] else ∃ blanks, Blank blanks ∧ text = blanks ++ [',']

theorem lead_first : Lead true [] := rfl

theorem lead_comma {blanks : List Char} (h : Blank blanks) : Lead false (blanks ++ [',']) :=
  ⟨blanks, h, rfl⟩

/-- The text is left of a list or an object when these items have not been taken, `isFirst` at its
beginning. -/
inductive Left (spells : α → List Char → Prop) (isFirst : Bool) : List α → List Char → Prop
  | done {blanks : List Char} (h : Blank blanks) : Left spells isFirst [] blanks
  | more {as : List α} {lead text : List Char} (hlead : Lead isFirst lead)
      (h : Items spells as text) : Left spells isFirst as (lead ++ text)

section Left

variable {spells : α → List Char → Prop} {isFirst : Bool} {as : List α} {text : List Char}

theorem Enclosed.left (h : Enclosed spells as text) : Left spells true as text := by
  cases h with
  | empty hblank => exact .done hblank
  | items h => exact .more lead_first h

theorem Items.exists_left (h : Items spells as text) :
    ∃ a as' before item left, as = a :: as' ∧ text = before ++ (item ++ left) ∧ Blank before ∧
      spells a item ∧ Left spells false as' left := by
  cases h with
  | single hbefore h hbehind => exact ⟨_, _, _, _, _, rfl, rfl, hbefore, h, .done hbehind⟩
  | @cons a as before item behind more hbefore h hbehind hmore =>
    have hleft : Left spells false as (behind ++ [','] ++ more) := .more (lead_comma hbehind) hmore
    rw [List.append_assoc] at hleft
    exact ⟨_, _, _, _, _, rfl, rfl, hbefore, h, hleft⟩

theorem Left.delimited {closer : Char} (h : Left spells false as text) (hcloser : closer ∈ delimiters)
    (rest : List Char) : Delimited (text ++ closer :: rest) := by
  cases h with
  | done hblank => exact delimited_blank_append hblank (delimited_cons hcloser rest)
  | more hlead h =>
    obtain ⟨blanks, hblanks, rfl⟩ := hlead
    rw [List.append_assoc, List.append_assoc]
    exact delimited_blank_append hblanks (delimited_cons (by decide) _)

end Left

theorem skipBlanks_solid {blanks text : List Char} (hblanks : Blank blanks) (htext : Solid text)
    (rest : List Char) (offset : Nat) :
    Cursor.skipBlanks ⟨blanks ++ (text ++ rest), offset⟩ =
      ⟨text ++ rest, offset + blanks.length⟩ := by
  obtain ⟨c, cs, rfl, hblank, -⟩ := htext
  have hstops : Stops Cursor.isBlank (c :: cs ++ rest) := stops_cons.2 hblank
  rw [skipBlanks_append hblanks, skipBlanks_of_stops hstops]

theorem skipBlanks_of_solid {text : List Char} (h : Solid text) (rest : List Char) (offset : Nat) :
    Cursor.skipBlanks ⟨text ++ rest, offset⟩ = ⟨text ++ rest, offset⟩ :=
  skipBlanks_solid blank_nil h rest offset

theorem nextItem_of_lead {isFirst : Bool} {lead before text : List Char} (hlead : Lead isFirst lead)
    (hbefore : Blank before) (htext : Solid text) (rest : List Char) (offset : Nat) :
    ∃ offset', nextItem isFirst ⟨lead ++ (before ++ (text ++ rest)), offset⟩ =
      .ok (true, ⟨text ++ rest, offset'⟩) := by
  cases isFirst with
  | true =>
    obtain rfl : lead = [] := hlead
    refine ⟨offset + before.length, ?_⟩
    rw [List.nil_append, nextItem, skipBlanks_solid hbefore htext]
    obtain ⟨c, cs, rfl, -, hbracket⟩ := htext
    simp
  | false =>
    obtain ⟨blanks, hblanks, rfl⟩ := hlead
    refine ⟨offset + blanks.length + 1 + before.length, ?_⟩
    have hcomma : Solid [','] := ⟨',', [], rfl, by decide, by decide⟩
    rw [List.append_assoc, nextItem, skipBlanks_solid hblanks hcomma]
    simp only [List.singleton_append, Cursor.past, List.tail_cons,
      skipBlanks_solid hbefore htext]
    obtain ⟨c, cs, rfl, -, hbracket⟩ := htext
    simp [hbracket]

theorem nextItem_of_bracket (isFirst : Bool) {blanks : List Char} (h : Blank blanks)
    (rest : List Char) (offset : Nat) :
    ∃ offset', nextItem isFirst ⟨blanks ++ ']' :: rest, offset⟩ =
      .ok (false, ⟨']' :: rest, offset'⟩) := by
  have hstops : Stops Cursor.isBlank (']' :: rest) := stops_cons.2 (by decide)
  refine ⟨offset + blanks.length, ?_⟩
  rw [nextItem, skipBlanks_append h, skipBlanks_of_stops hstops]
  rfl

theorem nextItem_of_left {spells : α → List Char → Prop} {isFirst : Bool} {as : List α}
    {text : List Char} (hsolid : ∀ a text, spells a text → Solid text)
    (h : Left spells isFirst as text) (rest : List Char) (offset : Nat) :
    (as = [] ∧ ∃ offset', nextItem isFirst ⟨text ++ ']' :: rest, offset⟩ =
      .ok (false, ⟨']' :: rest, offset'⟩)) ∨
    ∃ a as' item left offset', as = a :: as' ∧ spells a item ∧ Left spells false as' left ∧
      nextItem isFirst ⟨text ++ ']' :: rest, offset⟩ =
        .ok (true, ⟨item ++ (left ++ ']' :: rest), offset'⟩) := by
  cases h with
  | done hblank => exact .inl ⟨rfl, nextItem_of_bracket isFirst hblank rest offset⟩
  | more hlead h =>
    obtain ⟨a, as', before, item, left, rfl, rfl, hbefore, hitem, hleft⟩ := h.exists_left
    obtain ⟨offset', hnext⟩ :=
      nextItem_of_lead hlead hbefore (hsolid a item hitem) (left ++ ']' :: rest) offset
    refine .inr ⟨a, as', item, left, offset', rfl, hitem, hleft, ?_⟩
    simpa using hnext

section Lists

variable {spells : α → List Char → Prop} {item : Cursor → Reading α}
  (hsolid : ∀ a text, spells a text → Solid text)
  (hitem : ∀ a text rest, spells a text → Delimited rest → Consumes item text a rest)
include hsolid hitem

theorem itemsUpTo_of_left {isFirst : Bool} {as : List α} {text : List Char}
    (h : Left spells isFirst as text) (rest : List Char) {fuel : Nat} (hfuel : as.length < fuel)
    (offset : Nat) : ∃ offset', itemsUpTo item fuel isFirst ⟨text ++ ']' :: rest, offset⟩ =
      .ok (as, ⟨']' :: rest, offset'⟩) := by
  induction fuel generalizing isFirst as text offset with
  | zero => exact absurd hfuel (Nat.not_lt_zero _)
  | succ fuel ih =>
    rw [itemsUpTo]
    rcases nextItem_of_left hsolid h rest offset with
      ⟨rfl, offset', hnext⟩ | ⟨a, as', piece, left, middle, rfl, hspells, hleft, hnext⟩
    · exact ⟨offset', by rw [hnext]; rfl⟩
    · have hrest : Delimited (left ++ ']' :: rest) := hleft.delimited (by decide) rest
      obtain ⟨middle', ha⟩ := hitem a piece _ hspells hrest middle
      obtain ⟨offset', hmore⟩ := ih hleft (Nat.lt_of_succ_lt_succ hfuel) middle'
      refine ⟨offset', ?_⟩
      rw [hnext, Reading.andThen_ok, if_pos rfl, ha, Reading.andThen_ok, hmore]
      rfl

theorem consumes_list {as : List α} {text : List Char} (h : Enclosed spells as text)
    (rest : List Char) : Consumes (inList (items item)) (text ++ [']']) as rest := by
  intro offset
  have hfuel : as.length < (text ++ ']' :: rest).length + 1 := by
    have hlength := h.length_le
    simp only [List.length_append, List.length_cons]
    omega
  obtain ⟨offset', hread⟩ : ∃ offset', items item ⟨text ++ ']' :: rest, offset⟩ =
      .ok (as, ⟨']' :: rest, offset'⟩) := itemsUpTo_of_left hsolid hitem h.left rest hfuel offset
  refine ⟨offset' + 1, ?_⟩
  rw [List.append_assoc, List.singleton_append, inList, hread]
  rfl

end Lists

theorem nextKey_of_quote {isFirst : Bool} {lead before : List Char} (hlead : Lead isFirst lead)
    (hbefore : Blank before) (more : List Char) (offset : Nat) :
    ∃ offset', nextKey isFirst ⟨lead ++ (before ++ '"' :: more), offset⟩ =
      (string ⟨more, offset'⟩).map some := by
  have hquote : Solid ['"'] := ⟨'"', [], rfl, by decide, by decide⟩
  have hskip : ∀ offset, Cursor.skipBlanks ⟨before ++ '"' :: more, offset⟩ =
      ⟨'"' :: more, offset + before.length⟩ := skipBlanks_solid hbefore hquote more
  cases isFirst with
  | true =>
    obtain rfl : lead = [] := hlead
    refine ⟨offset + before.length + 1, ?_⟩
    rw [List.nil_append, nextKey, hskip]
    rfl
  | false =>
    obtain ⟨blanks, hblanks, rfl⟩ := hlead
    have hcomma : Solid [','] := ⟨',', [], rfl, by decide, by decide⟩
    refine ⟨offset + blanks.length + 1 + before.length + 1, ?_⟩
    rw [List.append_assoc, nextKey, skipBlanks_solid hblanks hcomma]
    simp only [List.singleton_append, Cursor.past, List.tail_cons, hskip]
    rfl

theorem nextKey_of_brace (isFirst : Bool) {blanks : List Char} (h : Blank blanks)
    (rest : List Char) (offset : Nat) :
    ∃ offset', nextKey isFirst ⟨blanks ++ '}' :: rest, offset⟩ =
      .ok (none, ⟨'}' :: rest, offset'⟩) := by
  have hstops : Stops Cursor.isBlank ('}' :: rest) := stops_cons.2 (by decide)
  refine ⟨offset + blanks.length, ?_⟩
  rw [nextKey, skipBlanks_append h, skipBlanks_of_stops hstops]
  rfl

theorem nextKey_of_left {spells : α → List Char → Prop} {isFirst : Bool} {as : List α}
    {text : List Char} (hquote : ∀ a text, spells a text → text.head? = some '"')
    (h : Left spells isFirst as text) (rest : List Char) (offset : Nat) :
    (as = [] ∧ ∃ offset', nextKey isFirst ⟨text ++ '}' :: rest, offset⟩ =
      .ok (none, ⟨'}' :: rest, offset'⟩)) ∨
    ∃ a as' item left offset', as = a :: as' ∧ spells a item ∧ Left spells false as' left ∧
      nextKey isFirst ⟨text ++ '}' :: rest, offset⟩ =
        (string ⟨item.tail ++ (left ++ '}' :: rest), offset'⟩).map some := by
  cases h with
  | done hblank => exact .inl ⟨rfl, nextKey_of_brace isFirst hblank rest offset⟩
  | more hlead h =>
    obtain ⟨a, as', before, item, left, rfl, rfl, hbefore, hitem, hleft⟩ := h.exists_left
    obtain ⟨more, rfl⟩ := List.head?_eq_some_iff.1 (hquote a item hitem)
    obtain ⟨offset', hnext⟩ :=
      nextKey_of_quote hlead hbefore (more ++ (left ++ '}' :: rest)) offset
    refine .inr ⟨a, as', _, left, offset', rfl, hitem, hleft, ?_⟩
    simpa using hnext

theorem head?_of_spellsMember {key : μ → String} {spells : μ → List Char → Prop} (m : μ)
    (text : List Char) (h : SpellsMember key spells m text) : text.head? = some '"' := by
  obtain ⟨hname, -, -, -⟩ := h
  obtain ⟨chars, -, rfl⟩ := hname
  rfl

/-- Every member meets the condition on what the members before it have left. -/
def Admits (fresh : σ → μ → Prop) (put : σ → μ → σ) : σ → List μ → Prop
  | _, [] => True
  | s, m :: ms => fresh s m ∧ Admits fresh put (put s m) ms

section Objects

variable {key : μ → String} {spells : μ → List Char → Prop} {member : σ → String → Cursor → Reading σ}
  {fresh : σ → μ → Prop} {put : σ → μ → σ}
  (hmember : ∀ s m before behind body rest, fresh s m → Blank before → Blank behind →
    spells m body → Delimited rest →
    Consumes (member s (key m)) (before ++ ':' :: (behind ++ body)) (put s m) rest)
include hmember

theorem membersUpTo_of_left {isFirst : Bool} {ms : List μ} {text : List Char}
    (h : Left (SpellsMember key spells) isFirst ms text) (rest : List Char) {s : σ}
    (hadmits : Admits fresh put s ms) {fuel : Nat} (hfuel : ms.length < fuel) (offset : Nat) :
    ∃ offset', membersUpTo member fuel isFirst s ⟨text ++ '}' :: rest, offset⟩ =
      .ok (ms.foldl put s, ⟨'}' :: rest, offset'⟩) := by
  induction fuel generalizing isFirst ms text s offset with
  | zero => exact absurd hfuel (Nat.not_lt_zero _)
  | succ fuel ih =>
    rw [membersUpTo]
    rcases nextKey_of_left head?_of_spellsMember h rest offset with
      ⟨rfl, offset', hnext⟩ | ⟨m, ms', item, left, middle, rfl, hspells, hleft, hnext⟩
    · exact ⟨offset', by rw [hnext]; rfl⟩
    · obtain @⟨name, before, behind, body, hname, hbefore, hbehind, hbody⟩ := hspells
      obtain ⟨chars, hchars, rfl⟩ := hname
      obtain ⟨middle, hkey⟩ := consumes_string hchars
        (before ++ ':' :: (behind ++ body) ++ (left ++ '}' :: rest)) middle
      have hrest : Delimited (left ++ '}' :: rest) := hleft.delimited (by decide) rest
      obtain ⟨middle, hread⟩ :=
        hmember s m before behind body _ hadmits.1 hbefore hbehind hbody hrest middle
      obtain ⟨offset', hmore⟩ := ih hleft hadmits.2 (Nat.lt_of_succ_lt_succ hfuel) middle
      refine ⟨offset', ?_⟩
      rw [hnext, List.cons_append, List.tail_cons, List.append_assoc, hkey]
      show (member s (key m) _).andThen _ = _
      rw [hread, Reading.andThen_ok, hmore]
      rfl

theorem consumes_members {ms : List μ} {text : List Char}
    (h : Enclosed (SpellsMember key spells) ms text) {s : σ} (hadmits : Admits fresh put s ms)
    (rest : List Char) : Consumes (members member s) text (ms.foldl put s) ('}' :: rest) := by
  intro offset
  have hfuel : ms.length < (text ++ '}' :: rest).length + 1 := by
    have hlength := h.length_le
    simp only [List.length_append, List.length_cons]
    omega
  exact membersUpTo_of_left hmember h.left rest hadmits hfuel offset

end Objects

theorem consumes_inObject {inside : Cursor → Reading α} {text rest : List Char} {a : α}
    (h : Consumes inside text a ('}' :: rest)) : Consumes (inObject inside) (text ++ ['}']) a rest := by
  intro offset
  obtain ⟨offset', hread⟩ := h offset
  refine ⟨offset' + 1, ?_⟩
  rw [List.append_assoc, List.singleton_append, inObject, hread]
  rfl

end Router.Json
