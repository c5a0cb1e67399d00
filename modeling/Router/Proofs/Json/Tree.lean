import Router.Proofs.Json.Spelling
import Router.Proofs.Text

/-!
What a JSON text is, before anybody asks what it says. A tree stands for a text that follows the grammar:
its numbers may be out of range, its strings are code units of 16 bits, of which an escape may spell half
a pair alone, and it may nest to any depth. What spells a value is the text of a tree.
-/

set_option autoImplicit false
set_option relaxedAutoImplicit false

namespace Router.Json

/-- The code units of a character: one, or the two halves of a pair. -/
def charUnits (c : Char) : List Nat :=
  if c.toNat < 0x10000 then [c.toNat] else [leadingHalf c, trailingHalf c]

def units (s : String) : List Nat := s.toList.flatMap charUnits

theorem charUnits_of_lt {c : Char} (h : c.toNat < 0x10000) : charUnits c = [c.toNat] := if_pos h

theorem charUnits_of_le {c : Char} (h : 0x10000 ≤ c.toNat) :
    charUnits c = [leadingHalf c, trailingHalf c] := if_neg (Nat.not_lt.2 h)

theorem prefixCode_charUnits : Text.PrefixCode charUnits := by
  constructor
  · intro c
    unfold charUnits
    split <;> simp
  · intro a b s t h
    have ha := toNat_lt_or_lt a
    have hb := toNat_lt_or_lt b
    refine Char.toNat_inj.1 ?_
    rcases Nat.lt_or_ge a.toNat 0x10000 with hlow | hhigh <;>
      rcases Nat.lt_or_ge b.toNat 0x10000 with hlow' | hhigh' <;>
      simp [charUnits_of_lt, charUnits_of_le, leadingHalf, trailingHalf, *] at h <;> omega

theorem units_injective : Function.Injective units := fun _ _ h =>
  String.toList_inj.1 (prefixCode_charUnits.flatMap_injective h)

theorem lt_of_spellsUnit {n : Nat} {digits : List Char} (h : SpellsUnit n digits) : n < 0x10000 := by
  obtain ⟨hlt⟩ := h
  exact hlt

/-- The text stands for the code units between the quotes of a string: a character as it is, or an escape
by a letter or by one unit. -/
inductive SpellsPiece : List Nat → List Char → Prop
  | plain {c : Char} (hquote : c ≠ '"') (hbackslash : c ≠ '\\') (hcontrol : isControl c = false) :
      SpellsPiece (charUnits c) [c]
  | letter {x c : Char} (h : (x, c) ∈ shortEscapes) : SpellsPiece (charUnits c) ['\\', x]
  | unit {n : Nat} {digits : List Char} (h : SpellsUnit n digits) :
      SpellsPiece [n] ('\\' :: 'u' :: digits)

inductive SpellsUnits : List Nat → List Char → Prop
  | nil : SpellsUnits [] []
  | cons {us vs : List Nat} {text more : List Char} (h : SpellsPiece us text)
      (hmore : SpellsUnits vs more) : SpellsUnits (us ++ vs) (text ++ more)

def Quotes (us : List Nat) (text : List Char) : Prop :=
  ∃ body, SpellsUnits us body ∧ text = '"' :: (body ++ ['"'])

/-- A JSON text by its grammar. -/
inductive Tree
  | null
  | boolean (b : Bool)
  | number (n : Numeral)
  | string (us : List Nat)
  | list (items : List Tree)
  | object (members : List (List Nat × Tree))

/-- The text is the tree, which is no list and no object. -/
inductive Leaf : Tree → List Char → Prop
  | null : Leaf .null ['n', 'u', 'l', 'l']
  | true : Leaf (.boolean true) ['t', 'r', 'u', 'e']
  | false : Leaf (.boolean false) ['f', 'a', 'l', 's', 'e']
  | number (n : Numeral) : Leaf (.number n) n.write
  | string {us : List Nat} {text : List Char} (h : Quotes us text) : Leaf (.string us) text

inductive SpellsPair (spells : Tree → List Char → Prop) (m : List Nat × Tree) : List Char → Prop
  | mk {name before behind body : List Char} (hname : Quotes m.1 name) (hbefore : Blank before)
      (hbehind : Blank behind) (h : spells m.2 body) :
      SpellsPair spells m (name ++ (before ++ ':' :: (behind ++ body)))

inductive Branch (spells : Tree → List Char → Prop) : Tree → List Char → Prop
  | list {items : List Tree} {body : List Char} (h : Enclosed spells items body) :
      Branch spells (.list items) ('[' :: (body ++ [']']))
  | object {members : List (List Nat × Tree)} {body : List Char}
      (h : Enclosed (SpellsPair spells) members body) :
      Branch spells (.object members) ('{' :: (body ++ ['}']))

/-- The text is the tree, and at most `depth` lists and objects stand inside one another in it. -/
def Tree.Spells : Nat → Tree → List Char → Prop
  | 0, t, text => Leaf t text
  | depth + 1, t, text => Leaf t text ∨ Branch (Tree.Spells depth) t text

inductive Tree.IsText (t : Tree) : List Char → Prop
  | mk {depth : Nat} {before text behind : List Char} (hbefore : Blank before)
      (h : t.Spells depth text) (hbehind : Blank behind) : IsText t (before ++ (text ++ behind))

theorem Tree.spells_of_branch {depth : Nat} {t : Tree} {text : List Char}
    (h : Branch (Tree.Spells depth) t text) : t.Spells (depth + 1) text := .inr h

theorem solid_of_quotes {us : List Nat} {text : List Char} (h : Quotes us text) : Solid text := by
  obtain ⟨body, -, rfl⟩ := h
  exact ⟨'"', _, rfl, by decide, by decide⟩

theorem begins_of_leaf {t : Tree} {text : List Char} (h : Leaf t text) :
    ∃ c cs, text = c :: cs ∧ (c ∈ ['n', 't', 'f', '-', '"'] ∨ c.isDigit = true) := by
  cases h with
  | null => exact ⟨_, _, rfl, .inl (by decide)⟩
  | true => exact ⟨_, _, rfl, .inl (by decide)⟩
  | false => exact ⟨_, _, rfl, .inl (by decide)⟩
  | number n =>
    obtain ⟨c, cs, htext, rfl | hdigit⟩ := n.write_eq_cons
    · exact ⟨_, _, htext, .inl (by decide)⟩
    · exact ⟨c, cs, htext, .inr hdigit⟩
  | string h =>
    obtain ⟨body, -, rfl⟩ := h
    exact ⟨_, _, rfl, .inl (by decide)⟩

theorem solid_of_leaf {t : Tree} {text : List Char} (h : Leaf t text) : Solid text := by
  have hletters : ∀ c ∈ ['n', 't', 'f', '-', '"'], Cursor.isBlank c = false ∧ c ≠ ']' := by
    simp [Cursor.isBlank]
  obtain ⟨c, cs, rfl, hc | hdigit⟩ := begins_of_leaf h
  · exact ⟨c, cs, rfl, hletters c hc⟩
  · exact solid_of_isDigit hdigit cs

theorem Tree.solid_of_spells {depth : Nat} {t : Tree} {text : List Char} (h : t.Spells depth text) :
    Solid text := by
  cases depth with
  | zero => exact solid_of_leaf h
  | succ depth =>
    rcases h with h | h
    · exact solid_of_leaf h
    · cases h <;> exact ⟨_, _, rfl, by decide, by decide⟩

section Beginnings

variable {depth : Nat} {t : Tree} {more : List Char}

theorem Tree.branch_of_spells {c : Char} (h : t.Spells depth (c :: more)) (hc : c = '[' ∨ c = '{') :
    ∃ depth', Branch (Tree.Spells depth') t (c :: more) := by
  have hnot : ¬ Leaf t (c :: more) := by
    intro hleaf
    obtain ⟨d, ds, htext, hd⟩ := begins_of_leaf hleaf
    obtain ⟨rfl, -⟩ := List.cons.inj htext
    rcases hc with rfl | rfl <;> revert hd <;> decide
  cases depth with
  | zero => exact absurd h hnot
  | succ depth => exact ⟨depth, h.resolve_left hnot⟩

theorem Tree.list_of_spells (h : t.Spells depth ('[' :: more)) :
    ∃ depth' items body, t = .list items ∧ more = body ++ [']'] ∧
      Enclosed (Tree.Spells depth') items body := by
  obtain ⟨depth', hbranch⟩ := Tree.branch_of_spells h (.inl rfl)
  generalize htext : '[' :: more = text at hbranch
  cases hbranch with
  | list hitems => exact ⟨depth', _, _, rfl, (List.cons.inj htext).2, hitems⟩
  | object _ => simp at htext

theorem Tree.object_of_spells (h : t.Spells depth ('{' :: more)) :
    ∃ depth' ms body, t = .object ms ∧ more = body ++ ['}'] ∧
      Enclosed (SpellsPair (Tree.Spells depth')) ms body := by
  obtain ⟨depth', hbranch⟩ := Tree.branch_of_spells h (.inr rfl)
  generalize htext : '{' :: more = text at hbranch
  cases hbranch with
  | list _ => simp at htext
  | object hmembers => exact ⟨depth', _, _, rfl, (List.cons.inj htext).2, hmembers⟩

theorem Tree.spells_object {ms : List (List Nat × Tree)} {text : List Char}
    (h : (Tree.object ms).Spells depth text) :
    ∃ depth' body, text = '{' :: (body ++ ['}']) ∧ Enclosed (SpellsPair (Tree.Spells depth')) ms body := by
  cases depth with
  | zero => cases h
  | succ depth =>
    rcases h with h | h
    · cases h
    · cases h with
      | object h => exact ⟨depth, _, rfl, h⟩

theorem Tree.eq_null_of_spells (h : t.Spells depth ('n' :: more)) : more = ['u', 'l', 'l'] := by
  have hleaf : ∀ {text}, Leaf t text → text = 'n' :: more → more = ['u', 'l', 'l'] := by
    intro text h htext
    cases h with
    | null => exact (List.cons.inj htext).2.symm
    | true => simp at htext
    | false => simp at htext
    | number n =>
      obtain ⟨c, cs, hwrite, hc⟩ := n.write_eq_cons
      obtain rfl := (List.cons.inj (hwrite.symm.trans htext)).1
      simp at hc
    | string h =>
      obtain ⟨body, -, rfl⟩ := h
      simp at htext
  cases depth with
  | zero => exact hleaf h rfl
  | succ depth =>
    rcases h with h | h
    · exact hleaf h rfl
    · generalize htext : 'n' :: more = text at h
      cases h <;> simp at htext

end Beginnings

theorem SpellsUnits.append {us vs : List Nat} {text more : List Char} (h : SpellsUnits us text)
    (hmore : SpellsUnits vs more) : SpellsUnits (us ++ vs) (text ++ more) := by
  induction h with
  | nil => exact hmore
  | cons h _ ih =>
    rw [List.append_assoc, List.append_assoc]
    exact .cons h ih

theorem SpellsPiece.spellsUnits {us : List Nat} {text : List Char} (h : SpellsPiece us text) :
    SpellsUnits us text := by
  have hone := SpellsUnits.cons h .nil
  rwa [List.append_nil, List.append_nil] at hone

theorem SpellsChar.spellsUnits {c : Char} {text : List Char} (h : SpellsChar c text) :
    SpellsUnits (charUnits c) text := by
  cases h with
  | plain hquote hbackslash hcontrol =>
    exact (SpellsPiece.plain hquote hbackslash hcontrol).spellsUnits
  | letter h => exact (SpellsPiece.letter h).spellsUnits
  | code h =>
    rw [charUnits_of_lt (lt_of_spellsUnit h)]
    exact (SpellsPiece.unit h).spellsUnits
  | pair h hleading htrailing =>
    rw [charUnits_of_le h]
    exact (SpellsPiece.unit hleading).spellsUnits.append (SpellsPiece.unit htrailing).spellsUnits

theorem SpellsChars.spellsUnits {cs text : List Char} (h : SpellsChars cs text) :
    SpellsUnits (cs.flatMap charUnits) text := by
  induction h with
  | nil => exact .nil
  | cons h _ ih => exact h.spellsUnits.append ih

theorem SpellsString.quotes {s : String} {text : List Char} (h : SpellsString s text) :
    Quotes (units s) text := by
  obtain ⟨body, hbody, rfl⟩ := h
  exact ⟨body, hbody.spellsUnits, rfl⟩

theorem Scalar.exists_leaf {v : Value} {text : List Char} (h : Scalar v text) :
    ∃ t, Leaf t text := by
  cases h with
  | null => exact ⟨_, .null⟩
  | true => exact ⟨_, .true⟩
  | false => exact ⟨_, .false⟩
  | @number n x h => exact ⟨_, .number n⟩
  | string h => exact ⟨_, .string h.quotes⟩

section Items

variable {α β : Type} {spells : α → List Char → Prop} {spells' : β → List Char → Prop}
  (h : ∀ a text, spells a text → ∃ b, spells' b text)
include h

theorem Items.exists_items {as : List α} {text : List Char} (hitems : Items spells as text) :
    ∃ bs, Items spells' bs text := by
  induction hitems with
  | single hbefore hitem hbehind =>
    obtain ⟨b, hb⟩ := h _ _ hitem
    exact ⟨_, .single hbefore hb hbehind⟩
  | cons hbefore hitem hbehind _ ih =>
    obtain ⟨b, hb⟩ := h _ _ hitem
    obtain ⟨bs, hbs⟩ := ih
    exact ⟨_, .cons hbefore hb hbehind hbs⟩

theorem Enclosed.exists_enclosed {as : List α} {text : List Char} (hitems : Enclosed spells as text) :
    ∃ bs, Enclosed spells' bs text := by
  cases hitems with
  | empty hblank => exact ⟨_, .empty hblank⟩
  | items hitems =>
    obtain ⟨bs, hbs⟩ := hitems.exists_items h
    exact ⟨bs, .items hbs⟩

end Items

/-- What spells a value is the text of a tree. -/
theorem exists_tree_of_spells {depth : Nat} {v : Value} {text : List Char}
    (h : Spells depth v text) : ∃ t : Tree, t.Spells depth text := by
  induction depth generalizing v text with
  | zero => exact Scalar.exists_leaf h
  | succ depth ih =>
    rcases h with h | h
    · obtain ⟨t, ht⟩ := h.exists_leaf
      exact ⟨t, .inl ht⟩
    · cases h with
      | list h =>
        obtain ⟨ts, hts⟩ := h.exists_enclosed fun _ _ hv => ih hv
        exact ⟨_, .inr (.list hts)⟩
      | object h =>
        have hpair : ∀ (m : String × Value) (text : List Char),
            SpellsMember Prod.fst (fun m => Json.Spells depth m.2) m text →
              ∃ p, SpellsPair (Tree.Spells depth) p text := by
          intro m text hm
          obtain ⟨hname, hbefore, hbehind, hbody⟩ := hm
          obtain ⟨t, ht⟩ := ih hbody
          exact ⟨(units m.1, t), .mk hname.quotes hbefore hbehind ht⟩
        obtain ⟨ms, hms⟩ := h.exists_enclosed hpair
        exact ⟨_, .inr (.object hms)⟩

end Router.Json
