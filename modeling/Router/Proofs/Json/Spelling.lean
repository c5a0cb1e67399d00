import Router.Json.Cursor
import Router.Proofs.Json.Enclosed
import Router.Proofs.Json.Numerals

/-!
How values are spelled: scalars by a word, a numeral or a string, lists and objects by what stands between
their brackets. Every spelling that does not nest deeper than the reader allows is read as its value, and
what is written is a spelling.
-/

set_option autoImplicit false
set_option relaxedAutoImplicit false

namespace Router.Json

open Router.Template (Stops stops_cons stops_nil takeWhile_append_of_stops dropWhile_append_of_stops)

variable {α : Type}

/-- The text is the value, which is no list and no object. -/
inductive Scalar : Value → List Char → Prop
  | null : Scalar .null ['n', 'u', 'l', 'l']
  | true : Scalar (.boolean true) ['t', 'r', 'u', 'e']
  | false : Scalar (.boolean false) ['f', 'a', 'l', 's', 'e']
  | number {n : Numeral} {x : Number} (h : n.number? = some x) : Scalar (.number x) n.write
  | string {s : String} {text : List Char} (h : SpellsString s text) : Scalar (.string s) text

/-- The text is the value, which is a list or an object, when `spells` says what spells the values in it. -/
inductive Composite (spells : Value → List Char → Prop) : Value → List Char → Prop
  | list {items : List Value} {body : List Char} (h : Enclosed spells items body) :
      Composite spells (.list items) ('[' :: (body ++ [']']))
  | object {members : List (String × Value)} {body : List Char}
      (h : Enclosed (SpellsMember Prod.fst fun m => spells m.2) members body) :
      Composite spells (.object members) ('{' :: (body ++ ['}']))

/-- The text is the value, and at most `depth` lists and objects stand inside one another in it. -/
def Spells : Nat → Value → List Char → Prop
  | 0, v, text => Scalar v text
  | depth + 1, v, text => Scalar v text ∨ Composite (Spells depth) v text

theorem spells_of_scalar {v : Value} {text : List Char} (h : Scalar v text) (depth : Nat) :
    Spells depth v text := by
  cases depth with
  | zero => exact h
  | succ depth => exact .inl h

theorem spells_of_composite {depth : Nat} {v : Value} {text : List Char}
    (h : Composite (Spells depth) v text) : Spells (depth + 1) v text := .inr h

theorem Numeral.write_eq_cons (n : Numeral) :
    ∃ c cs, n.write = c :: cs ∧ (c = '-' ∨ c.isDigit = true) := by
  rw [Numeral.write, Numeral.writeMagnitude]
  obtain ⟨d, ds, htext⟩ := List.exists_cons_of_ne_nil n.whole.ne_nil
  cases n.negative with
  | true => exact ⟨'-', _, rfl, .inl rfl⟩
  | false =>
    rw [htext]
    exact ⟨d, _, rfl, .inr (n.whole.isDigit d (htext ▸ List.mem_cons_self))⟩

theorem solid_of_isDigit {c : Char} (h : c.isDigit = true) (cs : List Char) : Solid (c :: cs) := by
  refine ⟨c, cs, rfl, ?_, ne_of_isDigit h (by decide)⟩
  by_contra hblank
  have hmem : c ∈ delimiters := mem_delimiters_of_isBlank (by simpa using hblank)
  simp [isDigit_of_mem_delimiters hmem] at h

theorem solid_of_scalar {v : Value} {text : List Char} (h : Scalar v text) : Solid text := by
  cases h with
  | null => exact ⟨_, _, rfl, by decide, by decide⟩
  | true => exact ⟨_, _, rfl, by decide, by decide⟩
  | false => exact ⟨_, _, rfl, by decide, by decide⟩
  | @number n x h =>
    obtain ⟨c, cs, htext, rfl | hdigit⟩ := n.write_eq_cons
    · exact ⟨_, _, htext, by decide, by decide⟩
    · exact htext ▸ solid_of_isDigit hdigit cs
  | string h =>
    obtain ⟨body, -, rfl⟩ := h
    exact ⟨_, _, rfl, by decide, by decide⟩

theorem solid_of_spells {depth : Nat} {v : Value} {text : List Char} (h : Spells depth v text) :
    Solid text := by
  cases depth with
  | zero => exact solid_of_scalar h
  | succ depth =>
    rcases h with h | h
    · exact solid_of_scalar h
    · cases h <;> exact ⟨_, _, rfl, by decide, by decide⟩

theorem scalar?_of_isDigit {d : Char} (h : d.isDigit = true) (more : List Char) (offset : Nat) :
    scalar? ⟨d :: more, offset⟩ = some ((number true ⟨d :: more, offset⟩).map .number) := by
  have hne : ∀ c : Char, c.isDigit = false → d ≠ c := fun c => ne_of_isDigit h
  rw [scalar?]
  simp only [hne 'n' (by decide), hne 't' (by decide), hne 'f' (by decide), hne '-' (by decide),
    if_false, if_pos h]

theorem scalar?_of_scalar {v : Value} {text rest : List Char} (h : Scalar v text)
    (hrest : Delimited rest) (offset : Nat) :
    ∃ offset', scalar? ⟨text ++ rest, offset⟩ = some (.ok (v, ⟨rest, offset'⟩)) := by
  cases h with
  | null =>
    exact ((consumes_word ['u', 'l', 'l'] rest).map fun _ => Value.null).exists_some (offset + 1)
  | true =>
    have hread := (consumes_word ['r', 'u', 'e'] rest).map fun _ => Value.boolean true
    exact hread.exists_some (offset + 1)
  | false =>
    have hread := (consumes_word ['a', 'l', 's', 'e'] rest).map fun _ => Value.boolean false
    exact hread.exists_some (offset + 1)
  | @number n x h =>
    have hread := (consumes_number h hrest).map Value.number
    rw [Numeral.write]
    cases hnegative : n.negative with
    | true =>
      rw [hnegative] at hread
      exact hread.exists_some (offset + 1)
    | false =>
      obtain ⟨d, ds, htext⟩ := List.exists_cons_of_ne_nil n.whole.ne_nil
      have hd : d.isDigit = true := n.whole.isDigit d (htext ▸ List.mem_cons_self)
      rw [hnegative, Numeral.writeMagnitude, htext] at hread
      rw [Numeral.writeMagnitude, htext]
      obtain ⟨offset', hread⟩ := hread.exists_some offset
      exact ⟨offset', (scalar?_of_isDigit hd _ offset).trans hread⟩
  | string h =>
    obtain ⟨body, hbody, rfl⟩ := h
    exact ((consumes_string hbody rest).map Value.string).exists_some (offset + 1)

theorem consumes_typed {v : Value} {text rest : List Char} (h : Scalar v text)
    (hrest : Delimited rest) {pick : Value → Option α} {a : α} (hpick : pick v = some a)
    (expected : String) : Consumes (typed expected pick) text a rest := by
  intro offset
  obtain ⟨offset', hread⟩ := scalar?_of_scalar h hrest offset
  refine ⟨offset', ?_⟩
  rw [typed, skipBlanks_of_solid (solid_of_scalar h), hread]
  simp [hpick]

theorem skipsBlanks_typed (expected : String) (pick : Value → Option α) :
    SkipsBlanks (typed expected pick) := by
  intro c
  rw [typed, typed, skipBlanks_skipBlanks]

theorem consumes_typedString {s : String} {text rest : List Char} (h : SpellsString s text)
    (hrest : Delimited rest) : Consumes typedString text s rest := by
  unfold typedString
  refine consumes_typed (.string h) hrest ?_ "a string"
  rfl

theorem skipsBlanks_typedString? : SkipsBlanks typedString? := by
  intro c
  rw [typedString?, typedString?, skipBlanks_skipBlanks]

theorem consumes_typedString?_null (rest : List Char) :
    Consumes typedString? ['n', 'u', 'l', 'l'] none rest := by
  intro offset
  obtain ⟨offset', hword⟩ := consumes_word ['u', 'l', 'l'] rest (offset + 1)
  refine ⟨offset', ?_⟩
  rw [typedString?, skipBlanks_of_solid (solid_of_scalar .null)]
  show (word ['u', 'l', 'l'] ⟨['u', 'l', 'l'] ++ rest, offset + 1⟩).map _ = _
  rw [hword]
  rfl

theorem consumes_typedString?_string {s : String} {text rest : List Char} (h : SpellsString s text)
    (hrest : Delimited rest) : Consumes typedString? text (some s) rest := by
  intro offset
  obtain ⟨offset', hread⟩ := consumes_typedString h hrest offset
  refine ⟨offset', ?_⟩
  have hsolid := solid_of_scalar (.string h)
  obtain ⟨body, -, rfl⟩ := h
  rw [typedString?, skipBlanks_of_solid hsolid]
  show (typedString ⟨'"' :: (body ++ ['"']) ++ rest, offset⟩).map some = _
  rw [hread]
  rfl

theorem skipsBlanks_value (depth : Nat) : SkipsBlanks (value depth) := by
  intro c
  rw [value.eq_def, value.eq_def, skipBlanks_skipBlanks]

theorem consumes_value_scalar {depth : Nat} {v : Value} {text rest : List Char} (h : Scalar v text)
    (hrest : Delimited rest) : Consumes (value depth) text v rest := by
  intro offset
  obtain ⟨offset', hread⟩ := scalar?_of_scalar h hrest offset
  refine ⟨offset', ?_⟩
  rw [value.eq_def, skipBlanks_of_solid (solid_of_scalar h)]
  dsimp only
  rw [hread]

theorem foldl_concat (members before : List (String × Value)) :
    members.foldl (fun got m => got ++ [m]) before = before ++ members := by
  induction members generalizing before with
  | nil => simp
  | cons m members ih => rw [List.foldl_cons, ih, List.append_assoc, List.singleton_append]

theorem admits_true {σ μ : Type} (put : σ → μ → σ) (s : σ) (ms : List μ) :
    Admits (fun _ _ => True) put s ms := by
  induction ms generalizing s with
  | nil => trivial
  | cons m ms ih => exact ⟨trivial, ih (put s m)⟩

theorem value_list (depth : Nat) (more : List Char) (offset : Nat) :
    value (depth + 1) ⟨'[' :: more, offset⟩ =
      (inList (items (value depth)) ⟨more, offset + 1⟩).map .list := by
  rw [value.eq_def, skipBlanks_of_stops (stops_cons.2 (by decide))]
  rfl

theorem value_object (depth : Nat) (more : List Char) (offset : Nat) :
    value (depth + 1) ⟨'{' :: more, offset⟩ =
      (inObject (members (fun got key c => (afterColon (value depth) c).map fun v => got ++ [(key, v)])
        []) ⟨more, offset + 1⟩).map .object := by
  rw [value.eq_def, skipBlanks_of_stops (stops_cons.2 (by decide))]
  rfl

/-- A value is read from any of its spellings that does not nest too deep. -/
theorem consumes_value {depth : Nat} {v : Value} {text rest : List Char} (h : Spells depth v text)
    (hrest : Delimited rest) : Consumes (value depth) text v rest := by
  induction depth generalizing v text rest with
  | zero => exact consumes_value_scalar h hrest
  | succ depth ih =>
    rcases h with h | h
    · exact consumes_value_scalar h hrest
    · intro offset
      cases h with
      | @list items body h =>
        have hlist := consumes_list (fun _ _ => solid_of_spells) (fun _ _ _ => ih) h rest
        obtain ⟨offset', hread⟩ := hlist.map Value.list (offset + 1)
        exact ⟨offset', (value_list depth _ offset).trans hread⟩
      | @object members body h =>
        let member (got : List (String × Value)) (key : String) (c : Cursor) :=
          (afterColon (value depth) c).map fun v => got ++ [(key, v)]
        have hmember : ∀ got (m : String × Value) before behind body rest, True → Blank before →
            Blank behind → Spells depth m.2 body → Delimited rest →
            Consumes (member got m.1) (before ++ ':' :: (behind ++ body)) (got ++ [m]) rest := by
          intro got m before behind body rest _ hbefore hbehind hbody hrest
          have hread := (ih hbody hrest).blanks (skipsBlanks_value depth) hbehind
          exact (consumes_afterColon hread hbefore).map fun v => got ++ [(m.1, v)]
        have hmembers := consumes_members hmember h (admits_true _ [] members) rest
        rw [foldl_concat, List.nil_append] at hmembers
        obtain ⟨offset', hread⟩ := (consumes_inObject hmembers).map Value.object (offset + 1)
        exact ⟨offset', (value_object depth _ offset).trans hread⟩

theorem blank_newLine (level : Nat) : Blank (newLine level) := by
  intro c hc
  rcases List.mem_cons.1 hc with rfl | hc
  · decide
  · rw [List.eq_of_mem_replicate hc]
    decide

theorem items_flatMap {spells : α → List Char → Prop} {write : α → List Char}
    {before behind : List Char} (hbefore : Blank before) (hbehind : Blank behind) (as : List α)
    (a : α) (h : ∀ b ∈ a :: as, spells b (write b)) :
    Items spells (a :: as)
      (before ++ (write a ++ (as.flatMap (fun b => ',' :: (before ++ write b)) ++ behind))) := by
  induction as generalizing a with
  | nil => exact .single hbefore (h a List.mem_cons_self) hbehind
  | cons b as ih =>
    obtain ⟨ha, has⟩ := List.forall_mem_cons.1 h
    have hitems := Items.cons hbefore ha blank_nil (ih b has)
    simpa using hitems

theorem writeItems_eq (level : Nat) (items : List Value) :
    writeItems level items = items.flatMap fun v => ',' :: (newLine level ++ v.write level) := by
  induction items with
  | nil => rfl
  | cons v items ih => simp [writeItems, ih]

def writeMember (level : Nat) (m : String × Value) : List Char :=
  writeString m.1 ++ ':' :: ' ' :: m.2.write level

theorem writeMembers_eq (level : Nat) (members : List (String × Value)) :
    writeMembers level members =
      members.flatMap fun m => ',' :: (newLine level ++ writeMember level m) := by
  induction members with
  | nil => rfl
  | cons m members ih => simp [writeMembers, writeMember, ih]

theorem composite_write_list {spells : Value → List Char → Prop} {level : Nat} {items : List Value}
    (h : ∀ v ∈ items, spells v (v.write (level + 1))) :
    Composite spells (.list items) ((Value.list items).write level) := by
  cases items with
  | nil => exact .list (.empty blank_nil)
  | cons v items =>
    have hitems := items_flatMap (blank_newLine (level + 1)) (blank_newLine level) items v h
    have hlist := Composite.list (.items hitems)
    simpa [Value.write, writeItems_eq] using hlist

theorem composite_write_object {spells : Value → List Char → Prop} {level : Nat}
    {members : List (String × Value)} (h : ∀ m ∈ members, spells m.2 (m.2.write (level + 1))) :
    Composite spells (.object members) ((Value.object members).write level) := by
  cases members with
  | nil => exact .object (.empty blank_nil)
  | cons m members =>
    have hmember : ∀ k ∈ m :: members,
        SpellsMember Prod.fst (fun m => spells m.2) k (writeMember (level + 1) k) := by
      intro k hk
      have hspace : Blank [' '] := by simp [Blank, Cursor.isBlank]
      have hspells : SpellsMember Prod.fst (fun m => spells m.2) k
          (writeString k.1 ++ ([] ++ ':' :: ([' '] ++ k.2.write (level + 1)))) :=
        .mk (spellsString_writeString k.1) blank_nil hspace (h k hk)
      exact hspells
    have hitems :=
      items_flatMap (blank_newLine (level + 1)) (blank_newLine level) members m hmember
    have hobject := Composite.object (.items hitems)
    simpa [Value.write, writeMember, writeMembers_eq] using hobject

theorem isEmpty_skipBlanks {blanks : List Char} (h : Blank blanks) (offset : Nat) :
    (Cursor.skipBlanks ⟨blanks, offset⟩).rest.isEmpty = true := by
  have hblanks := skipBlanks_append h [] offset
  rw [List.append_nil] at hblanks
  rw [hblanks]
  rfl

theorem delimited_of_blank {blanks : List Char} (h : Blank blanks) : Delimited blanks := by
  have hrest : Delimited ([] : List Char) := by
    intro c hc
    simp at hc
  simpa using delimited_blank_append h hrest

theorem readText_of_consumes {read : Cursor → Reading α} {before text behind : List Char} {a : α}
    (hread : SkipsBlanks read) (hbefore : Blank before) (hbehind : Blank behind)
    (h : Consumes read text a behind) :
    readText read (String.ofList (before ++ (text ++ behind))) = .ok a := by
  obtain ⟨offset', htext⟩ := h.blanks hread hbefore 0
  rw [List.append_assoc] at htext
  rw [readText, Cursor.start, String.toList_ofList, htext]
  simp only [isEmpty_skipBlanks hbehind, if_true]

theorem blank_line : Blank ['\n'] := by simp [Blank, Cursor.isBlank]

/-- A value that is written in a spelling reads back, with the end of the line behind it. -/
theorem readText_text {depth : Nat} {v : Value} (h : Spells depth v (v.write 0)) :
    readText (value depth) (v.text ++ "\n") = .ok v := by
  have htext : v.text ++ "\n" = String.ofList ([] ++ (v.write 0 ++ ['\n'])) := by
    rw [Value.text, List.nil_append, String.ofList_append]
  rw [htext]
  exact readText_of_consumes (skipsBlanks_value depth) blank_nil blank_line
    (consumes_value h (delimited_of_blank blank_line))

end Router.Json
