import Router.Json.Read
import Router.Proofs.Template.Tokens

/-!
What readers take. A reader consumes a text if from every place it takes just this text in front of the
rest, whatever has been read before. Readers of one thing after another consume the texts of both, and
readers that pass over blanks consume any number of them in front of a text.
-/

set_option autoImplicit false
set_option relaxedAutoImplicit false

namespace Router.Json

open Router.Template (Stops stops_cons stops_nil takeWhile_append_of_stops dropWhile_append_of_stops)

variable {α β : Type}

/-- From every place the reader takes the text in front of the rest and gives the value. -/
def Consumes (read : Cursor → Reading α) (text : List Char) (a : α) (rest : List Char) : Prop :=
  ∀ offset, ∃ offset', read ⟨text ++ rest, offset⟩ = .ok (a, ⟨rest, offset'⟩)

def Blank (text : List Char) : Prop := ∀ c ∈ text, Cursor.isBlank c = true

def SkipsBlanks (read : Cursor → Reading α) : Prop := ∀ c, read c.skipBlanks = read c

def delimiters : List Char := [' ', '\n', '\t', '\r', ',', ']', '}']

/-- The text is empty or goes on with what may follow a value. -/
def Delimited (rest : List Char) : Prop := ∀ c ∈ rest.head?, c ∈ delimiters

section Readings

variable {r : Reading α} {b : β} {c : Cursor}

theorem Reading.ok_inj {a a' : α} {c c' : Cursor} (h : (.ok (a, c) : Reading α) = .ok (a', c')) :
    a = a' ∧ c = c' := Prod.mk.inj (Except.ok.inj h)

theorem Reading.andThen_eq_ok {next : α → Cursor → Reading β} (h : r.andThen next = .ok (b, c)) :
    ∃ a c', r = .ok (a, c') ∧ next a c' = .ok (b, c) := by
  cases r with
  | error e => simp at h
  | ok p => exact ⟨p.1, p.2, rfl, h⟩

theorem Reading.map_eq_ok {f : α → β} (h : r.map f = .ok (b, c)) :
    ∃ a, r = .ok (a, c) ∧ f a = b := by
  obtain ⟨a, c', hr, hnext⟩ := Reading.andThen_eq_ok h
  obtain ⟨rfl, rfl⟩ := Reading.ok_inj hnext
  exact ⟨a, hr, rfl⟩

end Readings

theorem blank_nil : Blank [] := List.forall_mem_nil _

theorem delimited_cons {c : Char} (h : c ∈ delimiters) (rest : List Char) : Delimited (c :: rest) := by
  intro d hd
  obtain rfl : c = d := by simpa using hd
  exact h

theorem mem_delimiters_of_isBlank {c : Char} (h : Cursor.isBlank c = true) : c ∈ delimiters := by
  simp only [Cursor.isBlank, Bool.or_eq_true, decide_eq_true_eq, or_assoc] at h
  obtain rfl | rfl | rfl | rfl := h <;> decide

theorem delimited_blank_append {blanks rest : List Char} (h : Blank blanks) (hrest : Delimited rest) :
    Delimited (blanks ++ rest) := by
  cases blanks with
  | nil => exact hrest
  | cons c blanks => exact delimited_cons (mem_delimiters_of_isBlank (h c List.mem_cons_self)) _

theorem skipBlanks_append {blanks : List Char} (h : Blank blanks) (text : List Char) (offset : Nat) :
    Cursor.skipBlanks ⟨blanks ++ text, offset⟩ =
      Cursor.skipBlanks ⟨text, offset + blanks.length⟩ := by
  simp only [Cursor.skipBlanks, List.dropWhile_append_of_pos h, List.takeWhile_append_of_pos h,
    List.length_append, Cursor.mk.injEq, true_and]
  omega

theorem skipBlanks_of_stops {text : List Char} (h : Stops Cursor.isBlank text) (offset : Nat) :
    Cursor.skipBlanks ⟨text, offset⟩ = ⟨text, offset⟩ := by
  have htake : ([] ++ text).takeWhile Cursor.isBlank = [] := takeWhile_append_of_stops (by simp) h
  have hdrop : ([] ++ text).dropWhile Cursor.isBlank = text := dropWhile_append_of_stops (by simp) h
  rw [List.nil_append] at htake hdrop
  simp [Cursor.skipBlanks, htake, hdrop]

theorem skipBlanks_skipBlanks (c : Cursor) : c.skipBlanks.skipBlanks = c.skipBlanks :=
  skipBlanks_of_stops (Template.stops_dropWhile Cursor.isBlank c.rest) _

section Readers

variable {read : Cursor → Reading α} {text rest : List Char} {a : α}

theorem Consumes.exists_some (h : Consumes read text a rest) (offset : Nat) :
    ∃ offset', some (read ⟨text ++ rest, offset⟩) = some (.ok (a, ⟨rest, offset'⟩)) := by
  obtain ⟨offset', hread⟩ := h offset
  exact ⟨offset', congrArg some hread⟩

theorem Consumes.map (h : Consumes read text a rest) (f : α → β) :
    Consumes (fun c => (read c).map f) text (f a) rest := by
  intro offset
  obtain ⟨offset', hread⟩ := h offset
  refine ⟨offset', ?_⟩
  show (read _).map f = _
  rw [hread]
  rfl

theorem Consumes.andThen {next : α → Cursor → Reading β} {text' : List Char} {b : β}
    (h : Consumes read text a (text' ++ rest)) (h' : Consumes (next a) text' b rest) :
    Consumes (fun c => (read c).andThen next) (text ++ text') b rest := by
  intro offset
  obtain ⟨middle, hread⟩ := h offset
  obtain ⟨offset', hnext⟩ := h' middle
  refine ⟨offset', ?_⟩
  show (read _).andThen next = _
  rw [List.append_assoc, hread, Reading.andThen_ok, hnext]

theorem Consumes.blanks (h : Consumes read text a rest) (hread : SkipsBlanks read)
    {blanks : List Char} (hblanks : Blank blanks) :
    Consumes read (blanks ++ text) a rest := by
  intro offset
  obtain ⟨offset', hoffset⟩ := h (offset + blanks.length)
  refine ⟨offset', ?_⟩
  rw [← hread, List.append_assoc, skipBlanks_append hblanks, hread, hoffset]

theorem SkipsBlanks.andThen (h : SkipsBlanks read) (next : α → Cursor → Reading β) :
    SkipsBlanks fun c => (read c).andThen next := by
  intro c
  show (read c.skipBlanks).andThen next = (read c).andThen next
  rw [h]

end Readers

theorem consumes_word (letters rest : List Char) : Consumes (word letters) letters () rest := by
  induction letters with
  | nil => exact fun offset => ⟨offset, rfl⟩
  | cons letter letters ih =>
    intro offset
    obtain ⟨offset', hword⟩ := ih (offset + 1)
    refine ⟨offset', ?_⟩
    rw [List.cons_append, word]
    simpa [Cursor.past] using hword

theorem consumes_colon {blanks : List Char} (h : Blank blanks) (rest : List Char) :
    Consumes colon (blanks ++ [':']) () rest := by
  intro offset
  have hstops : Stops Cursor.isBlank (':' :: rest) := stops_cons.2 (by decide)
  refine ⟨offset + blanks.length + 1, ?_⟩
  rw [colon, List.append_assoc, skipBlanks_append h, List.singleton_append,
    skipBlanks_of_stops hstops]
  rfl

theorem consumes_afterColon {read : Cursor → Reading α} {text rest blanks : List Char} {a : α}
    (h : Consumes read text a rest) (hblanks : Blank blanks) :
    Consumes (afterColon read) (blanks ++ ':' :: text) a rest := by
  have htext : blanks ++ ':' :: text = (blanks ++ [':']) ++ text := by simp
  rw [htext]
  exact (consumes_colon hblanks _).andThen h

end Router.Json
