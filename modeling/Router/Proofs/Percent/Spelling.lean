import Router.Proofs.Percent.Escapes

/-!
Encoded forms of a text. Every character stands for itself or is spelled by the escapes of all its
bytes, each digit in either letter case; only `%` has to be spelled. Whichever characters are
spelled, the decoder gives the text back.
-/

set_option autoImplicit false
set_option relaxedAutoImplicit false

namespace Router.Percent

open Router.Json (IsHexDigit)
open Router.Text

inductive SpellsByte (b : UInt8) : List Char → Prop
  | escape {hi lo : Char} (hhi : IsHexDigit (b.toNat / 16) hi)
      (hlo : IsHexDigit (b.toNat % 16) lo) : SpellsByte b ['%', hi, lo]

/-- The text stands for the character: it is the character, or the escapes of its bytes. -/
inductive SpellsChar (c : Char) : List Char → Prop
  | plain (h : c ≠ '%') : SpellsChar c [c]
  | escaped {escapes : List (List Char)}
      (h : List.Forall₂ SpellsByte (String.utf8EncodeChar c) escapes) : SpellsChar c escapes.flatten

/-- The second text is an encoded form of the first. -/
inductive Spells : List Char → List Char → Prop
  | nil : Spells [] []
  | cons {c : Char} {cs text more : List Char} (h : SpellsChar c text) (hcs : Spells cs more) :
      Spells (c :: cs) (text ++ more)

theorem Spells.append {cs ds text more : List Char} (h : Spells cs text) (hds : Spells ds more) :
    Spells (cs ++ ds) (text ++ more) := by
  induction h with
  | nil => exact hds
  | cons hc _ ih =>
    rw [List.cons_append, List.append_assoc]
    exact .cons hc ih

theorem spells_singleton {c : Char} {text : List Char} (h : SpellsChar c text) :
    Spells [c] text := by
  simpa using Spells.cons h .nil

theorem spells_self {cs : List Char} (h : '%' ∉ cs) : Spells cs cs := by
  induction cs with
  | nil => exact .nil
  | cons c cs ih =>
    obtain ⟨hc, hcs⟩ := not_or.1 (mt List.mem_cons.2 h)
    exact .cons (.plain (Ne.symm hc)) (ih hcs)

theorem spells_mark : Spells ['%'] ['%', '2', '5'] := by
  have hbyte : SpellsByte '%'.toUInt8 ['%', '2', '5'] := .escape (by decide) (by decide)
  exact spells_singleton (@SpellsChar.escaped '%' [['%', '2', '5']] (.cons hbyte .nil))

theorem replaced_append_of_spellsByte {b : UInt8} {text : List Char} (h : SpellsByte b text)
    (rest : List Char) : replaced (text ++ rest) = b :: replaced rest := by
  cases h with
  | @escape hi lo hhi hlo =>
    have hb := b.toNat_lt
    have hx := digit?_eq_some.2 ⟨by omega, hhi⟩
    have hy := digit?_eq_some.2 ⟨by omega, hlo⟩
    have hbyte : b = UInt8.ofNat (16 * (b.toNat / 16) + b.toNat % 16) := by
      rw [Nat.div_add_mod, UInt8.ofNat_toNat]
    exact replaced_escape (leadingEscape?_eq_some.2 ⟨hi, lo, rest, _, _, rfl, hx, hy, hbyte⟩)

theorem replaced_append_of_spellsBytes {bytes : List UInt8} {escapes : List (List Char)}
    (h : List.Forall₂ SpellsByte bytes escapes) (rest : List Char) :
    replaced (escapes.flatten ++ rest) = bytes ++ replaced rest := by
  induction h with
  | nil => rfl
  | cons hb _ ih =>
    rw [List.flatten_cons, List.append_assoc, replaced_append_of_spellsByte hb, ih,
      List.cons_append]

theorem replaced_append_of_spellsChar {c : Char} {text : List Char} (h : SpellsChar c text)
    (rest : List Char) : replaced (text ++ rest) = String.utf8EncodeChar c ++ replaced rest := by
  cases h with
  | plain hc => exact replaced_cons (leadingEscape?_of_ne hc rest)
  | escaped hbytes => exact replaced_append_of_spellsBytes hbytes rest

theorem replaced_of_spells {cs text : List Char} (h : Spells cs text) :
    replaced text = utf8 cs := by
  induction h with
  | nil => rfl
  | cons hc _ ih => rw [replaced_append_of_spellsChar hc, ih, utf8_cons]

theorem decode_eq_of_spells {s encoded : String} (h : Spells s.toList encoded.toList) :
    decode encoded = s := by
  rw [decode_eq_unescapeText]
  exact unescapeText_of_utf8_eq (replaced_of_spells h).symm

/-- Every encoded form of a text is decoded to the text, by the full reader as well as by the
decoder that returns a value without `%` at once. A `+` in it stays, and behind a spelled `%` the
text stays as it is, also if it looks like the rest of an escape. -/
theorem decode_of_spells {s encoded : String} (h : Spells s.toList encoded.toList) :
    decode encoded = s ∧ (∀ raw, decode raw = unescapeText raw) ∧
    ∀ s' encoded' : String, Spells s'.toList encoded'.toList →
      decode (encoded ++ "+" ++ encoded') = s ++ "+" ++ s' ∧
      decode (encoded ++ "%25" ++ encoded') = s ++ "%" ++ s' := by
  refine ⟨decode_eq_of_spells h, decode_eq_unescapeText, fun s' encoded' h' =>
    ⟨decode_eq_of_spells ?_, decode_eq_of_spells ?_⟩⟩
  · have hplus : Spells ['+'] ['+'] := spells_self (by decide)
    simpa using (h.append hplus).append h'
  · simpa using (h.append spells_mark).append h'

/-- A character of two bytes with digits of both cases, and a `%` in front of two digits. -/
theorem decode_of_spells_both_cases :
    Spells "é%41".toList "%c3%A9%2541".toList ∧ decode "%c3%A9%2541" = "é%41" ∧
      decode ("%c3%A9%2541" ++ "+" ++ "é") = "é%41" ++ "+" ++ "é" := by
  have hletter : Spells ['é'] ['%', 'c', '3', '%', 'A', '9'] := by
    have hfirst : SpellsByte 0xC3 ['%', 'c', '3'] := .escape (by decide) (by decide)
    have hsecond : SpellsByte 0xA9 ['%', 'A', '9'] := .escape (by decide) (by decide)
    exact spells_singleton (@SpellsChar.escaped 'é' [['%', 'c', '3'], ['%', 'A', '9']]
      (.cons hfirst (.cons hsecond .nil)))
  have hdigits : Spells ['4', '1'] ['4', '1'] := spells_self (by decide)
  have h : Spells "é%41".toList "%c3%A9%2541".toList :=
    (hletter.append spells_mark).append hdigits
  obtain ⟨hdecode, -, hbetween⟩ := decode_of_spells h
  exact ⟨h, hdecode, (hbetween "é" "é" (spells_self (by decide))).1⟩

end Router.Percent
