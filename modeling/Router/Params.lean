/-!
Path parameters: values under distinct names. The entries are kept in the order of their names, so
two sets of parameters are equal exactly when they give the same values.
-/

set_option autoImplicit false
set_option relaxedAutoImplicit false

namespace Router

/-- Values under distinct names, in the order of the names. -/
structure Params where
  entries : List (String × String)
  ordered : entries.Pairwise (fun a b => a.1 < b.1) := by simp
  deriving DecidableEq

namespace Params

def empty : Params := { entries := [] }

/-- Puts a value in its place among ordered entries, over any value of the same name. -/
def place (key value : String) : List (String × String) → List (String × String)
  | [] => [(key, value)]
  | (k, v) :: rest =>
    if key < k then (key, value) :: (k, v) :: rest
    else if key = k then (key, value) :: rest
    else (k, v) :: place key value rest

theorem mem_place {key value : String} {e : String × String} {l : List (String × String)}
    (h : e ∈ place key value l) : e = (key, value) ∨ e ∈ l := by
  induction l with
  | nil => simpa [place] using h
  | cons a l ih =>
    obtain ⟨k, v⟩ := a
    simp only [place] at h
    split at h
    · simpa using h
    · split at h
      · rcases List.mem_cons.1 h with h | h
        · exact .inl h
        · exact .inr (List.mem_cons_of_mem _ h)
      · rcases List.mem_cons.1 h with h | h
        · exact .inr (h ▸ List.mem_cons_self)
        · exact (ih h).imp id (List.mem_cons_of_mem _)

private theorem lt_of_not_lt_of_ne {a b : String} (h : ¬ a < b) (h' : a ≠ b) : b < a := by
  have hle : b ≤ a := String.not_lt.1 h
  rcases Decidable.em (b < a) with hlt | hlt
  · exact hlt
  · exact absurd (String.le_antisymm (String.not_lt.1 hlt) hle) h'

theorem ordered_place (key value : String) {l : List (String × String)}
    (h : l.Pairwise (fun a b => a.1 < b.1)) :
    (place key value l).Pairwise (fun a b => a.1 < b.1) := by
  induction l with
  | nil => simp [place]
  | cons a l ih =>
    obtain ⟨k, v⟩ := a
    obtain ⟨hk, hl⟩ := List.pairwise_cons.1 h
    simp only [place]
    split
    · rename_i hlt
      refine List.pairwise_cons.2 ⟨fun e he => ?_, h⟩
      rcases List.mem_cons.1 he with rfl | he
      · exact hlt
      · exact String.lt_trans hlt (hk e he)
    · split
      · rename_i heq
        subst heq
        exact List.pairwise_cons.2 ⟨fun e he => hk e he, hl⟩
      · rename_i hlt hne
        refine List.pairwise_cons.2 ⟨fun e he => ?_, ih hl⟩
        rcases mem_place he with rfl | he
        · exact lt_of_not_lt_of_ne hlt hne
        · exact hk e he

def insert (p : Params) (key value : String) : Params where
  entries := place key value p.entries
  ordered := ordered_place key value p.ordered

def get? (p : Params) (key : String) : Option String := p.entries.lookup key

def size (p : Params) : Nat := p.entries.length

def isEmpty (p : Params) : Bool := p.entries.isEmpty

/-- The parameters of a list of pairs, of which later ones win. -/
def ofList (pairs : List (String × String)) : Params :=
  pairs.foldl (fun p e => p.insert e.1 e.2) empty

end Params

end Router
