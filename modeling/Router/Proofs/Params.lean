import Mathlib.Data.Finset.Card
import Router.Params

/-!
What a set of parameters holds. Setting a value changes the value under one name only. A set made
of a list of pairs has the names of the list, each once, and under each name the last of its values
in the list; a function applied to the values of the list is applied to the values of the set.
-/

set_option autoImplicit false
set_option relaxedAutoImplicit false

namespace Router.Params

def keys (p : Params) : List String := p.entries.map Prod.fst

theorem nodup_keys (p : Params) : p.keys.Nodup := by
  rw [keys, List.nodup_iff_pairwise_ne, List.pairwise_map]
  exact p.ordered.imp fun h => String.ne_of_lt h

theorem isSome_lookup_iff {l : List (String × String)} {key : String} :
    (l.lookup key).isSome = true ↔ key ∈ l.map Prod.fst := by
  rw [List.lookup_isSome_iff, List.mem_map]
  exact exists_congr fun e => and_congr_right fun _ => by rw [beq_iff_eq, eq_comm]

theorem mem_keys_iff {p : Params} {key : String} : key ∈ p.keys ↔ (p.get? key).isSome = true :=
  isSome_lookup_iff.symm

theorem eq_empty_iff {p : Params} : p = empty ↔ p.keys = [] := by
  rw [keys, List.map_eq_nil_iff]
  constructor
  · rintro rfl
    rfl
  · intro h
    obtain ⟨entries, ordered⟩ := p
    obtain rfl : entries = [] := h
    rfl

theorem size_eq_card {p : Params} {names : List String} (h : ∀ key, key ∈ p.keys ↔ key ∈ names) :
    p.size = names.toFinset.card := by
  have hnames : p.keys.toFinset = names.toFinset := by
    ext key
    rw [List.mem_toFinset, List.mem_toFinset, h]
  rw [← hnames, List.toFinset_card_of_nodup p.nodup_keys, keys, List.length_map, size]

theorem lookup_cons_ite (k v key : String) (l : List (String × String)) :
    ((k, v) :: l).lookup key = if key = k then some v else l.lookup key := by
  by_cases h : key = k
  · simp [h]
  · simp [List.lookup_cons, beq_false_of_ne h, h]

theorem lookup_place (key value k : String) (l : List (String × String)) :
    (place key value l).lookup k = if k = key then some value else l.lookup k := by
  induction l with
  | nil => exact lookup_cons_ite key value k []
  | cons e l ih =>
    obtain ⟨k', v⟩ := e
    rw [place]
    split
    · exact lookup_cons_ite key value k _
    · split
      · rename_i heq
        subst heq
        rw [lookup_cons_ite, lookup_cons_ite]
        split <;> rfl
      · rename_i hne
        rw [lookup_cons_ite, lookup_cons_ite, ih]
        by_cases hk : k = k'
        · subst hk
          rw [if_pos rfl, if_neg (Ne.symm hne), if_pos rfl]
        · rw [if_neg hk, if_neg hk]

theorem get?_insert (p : Params) (key value k : String) :
    (p.insert key value).get? k = if k = key then some value else p.get? k :=
  lookup_place key value k p.entries

theorem map_place (f : String → String) (key value : String) (l : List (String × String)) :
    place key (f value) (l.map (Prod.map id f)) = (place key value l).map (Prod.map id f) := by
  induction l with
  | nil => rfl
  | cons e l ih =>
    obtain ⟨k, v⟩ := e
    rw [List.map_cons, Prod.map_apply, id, place, place, ih]
    split_ifs <;> rfl

theorem get?_foldl_insert (pairs : List (String × String)) (p : Params) (key : String) :
    (pairs.foldl (fun p e => p.insert e.1 e.2) p).get? key =
      (pairs.reverse.lookup key).or (p.get? key) := by
  induction pairs generalizing p with
  | nil => rfl
  | cons e pairs ih =>
    rw [List.foldl_cons, ih, get?_insert, List.reverse_cons, List.lookup_append,
      List.lookup_singleton, Option.or_assoc]
    by_cases hkey : key = e.1 <;> simp [hkey]

theorem get?_ofList (pairs : List (String × String)) (key : String) :
    (ofList pairs).get? key = pairs.reverse.lookup key := by
  rw [ofList, get?_foldl_insert]
  exact Option.or_none

theorem mem_keys_ofList {pairs : List (String × String)} {key : String} :
    key ∈ (ofList pairs).keys ↔ key ∈ pairs.map Prod.fst := by
  rw [mem_keys_iff, get?_ofList, isSome_lookup_iff, List.map_reverse, List.mem_reverse]

/-- Of the values under one name the last wins. -/
theorem get?_ofList_of_last {pairs : List (String × String)} {i : Nat} {key value : String}
    (h : pairs[i]? = some (key, value))
    (hlast : ∀ j e, i < j → pairs[j]? = some e → e.1 ≠ key) :
    (ofList pairs).get? key = some value := by
  obtain ⟨hi, hvalue⟩ := List.getElem?_eq_some_iff.1 h
  have hsplit : pairs = pairs.take i ++ (key, value) :: pairs.drop (i + 1) := by
    rw [← hvalue, List.getElem_cons_drop, List.take_append_drop]
  have hback : ∀ e ∈ pairs.drop (i + 1), e.1 ≠ key := by
    intro e he
    obtain ⟨n, hn⟩ := List.mem_iff_getElem?.1 he
    rw [List.getElem?_drop] at hn
    exact hlast (i + 1 + n) e (by omega) hn
  rw [get?_ofList, List.lookup_eq_some_iff]
  refine ⟨(pairs.drop (i + 1)).reverse, (pairs.take i).reverse, ?_, ?_⟩
  · conv => lhs; rw [hsplit]
    simp
  · intro e he
    rw [bne_iff_ne]
    exact Ne.symm (hback e (List.mem_reverse.1 he))

theorem foldl_insert_map (f : String → String) (pairs : List (String × String)) (p q : Params)
    (h : q.entries = p.entries.map (Prod.map id f)) :
    ((pairs.map (Prod.map id f)).foldl (fun p e => p.insert e.1 e.2) q).entries =
      (pairs.foldl (fun p e => p.insert e.1 e.2) p).entries.map (Prod.map id f) := by
  induction pairs generalizing p q with
  | nil => exact h
  | cons e pairs ih =>
    rw [List.map_cons, List.foldl_cons, List.foldl_cons]
    refine ih _ _ ?_
    change place e.1 (f e.2) q.entries = (place e.1 e.2 p.entries).map (Prod.map id f)
    rw [h, map_place]

theorem entries_ofList_map (f : String → String) (pairs : List (String × String)) :
    (ofList (pairs.map (Prod.map id f))).entries = (ofList pairs).entries.map (Prod.map id f) :=
  foldl_insert_map f pairs empty empty rfl

end Router.Params
