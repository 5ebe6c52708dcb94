import Mathlib

/-!
# Dictionaries

A dictionary keeps its entries in the order in which their keys came in.

* `Dict α β`: entries with distinct keys; `get?`, `set`, `erase`, `values`;
* `Dict.get?_eq_some_iff`: a key is looked up to the value of its entry;
* **`Dict.get?_set`, `Dict.get?_erase`**: the lookups after a write.
-/

/-- A finite map with its entries in the order of insertion. -/
structure Dict (α β : Type) where
  entries : List (α × β)
  nodup : (entries.map Prod.fst).Nodup

namespace Dict

variable {α β : Type}

/-- The dictionary without entries. -/
def empty : Dict α β := ⟨[], List.nodup_nil⟩

/-- The values in the order of their keys. -/
def values (d : Dict α β) : List β := d.entries.map Prod.snd

theorem eq_of_mem_entries {d : Dict α β} {k : α} {v w : β} (hv : (k, v) ∈ d.entries)
    (hw : (k, w) ∈ d.entries) : v = w := by
  have h := List.inj_on_of_nodup_map d.nodup hv hw rfl
  exact congrArg Prod.snd h

theorem mem_values {d : Dict α β} {v : β} : v ∈ d.values ↔ ∃ k, (k, v) ∈ d.entries := by
  rw [values, List.mem_map]
  constructor
  · rintro ⟨⟨k, v'⟩, h, rfl⟩
    exact ⟨k, h⟩
  · rintro ⟨k, h⟩
    exact ⟨(k, v), h, rfl⟩

variable [DecidableEq α]

/-- The value of a key, if it has one. -/
def get? (d : Dict α β) (k : α) : Option β := (d.entries.find? fun e => e.1 = k).map Prod.snd

theorem get?_eq_some_iff {d : Dict α β} {k : α} {v : β} :
    d.get? k = some v ↔ (k, v) ∈ d.entries := by
  rw [get?, Option.map_eq_some_iff]
  constructor
  · rintro ⟨⟨k', v'⟩, h, rfl⟩
    obtain rfl : k' = k := by simpa using List.find?_some h
    exact List.mem_of_find?_eq_some h
  · intro h
    cases hf : d.entries.find? fun e => e.1 = k with
    | none => simpa using List.find?_eq_none.mp hf _ h
    | some e =>
      obtain ⟨k', v'⟩ := e
      obtain rfl : k' = k := by simpa using List.find?_some hf
      exact ⟨_, rfl, eq_of_mem_entries (List.mem_of_find?_eq_some hf) h⟩

theorem get?_eq_none_iff {d : Dict α β} {k : α} : d.get? k = none ↔ k ∉ d.entries.map Prod.fst := by
  rw [get?, Option.map_eq_none_iff, List.find?_eq_none, List.mem_map]
  constructor
  · rintro h ⟨e, he, rfl⟩
    exact h e he (by simp)
  · intro h e he hk
    exact h ⟨e, he, by simpa using hk⟩

theorem mem_values_of_get? {d : Dict α β} {k : α} {v : β} (h : d.get? k = some v) :
    v ∈ d.values :=
  mem_values.mpr ⟨k, get?_eq_some_iff.mp h⟩

/-- Where no value has two keys, none is listed twice. -/
theorem nodup_values {d : Dict α β}
    (h : ∀ k k' v, d.get? k = some v → d.get? k' = some v → k = k') : d.values.Nodup := by
  refine d.nodup.of_map.map_on fun e he e' he' hv => ?_
  have hget : d.get? e.1 = some e.2 := get?_eq_some_iff.mpr he
  have hget' : d.get? e'.1 = some e.2 := by
    rw [hv]
    exact get?_eq_some_iff.mpr he'
  exact Prod.ext (h _ _ _ hget hget') hv

/-- The dictionary without the key. -/
def erase (d : Dict α β) (k : α) : Dict α β where
  entries := d.entries.filter fun e => e.1 ≠ k
  nodup := d.nodup.sublist (List.filter_sublist.map Prod.fst)

/-- **Looking up after an erasure.** -/
theorem get?_erase (d : Dict α β) (k k' : α) :
    (d.erase k).get? k' = if k' = k then none else d.get? k' := by
  split_ifs with h
  · subst h
    rw [get?_eq_none_iff]
    simp [erase]
  · ext v
    rw [get?_eq_some_iff, get?_eq_some_iff]
    simp [erase, h]

/-- The dictionary with a value for the key: a new key comes last. -/
def set (d : Dict α β) (k : α) (v : β) : Dict α β :=
  if h : k ∈ d.entries.map Prod.fst then
    { entries := d.entries.map fun e => if e.1 = k then (k, v) else e
      nodup := by
        have hkeys : (d.entries.map fun e => if e.1 = k then (k, v) else e).map Prod.fst =
            d.entries.map Prod.fst := by
          rw [List.map_map]
          refine List.map_congr_left fun e _ => ?_
          by_cases he : e.1 = k <;> simp [he]
        rw [hkeys]
        exact d.nodup }
  else
    { entries := d.entries ++ [(k, v)]
      nodup := by
        rw [List.map_append, List.nodup_append]
        refine ⟨d.nodup, List.nodup_singleton _, fun a ha b hb => ?_⟩
        rintro rfl
        obtain rfl : a = k := by simpa using hb
        exact h ha }

/-- **Looking up after a write.** -/
theorem get?_set (d : Dict α β) (k k' : α) (v : β) :
    (d.set k v).get? k' = if k' = k then some v else d.get? k' := by
  ext w
  rw [get?_eq_some_iff]
  unfold set
  by_cases h : k ∈ d.entries.map Prod.fst
  · rw [dif_pos h, List.mem_map]
    split_ifs with hk
    · subst hk
      obtain ⟨e, he, hek⟩ := List.mem_map.mp h
      constructor
      · rintro ⟨e', he', heq⟩
        by_cases hke : e'.1 = k' <;> simp [hke] at heq
        · rw [heq]
        · exact absurd (congrArg Prod.fst heq) hke
      · intro hw
        cases hw
        exact ⟨e, he, by rw [if_pos hek]⟩
    · rw [get?_eq_some_iff]
      constructor
      · rintro ⟨e', he', heq⟩
        by_cases hke : e'.1 = k
        · rw [if_pos hke] at heq
          exact absurd (congrArg Prod.fst heq).symm hk
        · rw [if_neg hke] at heq
          exact heq ▸ he'
      · intro hw
        exact ⟨(k', w), hw, by rw [if_neg hk]⟩
  · rw [dif_neg h, List.mem_append, List.mem_singleton]
    split_ifs with hk
    · subst hk
      constructor
      · rintro (hw | hw)
        · exact absurd (List.mem_map.mpr ⟨_, hw, rfl⟩) h
        · cases hw
          rfl
      · intro hw
        cases hw
        exact Or.inr rfl
    · rw [get?_eq_some_iff]
      constructor
      · rintro (hw | hw)
        · exact hw
        · cases hw
          exact absurd rfl hk
      · exact Or.inl

end Dict
