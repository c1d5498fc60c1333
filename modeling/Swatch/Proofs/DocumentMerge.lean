import Mathlib.Data.List.Nodup
import Swatch.Document.Merge

/-! Laying one mapping over another, key by key and as a whole. A key finds what
the upper mapping has there, laid over what the lower one has. The entries of the
result are those of the lower mapping in their places, and then those that only
the upper one has, in its order. Which keys are the same is a matter of their
forms: a key of the lower mapping stays as it is written there. -/
namespace Swatch.DocumentMerge

variable {entries lower upper : Mapping} {key other : Scalar} {value : Value}

section Lookup
variable {κ ν : Type} [BEq κ] [LawfulBEq κ] {pairs : List (κ × ν)} {k : κ} {v : ν}

theorem mem_of_lookup (found : pairs.lookup k = some v) : (k, v) ∈ pairs := by
  obtain ⟨front, rest, rfl, _⟩ := List.lookup_eq_some_iff.mp found
  simp

/-- Where no key is there twice, each finds its own value. -/
theorem lookup_eq_some_iff_mem (distinct : (pairs.map Prod.fst).Nodup) :
    pairs.lookup k = some v ↔ (k, v) ∈ pairs := by
  refine ⟨mem_of_lookup, fun member => ?_⟩
  induction pairs with
  | nil => cases member
  | cons pair rest ih =>
    obtain ⟨fresh, distinctRest⟩ := List.nodup_cons.mp distinct
    rcases List.mem_cons.mp member with rfl | member
    · simp
    · have other : (k == pair.1) = false := beq_eq_false_iff_ne.mpr fun same =>
        fresh (same ▸ List.mem_map_of_mem member)
      rw [List.lookup_cons, other]
      exact ih distinctRest member

end Lookup

/-- Where all keys are texts, none is there twice if none is written twice. -/
theorem forms_nodup_of_texts (texts : ∀ key ∈ entries.keys, ∃ t, key = .text t)
    (distinct : entries.keys.Nodup) : entries.forms.Nodup := by
  refine List.Nodup.map_on (fun key member other _ same => ?_) distinct
  obtain ⟨t, rfl⟩ := texts key member
  exact (Scalar.keyForm_eq_text.mp same.symm).symm

theorem mem_forms (member : key ∈ entries.keys) : key.keyForm ∈ entries.forms :=
  List.mem_map_of_mem member

theorem mem_forms_of_mem {entry : Scalar × Value} (member : entry ∈ entries) :
    entry.1.keyForm ∈ entries.forms :=
  mem_forms (List.mem_map_of_mem member)

theorem get?_congr (same : key.keyForm = other.keyForm) :
    entries.get? key = entries.get? other := by
  rw [Mapping.get?, same, ← Mapping.get?]

theorem get?_cons_self : Mapping.get? ((key, value) :: entries) key = some value := by
  rw [Mapping.get?_cons, if_pos rfl]

theorem get?_cons_of_ne (differs : other.keyForm ≠ key.keyForm) :
    Mapping.get? ((key, value) :: entries) other = Mapping.get? entries other := by
  rw [Mapping.get?_cons, if_neg (Ne.symm differs)]

theorem get?_text_cons_of_ne {t : Text} (differs : key ≠ .text t) :
    Mapping.get? ((key, value) :: entries) (.text t) = Mapping.get? entries (.text t) :=
  get?_cons_of_ne fun same => differs (Scalar.keyForm_eq_text.mp same.symm)

theorem get?_eq_none_iff : entries.get? key = none ↔ key.keyForm ∉ entries.forms := by
  induction entries with
  | nil => simp
  | cons entry rest ih =>
    obtain ⟨k, v⟩ := entry
    by_cases same : k.keyForm = key.keyForm
    · simp [Mapping.get?_cons, same]
    · simp [Mapping.get?_cons, same, Ne.symm same, ih]

/-- What a key finds is the value of an entry with the same key. -/
theorem mem_of_get? (found : entries.get? key = some value) :
    ∃ k, (k, value) ∈ entries ∧ k.keyForm = key.keyForm := by
  obtain ⟨entry, first, rfl⟩ := Option.map_eq_some_iff.mp found
  exact ⟨entry.1, List.mem_of_find?_eq_some first, by simpa using List.find?_some first⟩

/-- Where no key is there twice, each finds its own value. -/
theorem get?_of_mem (distinct : entries.forms.Nodup) (member : (key, value) ∈ entries) :
    entries.get? key = some value := by
  induction entries with
  | nil => cases member
  | cons entry rest ih =>
    obtain ⟨fresh, distinctRest⟩ := List.nodup_cons.mp distinct
    rcases List.mem_cons.mp member with rfl | member
    · exact get?_cons_self
    · have differs : key.keyForm ≠ entry.1.keyForm := fun same =>
        fresh (same ▸ mem_forms_of_mem member)
      rw [get?_cons_of_ne differs]
      exact ih distinctRest member

theorem set_of_notMem (absent : key.keyForm ∉ entries.forms) :
    entries.set key value = entries ++ [(key, value)] := by
  induction entries with
  | nil => rfl
  | cons entry rest ih =>
    obtain ⟨k, v⟩ := entry
    obtain ⟨other, absentRest⟩ := not_or.mp (List.mem_cons.not.mp absent)
    rw [Mapping.set, if_neg (Ne.symm other), ih absentRest, List.cons_append]

theorem set_of_mem (distinct : entries.forms.Nodup) (present : key.keyForm ∈ entries.forms) :
    entries.set key value = entries.map fun entry =>
      (entry.1, if entry.1.keyForm = key.keyForm then value else entry.2) := by
  induction entries with
  | nil => simp at present
  | cons entry rest ih =>
    obtain ⟨k, v⟩ := entry
    obtain ⟨fresh, distinctRest⟩ := List.nodup_cons.mp distinct
    by_cases same : k.keyForm = key.keyForm
    · have kept : rest.map (fun entry =>
          (entry.1, if entry.1.keyForm = key.keyForm then value else entry.2)) = rest := by
        refine (List.map_congr_left fun entry member => ?_).trans (List.map_id rest)
        have other : entry.1.keyForm ≠ key.keyForm := fun again =>
          fresh (same.trans again.symm ▸ mem_forms_of_mem member)
        rw [if_neg other, id_eq]
      rw [Mapping.set, if_pos same, List.map_cons, kept, if_pos same]
    · have presentRest := (List.mem_cons.mp present).resolve_left (Ne.symm same)
      rw [Mapping.set, if_neg same, ih distinctRest presentRest, List.map_cons, if_neg same]

theorem keys_set_of_mem (distinct : entries.forms.Nodup) (present : key.keyForm ∈ entries.forms) :
    (entries.set key value).keys = entries.keys := by
  simp [set_of_mem distinct present, Mapping.keys, Function.comp_def]

theorem mem_forms_set {form : KeyForm} : form ∈ (lower.set key value).forms ↔
    form ∈ lower.forms ∨ form = key.keyForm := by
  induction lower with
  | nil => simp [Mapping.set]
  | cons entry rest ih =>
    obtain ⟨k, v⟩ := entry
    by_cases same : k.keyForm = key.keyForm
    · rw [Mapping.set, if_pos same, Mapping.forms_cons, Mapping.forms_cons, List.mem_cons, same,
        or_right_comm, or_self]
    · rw [Mapping.set, if_neg same, Mapping.forms_cons, Mapping.forms_cons, List.mem_cons,
        List.mem_cons, ih, or_assoc]

/-- The keys of a mapping laid over another are those of both, even where they
are there twice. -/
theorem mem_forms_merge {form : KeyForm} : form ∈ (Mapping.merge lower upper).forms ↔
    form ∈ lower.forms ∨ form ∈ upper.forms := by
  induction upper generalizing lower with
  | nil => simp [Mapping.merge]
  | cons entry rest ih =>
    obtain ⟨k, v⟩ := entry
    rw [Mapping.merge, ih, mem_forms_set, Mapping.forms_cons, List.mem_cons, or_assoc]

/-- Only a mapping takes in what was there before. -/
@[simp] theorem over_none (v : Value) : v.over none = v := by
  cases v <;> simp [Value.over]

@[simp] theorem over_scalar (v : Value) (c : Scalar) : v.over (some (.scalar c)) = v := by
  cases v <;> simp [Value.over]

/-- What a key finds in a mapping laid over another. -/
theorem get?_merge (distinct : upper.forms.Nodup) :
    (Mapping.merge lower upper).get? key =
      (upper.get? key).elim (lower.get? key) fun v => some (v.over (lower.get? key)) := by
  induction upper generalizing lower with
  | nil => simp [Mapping.merge]
  | cons entry rest ih =>
    obtain ⟨k, v⟩ := entry
    obtain ⟨fresh, distinctRest⟩ := List.nodup_cons.mp distinct
    rw [Mapping.merge, ih distinctRest, Mapping.get?_set, Mapping.get?_cons]
    by_cases same : key.keyForm = k.keyForm
    · have absent : Mapping.get? rest key = none := get?_eq_none_iff.mpr (same ▸ fresh)
      rw [absent, if_pos same, if_pos same.symm, get?_congr same]
      rfl
    · rw [if_neg same, if_neg (Ne.symm same)]

/-- An entry with what an upper mapping has at its key laid over it. -/
def entryUnder (upper : Mapping) (entry : Scalar × Value) : Scalar × Value :=
  (entry.1, (upper.get? entry.1).elim entry.2 fun v => v.over (some entry.2))

private theorem entryUnder_cons_of_ne {entry : Scalar × Value}
    (other : entry.1.keyForm ≠ key.keyForm) :
    entryUnder ((key, value) :: upper) entry = entryUnder upper entry := by
  rw [entryUnder, entryUnder, get?_cons_of_ne other]

/-- What is laid over an entry stays in its place. -/
private theorem map_entryUnder_set (lowerDistinct : lower.forms.Nodup)
    (present : key.keyForm ∈ lower.forms) (absent : upper.get? key = none) :
    (lower.set key (value.over (lower.get? key))).map (entryUnder upper) =
      lower.map (entryUnder ((key, value) :: upper)) := by
  rw [set_of_mem lowerDistinct present, List.map_map]
  refine List.map_congr_left fun entry member => ?_
  by_cases same : entry.1.keyForm = key.keyForm
  · have found : lower.get? key = some entry.2 :=
      (get?_congr same).symm.trans (get?_of_mem lowerDistinct member)
    have absent : upper.get? entry.1 = none := (get?_congr same).trans absent
    have own : Mapping.get? ((key, value) :: upper) entry.1 = some value :=
      (get?_congr same).trans get?_cons_self
    simp [entryUnder, same, found, absent, own]
  · simp [entryUnder_cons_of_ne same, same]

/-- Where a key is new, what is laid over it disturbs no entry. -/
private theorem map_entryUnder_cons (fresh : key.keyForm ∉ lower.forms) :
    lower.map (entryUnder ((key, value) :: upper)) = lower.map (entryUnder upper) := by
  refine List.map_congr_left fun entry member => entryUnder_cons_of_ne fun same => ?_
  exact fresh (same ▸ mem_forms_of_mem member)

/-- Of entries without a key, the same are new before and after the key is
added. -/
private theorem filter_notMem_snoc (fresh : key.keyForm ∉ upper.forms) :
    upper.filter (fun entry => entry.1.keyForm ∉ lower.forms ++ [key.keyForm]) =
      upper.filter fun entry => entry.1.keyForm ∉ lower.forms := by
  refine List.filter_congr fun entry member => ?_
  have other : entry.1.keyForm ≠ key.keyForm := fun same => fresh (same ▸ mem_forms_of_mem member)
  simp [other]

/-- The entries of a mapping laid over another. -/
theorem merge_eq (lowerDistinct : lower.forms.Nodup) (distinct : upper.forms.Nodup) :
    Mapping.merge lower upper =
      lower.map (entryUnder upper) ++
        upper.filter fun entry => entry.1.keyForm ∉ lower.forms := by
  induction upper generalizing lower with
  | nil =>
    have same : lower.map (entryUnder []) = lower := List.map_id lower
    simp [Mapping.merge, same]
  | cons entry rest ih =>
    obtain ⟨k, v⟩ := entry
    obtain ⟨fresh, distinctRest⟩ := List.nodup_cons.mp distinct
    have absent : Mapping.get? rest k = none := get?_eq_none_iff.mpr fresh
    rw [Mapping.merge]
    by_cases present : k.keyForm ∈ lower.forms
    · -- The entry is laid over the one in its place, and adds nothing at the end.
      have forms : (lower.set k (v.over (lower.get? k))).forms = lower.forms :=
        congrArg (List.map _) (keys_set_of_mem lowerDistinct present)
      rw [ih (forms ▸ lowerDistinct) distinctRest, forms,
        map_entryUnder_set lowerDistinct present absent,
        List.filter_cons_of_neg (by simpa using present)]
    · have below : lower.get? k = none := get?_eq_none_iff.mpr present
      have forms : Mapping.forms (lower ++ [(k, v)]) = lower.forms ++ [k.keyForm] := by
        simp [Mapping.forms, Mapping.keys]
      have bothDistinct : (Mapping.forms (lower ++ [(k, v)])).Nodup := by
        rw [forms, ← List.concat_eq_append]
        exact lowerDistinct.concat present
      have own : entryUnder rest (k, v) = (k, v) := by simp [entryUnder, absent]
      rw [set_of_notMem present, below, over_none, ih bothDistinct distinctRest, forms,
        filter_notMem_snoc fresh, map_entryUnder_cons present,
        List.filter_cons_of_pos (by simpa using present), List.map_append, List.append_assoc,
        List.map_singleton, own, List.singleton_append]

/-- The keys of a mapping laid over another: those of the lower one in their
order, and then the new ones of the upper one in theirs. -/
theorem keys_merge (lowerDistinct : lower.forms.Nodup) (distinct : upper.forms.Nodup) :
    (Mapping.merge lower upper).keys =
      lower.keys ++ upper.keys.filter fun key => key.keyForm ∉ lower.forms := by
  rw [merge_eq lowerDistinct distinct]
  simp [Mapping.keys, List.filter_map, Function.comp_def, entryUnder]

theorem forms_merge_nodup (lowerDistinct : lower.forms.Nodup) (distinct : upper.forms.Nodup) :
    (Mapping.merge lower upper).forms.Nodup := by
  have forms : (Mapping.merge lower upper).forms =
      lower.forms ++ upper.forms.filter fun form => form ∉ lower.forms := by
    rw [Mapping.forms, keys_merge lowerDistinct distinct, List.map_append]
    simp only [Mapping.forms, List.filter_map, Function.comp_def]
  rw [forms]
  refine lowerDistinct.append (distinct.filter _) fun form below above => ?_
  simpa [below] using List.of_mem_filter above

end Swatch.DocumentMerge
