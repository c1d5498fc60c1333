import Swatch.Proofs.MergePaths
import Swatch.Settings.Loading

/-! Laws of laying one mapping over another, as equalities of mappings with the
order of their keys. What has been laid over a mapping once changes nothing when
it is laid over the result, nor does the mapping when the result is laid over it.
So settings do not depend on whether the built-in document is already under the
one that they are made from. -/
namespace Swatch.MergeLaws
open DocumentMerge MergePaths

variable {lower upper : Mapping} {v : Value} {below : Option Value} {key : Scalar}

theorem exists_get? (present : key.keyForm ∈ lower.forms) : ∃ v, lower.get? key = some v := by
  apply Option.ne_none_iff_exists'.mp
  intro absent
  exact get?_eq_none_iff.mp absent present

/-- Mappings with the same keys in the same order are equal if each of the keys
finds the same in both. -/
theorem eq_of_get? (distinct : lower.forms.Nodup) (keys : lower.keys = upper.keys)
    (same : ∀ key ∈ lower.keys, lower.get? key = upper.get? key) : lower = upper := by
  induction lower generalizing upper with
  | nil => exact (List.map_eq_nil_iff.mp keys.symm).symm
  | cons entry rest ih =>
    cases upper with
    | nil => cases keys
    | cons other others =>
      obtain ⟨key, v⟩ := entry
      obtain ⟨otherKey, w⟩ := other
      obtain ⟨fresh, distinctRest⟩ := List.nodup_cons.mp distinct
      obtain ⟨rfl, keysRest⟩ := List.cons.inj keys
      have first := same key List.mem_cons_self
      rw [get?_cons_self, get?_cons_self] at first
      have rest : rest = others := by
        apply ih distinctRest keysRest
        intro later member
        have differs : later.keyForm ≠ key.keyForm := fun same =>
          fresh (same ▸ List.mem_map_of_mem member)
        have found := same later (List.mem_cons_of_mem _ member)
        rwa [get?_cons_of_ne differs, get?_cons_of_ne differs] at found
      rw [Option.some.inj first, rest]

/-- What has no key of its own, and at each key only what disappears over what is
there, changes nothing. -/
theorem merge_eq_lower (lowerDistinct : lower.forms.Nodup) (distinct : upper.forms.Nodup)
    (known : ∀ key ∈ upper.keys, key.keyForm ∈ lower.forms)
    (absorbed : ∀ key v b, upper.get? key = some v → lower.get? key = some b →
      v.over (some b) = b) : Mapping.merge lower upper = lower := by
  have keys : (Mapping.merge lower upper).keys = lower.keys := by
    have nothing : upper.keys.filter (fun key => key.keyForm ∉ lower.forms) = [] := by
      apply List.filter_eq_nil_iff.mpr
      intro key member
      simpa using known key member
    rw [keys_merge lowerDistinct distinct, nothing, List.append_nil]
  have forms : (Mapping.merge lower upper).forms = lower.forms := congrArg (List.map _) keys
  apply eq_of_get? (forms ▸ lowerDistinct) keys
  intro key member
  obtain ⟨b, found⟩ := exists_get? (forms ▸ mem_forms member)
  rw [get?_merge distinct, found]
  cases above : upper.get? key with
  | none => rfl
  | some v => exact congrArg some (absorbed key v b above found)

/-- What begins with the keys of the lower mapping, and has at each of them
something that is not changed by what is there, is the result. -/
theorem merge_eq_upper {more : List Scalar} (distinct : upper.forms.Nodup)
    (extended : upper.keys = lower.keys ++ more)
    (kept : ∀ key v b, upper.get? key = some v → lower.get? key = some b →
      v.over (some b) = v) : Mapping.merge lower upper = upper := by
  have parts : upper.forms = lower.forms ++ more.map Scalar.keyForm := by
    rw [Mapping.forms, extended, List.map_append, ← Mapping.forms]
  obtain ⟨lowerDistinct, _, apart⟩ := List.nodup_append.mp (parts ▸ distinct)
  have keys : (Mapping.merge lower upper).keys = upper.keys := by
    have old : lower.keys.filter (fun key => key.keyForm ∉ lower.forms) = [] := by
      apply List.filter_eq_nil_iff.mpr
      intro key member
      simpa using mem_forms member
    have new : more.filter (fun key => key.keyForm ∉ lower.forms) = more := by
      apply List.filter_eq_self.mpr
      intro key member
      simpa using fun below => apart _ below _ (List.mem_map_of_mem member) rfl
    rw [keys_merge lowerDistinct distinct, extended, List.filter_append, old, new, List.nil_append]
  have forms : (Mapping.merge lower upper).forms = upper.forms := congrArg (List.map _) keys
  apply eq_of_get? (forms ▸ distinct) keys
  intro key member
  obtain ⟨v, found⟩ := exists_get? (forms ▸ mem_forms member)
  rw [get?_merge distinct, found]
  cases below : lower.get? key with
  | none => simp
  | some b => exact congrArg some (kept key v b found below)

/-- Only a mapping over a mapping is changed. -/
theorem over_eq_or (v : Value) (below : Option Value) : v.over below = v ∨
    ∃ upper lower, v = .mapping upper ∧ below = some (.mapping lower) := by
  cases below with
  | none => exact .inl (over_none v)
  | some b =>
    by_cases plain : Plain v ∨ Plain b
    · exact .inl (plain.elim over_of_plain over_plain)
    · cases v with
      | scalar | list => exact absurd (.inl rfl) plain
      | mapping upper =>
        cases b with
        | scalar | list => exact absurd (.inr rfl) plain
        | mapping lower => exact .inr ⟨upper, lower, rfl, rfl⟩

theorem over_self (keyed : WellKeyed v) : v.over (some v) = v := by
  induction keyed with
  | scalar c => rfl
  | list items => rfl
  | mapping distinct inside ih =>
    apply congrArg Value.mapping
    apply merge_eq_lower distinct distinct fun _ => mem_forms
    intro key v b found same
    obtain rfl : v = b := Option.some.inj (found.symm.trans same)
    obtain ⟨_, member, _⟩ := mem_of_get? found
    exact ih _ member

/-- What a value has been laid over, it can be laid over again. -/
theorem over_over (keyed : WellKeyed v) (belowKeyed : ∀ b ∈ below, WellKeyed b) :
    v.over (some (v.over below)) = v.over below := by
  induction keyed generalizing below with
  | scalar c => rfl
  | list items => rfl
  | @mapping upper distinct inside ih =>
    have keyed := WellKeyed.mapping distinct inside
    rcases over_eq_or (.mapping upper) below with same | ⟨_, lower, ⟨⟩, rfl⟩
    · rw [same, over_self keyed]
    · have lowerKeyed := belowKeyed _ rfl
      apply congrArg Value.mapping
      apply merge_eq_lower (forms_merge_nodup lowerKeyed.distinct distinct) distinct
      · intro key member
        exact mem_forms_merge.mpr (.inr (mem_forms member))
      · intro key v b found merged
        rw [get?_merge distinct, found] at merged
        obtain rfl := Option.some.inj merged
        obtain ⟨_, member, _⟩ := mem_of_get? found
        exact ih _ member fun c there => lowerKeyed.inside there

/-- What is laid over something can be laid over it again. -/
theorem over_again (keyed : WellKeyed v) (belowKeyed : ∀ b ∈ below, WellKeyed b) :
    (v.over below).over below = v.over below := by
  induction keyed generalizing below with
  | scalar c => rfl
  | list items => rfl
  | @mapping upper distinct inside ih =>
    rcases over_eq_or (.mapping upper) below with same | ⟨_, lower, ⟨⟩, rfl⟩
    · rw [same, same]
    · have lowerKeyed := belowKeyed _ rfl
      apply congrArg Value.mapping
      apply merge_eq_upper (forms_merge_nodup lowerKeyed.distinct distinct)
        (keys_merge lowerKeyed.distinct distinct)
      intro key v b merged there
      rw [get?_merge distinct, there] at merged
      cases found : upper.get? key with
      | none =>
        rw [found] at merged
        obtain rfl := Option.some.inj merged
        exact over_self (lowerKeyed.inside there)
      | some u =>
        rw [found] at merged
        obtain rfl := Option.some.inj merged
        obtain ⟨_, member, _⟩ := mem_of_get? found
        exact ih _ member fun c same => lowerKeyed.inside (there.trans same)

theorem builtin_keyed : WellKeyed (.mapping Settings.builtin) := by
  simp [wellKeyed_mapping_iff, Settings.builtin, Settings.builtinTemplates, Settings.builtinStyles,
    sectionEntry, textEntry, WellKeyed.scalar]

/-- The empty mapping changes nothing on either side, nor does a mapping over
itself. Laying the upper mapping over the result again, or the result over the
lower one again, gives the result. So settings are the same, or refused in the
same way, when the built-in document is laid under a document twice. -/
theorem merge_absorbs (lowerKeyed : WellKeyed (.mapping lower))
    (keyed : WellKeyed (.mapping upper)) (source : Text) :
    Mapping.merge [] upper = upper ∧ Mapping.merge lower [] = lower ∧
    Mapping.merge lower lower = lower ∧
    Mapping.merge (Mapping.merge lower upper) upper = Mapping.merge lower upper ∧
    Mapping.merge lower (Mapping.merge lower upper) = Mapping.merge lower upper ∧
    Settings.build source (Settings.completed upper) = Settings.build source upper := by
  have below : ∀ b ∈ some (Value.mapping lower), WellKeyed b :=
    fun b same => Option.some.inj same ▸ lowerKeyed
  have builtin : ∀ b ∈ some (Value.mapping Settings.builtin), WellKeyed b :=
    fun b same => Option.some.inj same ▸ builtin_keyed
  have completed : Settings.completed (Settings.completed upper) = Settings.completed upper :=
    Value.mapping.inj (over_again keyed builtin)
  refine ⟨?_, rfl, Value.mapping.inj (over_self lowerKeyed), Value.mapping.inj (over_over keyed below),
    Value.mapping.inj (over_again keyed below), ?_⟩
  · exact merge_eq_upper keyed.distinct rfl fun key v b _ absent => nomatch absent
  · rw [Settings.build, completed, ← Settings.build]

theorem merge_absorbs_revision :
    WellKeyed (.mapping sections) ∧ WellKeyed (.mapping revision) ∧
    let merged := Mapping.merge sections revision
    merged.get? (.text "editor".toList) = some .null ∧
    Mapping.merge merged revision = merged ∧ Mapping.merge sections merged = merged ∧
    Mapping.merge revision sections ≠ merged ∧
    Settings.build [] (Settings.completed revision) = Settings.build [] revision := by
  refine ⟨sections_keyed, revision_keyed, rfl, ?_⟩
  obtain ⟨_, _, _, above, under, settings⟩ := merge_absorbs sections_keyed revision_keyed []
  refine ⟨above, under, ?_, settings⟩
  intro same
  have first : (Mapping.merge revision sections).keys = (Mapping.merge sections revision).keys :=
    congrArg Mapping.keys same
  exact absurd first (by decide)

end Swatch.MergeLaws
