import RouteClient.OrderedMap
import Mathlib.Data.List.Nodup

namespace RouteClient.OrderedMap

variable {α β γ : Type} [BEq α] [LawfulBEq α] {m n : OrderedMap α β} {k a : α} {v : β}

theorem mem_keys_of_contains (h : m.contains k) : k ∈ m.keys := by
  obtain ⟨e, he, hk⟩ := List.lookup_isSome_iff.1 h
  rw [eq_of_beq hk]
  exact List.mem_map_of_mem he

theorem contains_put : (m.put k v).contains a ↔ a = k ∨ m.contains a := by
  unfold contains
  rw [get?_put]
  by_cases h : a = k <;> simp [h]

theorem put_put : (m.put k v).put k v = m.put k v := by
  obtain ⟨entries⟩ := m
  simp only [put]
  congr 1
  induction entries with
  | nil => simp [putEntries]
  | cons e rest ih =>
    by_cases he : k == e.1
    · simp [putEntries, he]
    · simp [putEntries, he, ih]

theorem get?_erase : (m.erase k).get? a = if a == k then none else m.get? a := by
  obtain ⟨entries⟩ := m
  simp only [get?, erase]
  induction entries with
  | nil => simp
  | cons e rest ih =>
    obtain ⟨b, w⟩ := e
    by_cases hk : k = b
    · subst hk
      by_cases ha : a = k
      · subst ha
        simp
      · have hak : (a == k) = false := by simpa using ha
        simpa [List.lookup_cons, hak] using ih
    · have hkb : (k == b) = false := by simpa using hk
      by_cases ha : a = b
      · subst ha
        have hak : (a == k) = false := by simpa using fun h ↦ hk h.symm
        simp [hkb, hak]
      · have hab : (a == b) = false := by simpa using ha
        simpa [List.lookup_cons, hkb, hab] using ih

omit [LawfulBEq α] in
theorem get?_mapValues (f : β → γ) :
    (⟨m.entries.map fun e ↦ (e.1, f e.2)⟩ : OrderedMap α γ).get? a = (m.get? a).map f := by
  obtain ⟨entries⟩ := m
  simp only [get?]
  induction entries with
  | nil => rfl
  | cons e rest ih =>
    rw [List.map_cons, List.lookup_cons, List.lookup_cons, ih]
    cases a == e.1 <;> rfl

theorem mem_keys_putEntries {entries : List (α × β)} :
    a ∈ (putEntries k v entries).map (·.1) ↔ a = k ∨ a ∈ entries.map (·.1) := by
  induction entries with
  | nil => simp [putEntries]
  | cons e rest ih =>
    by_cases hk : k = e.1
    · simp [putEntries, hk]
    · have hke : (k == e.1) = false := by simpa using hk
      simp only [putEntries, hke, List.map_cons, List.mem_cons]
      rw [if_neg (by simp), List.map_cons, List.mem_cons, ih]
      exact or_left_comm

theorem nodup_keys_put (h : m.keys.Nodup) : (m.put k v).keys.Nodup := by
  obtain ⟨entries⟩ := m
  simp only [keys, put] at h ⊢
  induction entries with
  | nil => simp [putEntries]
  | cons e rest ih =>
    rw [List.map_cons, List.nodup_cons] at h
    by_cases hk : k = e.1
    · simpa [putEntries, hk] using h
    · have hke : (k == e.1) = false := by simpa using hk
      simp only [putEntries, hke]
      rw [if_neg (by simp), List.map_cons, List.nodup_cons, mem_keys_putEntries]
      refine ⟨?_, ih h.2⟩
      rintro (he | he)
      · exact hk he.symm
      · exact h.1 he

omit [LawfulBEq α] in
theorem nodup_keys_erase (h : m.keys.Nodup) : (m.erase k).keys.Nodup :=
  h.sublist (List.filter_sublist.map _)

omit [BEq α] [LawfulBEq α] in
theorem nodup_keys_mapValues {f : β → γ} (h : m.keys.Nodup) :
    (⟨m.entries.map fun e ↦ (e.1, f e.2)⟩ : OrderedMap α γ).keys.Nodup := by
  simpa [keys, Function.comp_def] using h

theorem nodup_keys_merge (h : m.keys.Nodup) : (m.merge n).keys.Nodup := by
  obtain ⟨entries⟩ := n
  simp only [merge]
  induction entries generalizing m with
  | nil => exact h
  | cons e rest ih => exact ih (nodup_keys_put h)

/-- Of a merge, the entries written last are found. -/
theorem get?_merge (h : n.keys.Nodup) : (m.merge n).get? a = (n.get? a).or (m.get? a) := by
  obtain ⟨entries⟩ := n
  simp only [keys, merge, get?] at h ⊢
  induction entries generalizing m with
  | nil => rfl
  | cons e rest ih =>
    rw [List.map_cons, List.nodup_cons] at h
    rw [List.foldl_cons, ih h.2, List.lookup_cons]
    have hput : (m.put e.1 e.2).entries.lookup a =
        if a == e.1 then some e.2 else m.entries.lookup a := get?_put m e.1 a e.2
    rw [hput]
    by_cases ha : a = e.1
    · subst ha
      have hnone : rest.lookup e.1 = none := by
        refine List.lookup_eq_none_iff.2 fun x hx ↦ bne_iff_ne.2 ?_
        rintro he
        exact h.1 (he ▸ List.mem_map_of_mem hx)
      simp [hnone]
    · have hae : (a == e.1) = false := by simpa using ha
      simp [hae]

omit [LawfulBEq α] in
theorem forall_mem_put {P : β → Prop} (hv : P v) (h : ∀ e ∈ m.entries, P e.2) :
    ∀ e ∈ (m.put k v).entries, P e.2 := by
  obtain ⟨entries⟩ := m
  simp only [put] at h ⊢
  induction entries with
  | nil => simpa [putEntries] using hv
  | cons e rest ih =>
    rw [List.forall_mem_cons] at h
    rw [putEntries]
    split
    · exact List.forall_mem_cons.2 ⟨hv, h.2⟩
    · exact List.forall_mem_cons.2 ⟨h.1, ih h.2⟩

omit [LawfulBEq α] in
theorem forall_mem_ofList {P : β → Prop} {entries : List (α × β)} (h : ∀ e ∈ entries, P e.2) :
    ∀ e ∈ (ofList entries).entries, P e.2 := by
  suffices ∀ m : OrderedMap α β, (∀ e ∈ m.entries, P e.2) → ∀ e ∈ (m.merge ⟨entries⟩).entries, P e.2
    from this empty (by simp [empty])
  induction entries with
  | nil => exact fun m hm ↦ hm
  | cons e rest ih =>
    rw [List.forall_mem_cons] at h
    exact fun m hm ↦ ih h.2 _ (forall_mem_put h.1 hm)

end RouteClient.OrderedMap
