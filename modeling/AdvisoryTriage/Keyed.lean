/-!
# Entries by name

A list of entries, each under a name of its own, in the order in which the names were first used.
`Keyed.get?` looks a name up and `Keyed.update` changes the entry of a name; `Keyed.get?_update`
says what the one sees of the other.
-/

namespace AdvisoryTriage

/-- Entries by name, in the order of first use. -/
abbrev Keyed (α : Type) := List (String × α)

namespace Keyed

variable {α : Type}

/-- The entry of a name. -/
def get? : Keyed α → String → Option α
  | [], _ => none
  | (k, x) :: m, name => if k = name then some x else get? m name

/-- Changes the entry of a name by `f`; a name without an entry gets one at the end, made from
`fresh`. -/
def update (name : String) (fresh : α) (f : α → α) : Keyed α → Keyed α
  | [] => [(name, f fresh)]
  | (k, x) :: m => if k = name then (k, f x) :: m else (k, x) :: update name fresh f m

/-- The names that have an entry. -/
def names (m : Keyed α) : List String :=
  m.map Prod.fst

@[simp] theorem get?_nil (name : String) : get? ([] : Keyed α) name = none := rfl

theorem get?_update (m : Keyed α) (name other : String) (fresh : α) (f : α → α) :
    (m.update name fresh f).get? other =
      if name = other then some (f ((m.get? name).getD fresh)) else m.get? other := by
  fun_induction update name fresh f m with
  | case1 => simp [get?]
  | case2 x m => by_cases h : name = other <;> simp [get?, h]
  | case3 k x m hk ih =>
    by_cases h : k = other
    · have : name ≠ other := fun hn => hk (h.trans hn.symm)
      simp [get?, h, this]
    · simp [get?, h, hk, ih]

/-- A name has an entry if it is listed. -/
theorem isSome_get?_iff {m : Keyed α} {name : String} :
    (m.get? name).isSome ↔ name ∈ m.names := by
  induction m with
  | nil => simp [names]
  | cons e m ih =>
    obtain ⟨k, x⟩ := e
    by_cases h : k = name
    · simp [get?, names, h]
    · simp [get?, names, h, Ne.symm h, ih]

/-- Where no name is listed twice, looking a name up finds what stands under it. -/
theorem get?_eq_some_iff {m : Keyed α} (h : m.names.Nodup) {name : String} {x : α} :
    m.get? name = some x ↔ (name, x) ∈ m := by
  induction m with
  | nil => simp
  | cons e m ih =>
    obtain ⟨k, y⟩ := e
    obtain ⟨hk, hm⟩ := List.nodup_cons.mp h
    by_cases hn : k = name
    · subst hn
      have hnot : (k, x) ∉ m := fun hx => hk (List.mem_map.mpr ⟨(k, x), hx, rfl⟩)
      simp [get?, hnot, eq_comm]
    · simp [get?, hn, Ne.symm hn, ih hm]

/-- Names are never listed twice. -/
theorem nodup_names_update {m : Keyed α} {name : String} {fresh : α} {f : α → α}
    (h : m.names.Nodup) : (m.update name fresh f).names.Nodup := by
  have key : ∀ m : Keyed α, ∀ k ∈ (m.update name fresh f).names, k = name ∨ k ∈ m.names := by
    intro m
    fun_induction update name fresh f m with
    | case1 => simp [names]
    | case2 x m => simp [names]
    | case3 k x m hk ih =>
      intro j hj
      simp only [names, List.map_cons, List.mem_cons] at hj ⊢
      rcases hj with rfl | hj
      · exact .inr (.inl rfl)
      · exact (ih j hj).imp_right .inr
  fun_induction update name fresh f m with
  | case1 => simp [names]
  | case2 x m => exact h
  | case3 k x m hk ih =>
    simp only [names, List.map_cons, List.nodup_cons] at h ⊢
    exact ⟨fun hm => (key m k hm).elim hk h.1, ih h.2⟩

end Keyed

end AdvisoryTriage
