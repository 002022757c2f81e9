import AdvisoryTriage.Json.Fields
import Mathlib.Data.List.Forall2
import Mathlib.Logic.Relation

/-!
# Objects that say the same

An object gives values to the fields of a record, and much about it says nothing: the order of its
members, members that are no fields, and fields that hold what an absent one counts as. Here are the
changes that make no difference (`Json.Layout.Step`), and what they preserve: every field is given
its value still, or is absent where that counts as the value (`Json.Layout.Says`). From there on the
readers of the fields cannot tell such objects apart (`Json.Layout.Says.exists_fields?`).

A change may be one of very many, and what it preserves must be said of the object alone, not of the
object it came from. That a field is given at all is no such thing, since it may have been left out
before; that it is not given twice is one, and it is what leaving out a field rests on.
-/

namespace AdvisoryTriage

namespace Json

open Value (membersOf)

/-- The members of an object. -/
abbrev Members := List (Option String × Value)

/-- How a record is laid out as an object. -/
structure Layout where
  /-- The names of its fields. -/
  fields : List String
  /-- The fields that may be left out. -/
  optional : List String
  /-- What a field that is left out counts as. -/
  absent : Value

/-- A record of texts, each of which may be left out where it is absent. -/
def Layout.ofTexts (names : List String) : Layout where
  fields := names
  optional := names
  absent := .null

/-- The members of a name. -/
def named (name : String) (ms : Members) : Members :=
  ms.filter (·.1 == some name)

@[simp] theorem named_append (name : String) (ms ms' : Members) :
    named name (ms ++ ms') = named name ms ++ named name ms' :=
  List.filter_append ..

theorem named_cons_self (name : String) (v : Value) (ms : Members) :
    named name ((some name, v) :: ms) = (some name, v) :: named name ms :=
  List.filter_cons_of_pos (beq_self_eq_true _)

theorem named_cons_of_ne {name other : String} (h : other ≠ name) (v : Value) (ms : Members) :
    named name ((some other, v) :: ms) = named name ms :=
  List.filter_cons_of_neg fun heq => h (Option.some.inj (beq_iff_eq.mp heq))

theorem named_membersOf_eq_nil {name : String} {given : List (String × Value)}
    (h : name ∉ given.map Prod.fst) : named name (membersOf given) = [] := by
  induction given with
  | nil => rfl
  | cons p given ih =>
    rw [List.map_cons, List.mem_cons, not_or] at h
    rw [membersOf, List.map_cons, named_cons_of_ne (Ne.symm h.1)]
    exact ih h.2

namespace Layout

variable {l : Layout} {given : List (String × Value)} {ms ms' : Members}

/-- **One change** to the members of an object. -/
inductive Step (l : Layout) : Members → Members → Prop
  /-- The members come in another order. -/
  | reorder {ms ms' : Members} (h : ms.Perm ms') : Step l ms ms'
  /-- A field that holds what an absent one counts as is left out. -/
  | leaveOut {name : String} {front back : Members} (h : name ∈ l.optional) :
      Step l (front ++ (some name, l.absent) :: back) (front ++ back)
  /-- A member that is no field is added anywhere, with any value. -/
  | add {name : String} {front back : Members} (h : name ∉ l.fields) (v : Value) :
      Step l (front ++ back) (front ++ (some name, v) :: back)

/-- Any number of changes. -/
def Rewrites (l : Layout) : Members → Members → Prop :=
  Relation.ReflTransGen l.Step

/-! ### What members say -/

/-- **Members say what is given**: their names are texts, and every field is given its value and
nothing else, or is absent where that counts as its value. -/
structure Says (l : Layout) (given : List (String × Value)) (ms : Members) : Prop where
  /-- Every name is a text. -/
  isSome : ∀ m ∈ ms, m.1.isSome = true
  /-- Every field has its value once, or is absent. -/
  field : ∀ p ∈ given, named p.1 ms = [(some p.1, p.2)] ∨ p.2 = l.absent ∧ named p.1 ms = []

/-- Where no name is given twice, the members that give the values say so. -/
theorem says_membersOf (h : (given.map Prod.fst).Nodup) : l.Says given (membersOf given) where
  isSome := by
    intro m hm
    obtain ⟨p, -, rfl⟩ := List.mem_map.mp hm
    rfl
  field := by
    refine fun p hp => .inl ?_
    induction given with
    | nil => cases hp
    | cons q given ih =>
      obtain ⟨hq, hgiven⟩ := List.nodup_cons.mp h
      rw [membersOf, List.map_cons]
      rcases List.mem_cons.mp hp with rfl | hp
      · rw [named_cons_self, ← membersOf, named_membersOf_eq_nil hq]
      · have hne : q.1 ≠ p.1 := fun heq => hq (heq ▸ List.mem_map_of_mem hp)
        rw [named_cons_of_ne hne]
        exact ih hgiven hp

/-- A change keeps what members say. -/
theorem Says.step (hfields : given.map Prod.fst = l.fields) (h : l.Says given ms)
    (hstep : l.Step ms ms') : l.Says given ms' := by
  cases hstep with
  | reorder hperm =>
    -- in another order one member is one member and none is none
    refine ⟨fun m hm => h.isSome m (hperm.symm.subset hm), fun p hp => ?_⟩
    have hnamed : (named p.1 ms').Perm (named p.1 ms) := hperm.symm.filter _
    rcases h.field p hp with hone | ⟨habsent, hnone⟩
    · exact .inl (List.perm_singleton.mp (hone ▸ hnamed))
    · exact .inr ⟨habsent, List.perm_nil.mp (hnone ▸ hnamed)⟩
  | @leaveOut name front back _ =>
    refine ⟨fun m hm => h.isSome m ?_, fun p hp => ?_⟩
    · exact List.mem_append.mpr ((List.mem_append.mp hm).imp_right (List.mem_cons_of_mem _))
    · have hfield := h.field p hp
      rw [named_append] at hfield ⊢
      by_cases hname : name = p.1
      · -- the field was there, so this was the one member that gave it
        subst hname
        rw [named_cons_self] at hfield
        rcases hfield with hone | ⟨-, hnone⟩
        · obtain ⟨hfront, hvalue⟩ :=
            (List.append_eq_singleton_iff.mp hone).resolve_right fun h => List.cons_ne_nil _ _ h.2
          obtain ⟨hpair, hback⟩ := List.cons.inj hvalue
          exact .inr ⟨(Prod.mk.inj hpair).2.symm, by rw [hfront, hback, List.append_nil]⟩
        · simp at hnone
      · rwa [named_cons_of_ne hname] at hfield
  | @add name front back hname v =>
    refine ⟨fun m hm => ?_, fun p hp => ?_⟩
    · rcases List.mem_append.mp hm with hm | hm
      · exact h.isSome m (List.mem_append_left _ hm)
      · rcases List.mem_cons.mp hm with rfl | hm
        · rfl
        · exact h.isSome m (List.mem_append_right _ hm)
    · -- a member that is no field has the name of none
      have hne : name ≠ p.1 := by
        rintro rfl
        exact hname (hfields ▸ List.mem_map_of_mem hp)
      rw [named_append, named_cons_of_ne hne, ← named_append]
      exact h.field p hp

/-- So does any number of changes. -/
theorem Says.rewrites (hfields : given.map Prod.fst = l.fields) (h : l.Says given ms)
    (hms : l.Rewrites ms ms') : l.Says given ms' := by
  induction hms with
  | refl => exact h
  | tail _ hstep ih => exact ih.step hfields hstep

/-! ### What is read of them -/

/-- What a reader may be handed for a field: its value, or nothing where that counts as the value.
-/
def Hands (l : Layout) (p : String × Value) (found : Option Value) : Prop :=
  found = some p.2 ∨ p.2 = l.absent ∧ found = none

/-- **The fields of a record are found** in whatever says what they are. -/
theorem Says.exists_fields? (h : l.Says given ms) (least : Nat) :
    ∃ found, (Value.object ms).fields? (given.map Prod.fst) least = some found ∧
      List.Forall₂ l.Hands given found := by
  have hall : ms.all (·.1.isSome) = true := List.all_eq_true.mpr h.isSome
  have hfield := h.field
  rw [Value.fields?, if_pos hall]
  clear h
  induction given with
  | nil => exact ⟨[], rfl, .nil⟩
  | cons p given ih =>
    obtain ⟨hp, hgiven⟩ := List.forall_mem_cons.mp hfield
    obtain ⟨found, hfound, hhands⟩ := ih hgiven
    rcases hp with hone | ⟨habsent, hnone⟩
    · have hmember : Value.member? p.1 ms = some (some p.2) := by
        rw [named] at hone
        rw [Value.member?, hone]
      exact ⟨some p.2 :: found, by simp [hmember, hfound], .cons (.inl rfl) hhands⟩
    · have hmember : Value.member? p.1 ms = some none := by
        rw [named] at hnone
        rw [Value.member?, hnone]
      exact ⟨none :: found, by simp [hmember, hfound], .cons (.inr ⟨habsent, rfl⟩) hhands⟩

/-- **After any changes the fields of a record are found.** -/
theorem Rewrites.exists_fields? (hfields : given.map Prod.fst = l.fields) (hnodup : l.fields.Nodup)
    (h : l.Rewrites (membersOf given) ms) (least : Nat) :
    ∃ found, (Value.object ms).fields? l.fields least = some found ∧
      List.Forall₂ l.Hands given found := by
  rw [← hfields] at hnodup ⊢
  exact ((says_membersOf hnodup).rewrites hfields h).exists_fields? least

end Layout

end Json

end AdvisoryTriage
