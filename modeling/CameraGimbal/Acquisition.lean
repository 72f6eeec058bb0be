/-
This file is a library on resources that are acquired one after another, until a call fails, and on
releasing them: every one exactly once, none while another one still uses it, and none that is not
held.

A cleanup that goes through the resources in a fixed order, and releases those of which a condition
holds, is right when the condition tells what is held.
-/

import Mathlib.Data.List.Nodup

namespace Acquisition

open List

variable {Resource Call Flags : Type} [DecidableEq Resource] (uses : Resource → List Resource)

/-! ### Releasing -/

/-- A resource is released that is held, and that no resource held uses. -/
def release (held : List Resource) (resource : Resource) : Option (List Resource) :=
  if resource ∈ held ∧ ∀ user ∈ held, resource ∉ uses user then some (held.erase resource)
  else none

/-- Resources are released one after another. -/
def releaseAll : List Resource → List Resource → Option (List Resource)
  | [], held => some held
  | resource :: later, held => (release uses held resource).bind (releaseAll later)

/-- Everything that is held is released, and nothing else. -/
def Frees (releases held : List Resource) : Prop := releaseAll uses releases held = some []

instance (releases held : List Resource) : Decidable (Frees uses releases held) :=
  inferInstanceAs (Decidable (releaseAll uses releases held = some []))

variable {uses}

/-- An order in which no resource comes before one that uses it. -/
def UsersFirst (uses : Resource → List Resource) (order : List Resource) : Prop :=
  order.Pairwise fun resource later => resource ∉ uses later

instance (order : List Resource) : Decidable (UsersFirst uses order) :=
  inferInstanceAs (Decidable (order.Pairwise fun resource later => resource ∉ uses later))

/-- Nothing is left and nothing is missing when the condition tells what is held. -/
theorem frees_filter {order held : List Resource} {condition : Resource → Bool}
    (distinct : order.Nodup) (usersFirst : UsersFirst uses order)
    (unrelated : ∀ resource ∈ order, resource ∉ uses resource) (heldOnce : held.Nodup)
    (within : ∀ resource ∈ held, resource ∈ order)
    (tells : ∀ resource ∈ order, condition resource = true ↔ resource ∈ held) :
    Frees uses (order.filter condition) held := by
  induction order generalizing held with
  | nil =>
    have none : held = [] := eq_nil_iff_forall_not_mem.mpr fun resource member =>
      absurd (within resource member) not_mem_nil
    rw [none]
    rfl
  | cons first later hypothesis =>
    obtain ⟨notLater, distinctLater⟩ := nodup_cons.mp distinct
    obtain ⟨unused, usersFirstLater⟩ := pairwise_cons.mp usersFirst
    obtain ⟨unrelatedFirst, unrelatedLater⟩ := forall_mem_cons.mp unrelated
    obtain ⟨tellsFirst, tellsLater⟩ := forall_mem_cons.mp tells
    by_cases holds : condition first = true
    · have member := tellsFirst.mp holds
      have safe : first ∈ held ∧ ∀ user ∈ held, first ∉ uses user := by
        refine ⟨member, fun user heldUser => ?_⟩
        rcases mem_cons.mp (within user heldUser) with rfl | laterUser
        · exact unrelatedFirst
        · exact unused user laterUser
      have released : release uses held first = some (held.erase first) := if_pos safe
      have rest : Frees uses (later.filter condition) (held.erase first) := by
        refine hypothesis distinctLater usersFirstLater unrelatedLater
          (heldOnce.erase first) (fun resource kept => ?_) fun resource behind => ?_
        · obtain ⟨other, kept⟩ := heldOnce.mem_erase_iff.mp kept
          exact (mem_cons.mp (within resource kept)).resolve_left other
        · have other : resource ≠ first := by
            rintro rfl
            exact notLater behind
          rw [tellsLater resource behind, heldOnce.mem_erase_iff]
          exact (and_iff_right other).symm
      unfold Frees
      rw [filter_cons_of_pos holds, releaseAll, released]
      exact rest
    · rw [filter_cons_of_neg holds]
      refine hypothesis distinctLater usersFirstLater unrelatedLater heldOnce
        (fun resource kept => ?_) tellsLater
      refine (mem_cons.mp (within resource kept)).resolve_left ?_
      rintro rfl
      exact holds (tellsFirst.mpr kept)

/-! ### Acquiring -/

/-- A call, with the resource that it acquires when it succeeds, or an assignment of what is
noted. -/
inductive Step (Call Resource Flags : Type) where
  | call (call : Call) (gains : Option Resource)
  | assign (notes : Flags → Flags)

/-- What is held, and what is noted. -/
structure State (Resource Flags : Type) where
  held : List Resource
  flags : Flags

def Step.apply (state : State Resource Flags) :
    Step Call Resource Flags → State Resource Flags
  | .call _ gains => ⟨gains.toList ++ state.held, state.flags⟩
  | .assign notes => ⟨state.held, notes state.flags⟩

/-- The steps are taken one after another until a call fails. -/
def acquire (fails : Call → Bool) :
    List (Step Call Resource Flags) → State Resource Flags → State Resource Flags × Bool
  | [], state => (state, true)
  | .call call gains :: later, state =>
    if fails call then (state, false)
    else acquire fails later (Step.apply state (.call call gains : Step Call Resource Flags))
  | .assign notes :: later, state =>
    acquire fails later (Step.apply state (.assign notes : Step Call Resource Flags))

/-- The calls of steps. -/
def called : List (Step Call Resource Flags) → List Call
  | [] => []
  | .call call _ :: later => call :: called later
  | .assign _ :: later => called later

/-- The resources that steps acquire. -/
def gained : List (Step Call Resource Flags) → List Resource
  | [] => []
  | .call _ gains :: later => gains.toList ++ gained later
  | .assign _ :: later => gained later

/-- What is true in front of every call. -/
def InFront (holds : Call → State Resource Flags → Prop) :
    List (Step Call Resource Flags) → State Resource Flags → Prop
  | [], _ => True
  | .call call gains :: later, state =>
    holds call state ∧
      InFront holds later (Step.apply state (.call call gains : Step Call Resource Flags))
  | .assign notes :: later, state =>
    InFront holds later (Step.apply state (.assign notes : Step Call Resource Flags))

section Steps

omit [DecidableEq Resource]

variable {steps : List (Step Call Resource Flags)} {state : State Resource Flags}

instance InFront.decidable (holds : Call → State Resource Flags → Prop)
    [∀ call state, Decidable (holds call state)] :
    ∀ (steps : List (Step Call Resource Flags)) (state : State Resource Flags),
      Decidable (InFront holds steps state)
  | [], _ => isTrue trivial
  | .call _ _ :: later, state =>
    have := InFront.decidable holds later
    inferInstanceAs (Decidable (holds _ state ∧ InFront holds later _))
  | .assign _ :: later, _ => InFront.decidable holds later _

/-- Where the steps end: behind all of them, or in front of the first call that fails. -/
theorem acquire_cases {holds : Call → State Resource Flags → Prop} (fails : Call → Bool)
    (inFront : InFront holds steps state) :
    ((called steps).find? fails = none ∧
        acquire fails steps state = (steps.foldl Step.apply state, true)) ∨
      ∃ call final, (called steps).find? fails = some call ∧
        acquire fails steps state = (final, false) ∧ holds call final := by
  induction steps generalizing state with
  | nil => exact .inl ⟨rfl, rfl⟩
  | cons step later hypothesis =>
    cases step with
    | call call gains =>
      rw [called, find?_cons, acquire]
      cases refused : fails call with
      | true => exact .inr ⟨call, state, rfl, rfl, inFront.1⟩
      | false => exact hypothesis inFront.2
    | assign notes => exact hypothesis inFront

/-- What is held is what was, and what the steps up to some point acquire. -/
theorem acquire_held (fails : Call → Bool) (steps : List (Step Call Resource Flags))
    (state : State Resource Flags) :
    ∃ more, more <+: gained steps ∧
      (acquire fails steps state).1.held = more.reverse ++ state.held := by
  induction steps generalizing state with
  | nil => exact ⟨[], nil_prefix, rfl⟩
  | cons step later hypothesis =>
    cases step with
    | call call gains =>
      rw [acquire, gained]
      cases refused : fails call with
      | true => exact ⟨[], nil_prefix, rfl⟩
      | false =>
        rw [if_neg Bool.false_ne_true]
        obtain ⟨more, isPrefix, held⟩ :=
          hypothesis (Step.apply state (.call call gains : Step Call Resource Flags))
        refine ⟨gains.toList ++ more, (prefix_append_right_inj _).mpr isPrefix, ?_⟩
        rw [held, reverse_append, append_assoc]
        cases gains <;> rfl
    | assign notes => exact hypothesis _

end Steps

/-! ### Noting every resource behind its call -/

/-- A call behind which the resource that it acquires is noted. -/
def noting (made : Call × Option Resource) : List (Step Call Resource (List Resource)) :=
  [.call made.1 made.2, .assign (made.2.toList ++ ·)]

omit [DecidableEq Resource] in
theorem gained_noting (made : List (Call × Option Resource)) :
    gained (made.flatMap noting) = made.filterMap Prod.snd := by
  induction made with
  | nil => rfl
  | cons first later hypothesis =>
    show first.2.toList ++ gained (later.flatMap noting) = _
    rw [hypothesis]
    obtain ⟨call, gains⟩ := first
    cases gains <;> rfl

omit [DecidableEq Resource] in
/-- What is noted is what is held. -/
theorem acquire_noting (fails : Call → Bool) (made : List (Call × Option Resource))
    {state : State Resource (List Resource)} (same : state.flags = state.held) :
    (acquire fails (made.flatMap noting) state).1.flags =
      (acquire fails (made.flatMap noting) state).1.held := by
  induction made generalizing state with
  | nil => exact same
  | cons first later hypothesis =>
    rw [List.flatMap_cons, noting, List.cons_append, acquire]
    split
    · exact same
    · exact hypothesis (congrArg (first.2.toList ++ ·) same)

/-- A cleanup that goes by what was noted frees everything, wherever the calls have ended. -/
theorem noting_frees {made : List (Call × Option Resource)} {order : List Resource}
    (distinct : order.Nodup) (usersFirst : UsersFirst uses order)
    (unrelated : ∀ resource ∈ order, resource ∉ uses resource)
    (once : (made.filterMap Prod.snd).Nodup)
    (within : ∀ resource ∈ made.filterMap Prod.snd, resource ∈ order) (fails : Call → Bool) :
    Frees uses
      (order.filter fun resource =>
        resource ∈ (acquire fails (made.flatMap noting) ⟨[], []⟩).1.flags)
      (acquire fails (made.flatMap noting) ⟨[], []⟩).1.held := by
  have same := @acquire_noting Resource Call fails made ⟨[], []⟩ rfl
  obtain ⟨more, isPrefix, held⟩ := acquire_held fails (made.flatMap noting) ⟨[], []⟩
  rw [gained_noting] at isPrefix
  rw [same, held, append_nil]
  refine frees_filter distinct usersFirst unrelated
    (nodup_reverse.mpr (once.sublist isPrefix.sublist))
    (fun resource member => ?_) fun resource _ => decide_eq_true_iff
  exact within resource (isPrefix.subset (mem_reverse.mp member))

end Acquisition
