import Mathlib.Data.List.Forall2

/-! Computations that return a value, return an error or panic, and a list of them collected up to the first that does
not return a value. -/
namespace Warpdrive.Foundation

universe u v w x

inductive Outcome (E : Type u) (A : Type v)
  | ok (value : A)
  | error (reason : E)
  | panicked
  deriving DecidableEq

namespace Outcome

variable {E : Type u} {A : Type v} {B : Type w} {C : Type x}

def ofExcept : Except E A → Outcome E A
  | .ok value => .ok value
  | .error reason => .error reason

def bind (first : Outcome E A) (next : A → Outcome E B) : Outcome E B :=
  match first with
  | .ok value => next value
  | .error reason => .error reason
  | .panicked => .panicked

def map (f : A → B) (self : Outcome E A) : Outcome E B := self.bind (fun value => .ok (f value))

def mapError {F : Type w} (f : E → F) : Outcome E A → Outcome F A
  | .ok value => .ok value
  | .error reason => .error (f reason)
  | .panicked => .panicked

theorem mapError_eq_ok {F : Type w} (f : E → F) (self : Outcome E A) (value : A) :
    self.mapError f = .ok value ↔ self = .ok value := by
  cases self with
  | ok found => simp [mapError]
  | error reason => simp [mapError]
  | panicked => simp [mapError]

theorem mapError_eq_panicked {F : Type w} (f : E → F) (self : Outcome E A) :
    self.mapError f = .panicked ↔ self = .panicked := by
  cases self with
  | ok found => simp [mapError]
  | error reason => simp [mapError]
  | panicked => simp [mapError]

theorem bind_eq_ok (first : Outcome E A) (next : A → Outcome E B) (result : B) :
    first.bind next = .ok result ↔ ∃ value, first = .ok value ∧ next value = .ok result := by
  cases first with
  | ok value => simp [bind]
  | error reason => simp [bind]
  | panicked => simp [bind]

theorem bind_eq_panicked (first : Outcome E A) (next : A → Outcome E B) :
    first.bind next = .panicked ↔ first = .panicked ∨ ∃ value, first = .ok value ∧ next value = .panicked := by
  cases first with
  | ok value => simp [bind]
  | error reason => simp [bind]
  | panicked => simp [bind]

theorem map_eq_ok (f : A → B) (self : Outcome E A) (result : B) :
    self.map f = .ok result ↔ ∃ value, self = .ok value ∧ f value = result := by
  simp [map,bind_eq_ok]

theorem map_eq_panicked (f : A → B) (self : Outcome E A) : self.map f = .panicked ↔ self = .panicked := by
  simp [map,bind_eq_panicked]

theorem bind_map_eq_ok (first : Outcome E A) (second : Outcome E B) (f : A → B → C) (result : C) :
    first.bind (fun value => second.map (f value)) = .ok result ↔
      ∃ value other, first = .ok value ∧ second = .ok other ∧ f value other = result := by
  simp only [bind_eq_ok,map_eq_ok,exists_and_left]

theorem bind_map_eq_panicked (first : Outcome E A) (second : Outcome E B) (f : A → B → C) :
    first.bind (fun value => second.map (f value)) = .panicked ↔
      first = .panicked ∨ ∃ value, first = .ok value ∧ second = .panicked := by
  simp only [bind_eq_panicked,map_eq_panicked]

theorem ofExcept_eq_ok (self : Except E A) (value : A) : ofExcept self = .ok value ↔ self = .ok value := by
  cases self with
  | ok found => simp [ofExcept]
  | error reason => simp [ofExcept]

theorem ofExcept_ne_panicked (self : Except E A) : ofExcept self ≠ .panicked := by
  cases self with
  | ok found => simp [ofExcept]
  | error reason => simp [ofExcept]

def collect (f : A → Outcome E B) : List A → Outcome E (List B)
  | [] => .ok []
  | item::items => (f item).bind (fun value => (collect f items).map (value :: ·))

theorem collect_eq_ok (f : A → Outcome E B) (items : List A) (values : List B) :
    collect f items = .ok values ↔ List.Forall₂ (fun item value => f item = .ok value) items values := by
  induction items generalizing values with
  | nil =>
    simp only [collect,ok.injEq,List.forall₂_nil_left_iff]
    exact eq_comm
  | cons item items ih =>
    simp only [collect,bind_eq_ok,map_eq_ok,ih,List.forall₂_cons_left_iff]
    constructor
    · rintro ⟨value,now,rest,later,rfl⟩
      exact ⟨value,rest,now,later,rfl⟩
    · rintro ⟨value,rest,now,later,rfl⟩
      exact ⟨value,now,rest,later,rfl⟩

/-- The list panics at the item that does and is reached. -/
theorem collect_eq_panicked (f : A → Outcome E B) (items : List A) :
    collect f items = .panicked ↔ ∃ before item after, items = before ++ item::after ∧
      (∀ earlier ∈ before, ∃ value, f earlier = .ok value) ∧ f item = .panicked := by
  induction items with
  | nil => simp [collect]
  | cons item items ih =>
    simp only [collect,bind_eq_panicked,map_eq_panicked,ih]
    constructor
    · rintro (now | ⟨value,now,before,cause,after,rfl,earlier,panics⟩)
      · exact ⟨[],item,items,rfl,by simp,now⟩
      · refine ⟨item::before,cause,after,rfl,?_,panics⟩
        exact List.forall_mem_cons.mpr ⟨⟨value,now⟩,earlier⟩
    · rintro ⟨before,cause,after,same,earlier,panics⟩
      cases before with
      | nil =>
        cases same
        exact .inl panics
      | cons first before =>
        cases same
        obtain ⟨⟨value,now⟩,rest⟩ := List.forall_mem_cons.mp earlier
        exact .inr ⟨value,now,before,cause,after,rfl,rest,panics⟩

end Outcome
end Warpdrive.Foundation
