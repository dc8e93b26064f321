import Warpdrive.Foundation.Outcome

/-! Values that come back unchanged from a conversion and the one that undoes it, each of which may fail. A list
and an optional value come back when their items do. -/
namespace Warpdrive.Foundation

universe u v w x

namespace Outcome

variable {E : Type u} {A : Type v} {B : Type w}

/-- `map(f).transpose()`. -/
def optional (f : A → Outcome E B) : Option A → Outcome E (Option B)
  | none => .ok none
  | some value => (f value).map some

@[simp] theorem bind_ok (value : A) (next : A → Outcome E B) : (Outcome.ok value : Outcome E A).bind next = next value := rfl

@[simp] theorem map_ok (f : A → B) (value : A) : (Outcome.ok value : Outcome E A).map f = .ok (f value) := rfl

theorem ofExcept_mapError_ok {F : Type x} (f : F → E) (result : Except F A) (value : A) (returned : result = .ok value) :
    ofExcept (result.mapError f) = .ok value := by
  rw [returned]
  rfl

theorem optional_map (out : A → B) (back : B → Outcome E A) (value : Option A)
    (each : ∀ item, value = some item → back (out item) = .ok item) : optional back (value.map out) = .ok value := by
  cases value with
  | none => rfl
  | some item => rw [Option.map_some,optional,each item rfl,map_ok]

end Outcome

/-- The image of a value under `out` is taken back to it. -/
def Survives {E : Type u} {F : Type v} {A : Type w} {B : Type x} (out : A → Outcome E B) (back : B → Outcome F A)
    (value : A) : Prop :=
  ∃ image, out value = .ok image ∧ back image = .ok value

namespace Survives

variable {E : Type u} {F : Type v} {A : Type w} {B : Type x} {out : A → Outcome E B} {back : B → Outcome F A}

theorem collect (items : List A) (each : ∀ item ∈ items, Survives out back item) :
    Survives (Outcome.collect out) (Outcome.collect back) items := by
  induction items with
  | nil => exact ⟨[],rfl,rfl⟩
  | cons item items ih =>
    obtain ⟨now,later⟩ := List.forall_mem_cons.mp each
    obtain ⟨image,there,again⟩ := now
    obtain ⟨images,theres,agains⟩ := ih later
    refine ⟨image::images,?_,?_⟩
    · simp only [Outcome.collect,there,theres,Outcome.bind_ok,Outcome.map_ok]
    · simp only [Outcome.collect,again,agains,Outcome.bind_ok,Outcome.map_ok]

end Survives
end Warpdrive.Foundation
