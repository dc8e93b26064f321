import Mathlib.Data.List.Basic

/-! Executions of a partial step function. A step that yields `none` is not
enabled in its state, so a run exists only along enabled actions. An invariant is
proved for one step and lifted to every run here. -/
namespace Warpdrive.Foundation.Execution

universe u v

variable {S : Type u} {A : Type v}

def run (step : S → A → Option S) : S → List A → Option S
  | state,[] => some state
  | state,act::acts => (step state act).bind (fun next => run step next acts)

/-- Every step taken along the run satisfies `holds`, which sees the state
before, the action and the state after. -/
def Along (step : S → A → Option S) (holds : S → A → S → Prop) : S → List A → Prop
  | _,[] => True
  | state,act::acts =>
    match step state act with
    | none => True
    | some next => holds state act next ∧ Along step holds next acts

variable {step : S → A → Option S}

@[simp] theorem run_nil (state : S) : run step state [] = some state := rfl

theorem run_cons (state final : S) (act : A) (acts : List A) :
    run step state (act::acts) = some final ↔
      ∃ next, step state act = some next ∧ run step next acts = some final := by
  simp [run,Option.bind_eq_some_iff]

theorem run_any (step : S → A → Option S) (state : S) (acts : List A) (test : S → Bool)
    (passes : (run step state acts).any test = true) :
    ∃ final, run step state acts = some final ∧ test final = true := by
  cases reached : run step state acts with
  | none => simp [reached] at passes
  | some final => exact ⟨final,rfl,by simpa [reached] using passes⟩

theorem run_total (total : ∀ state act, ∃ next, step state act = some next) (state : S) (acts : List A) :
    ∃ final, run step state acts = some final := by
  induction acts generalizing state with
  | nil => exact ⟨state,rfl⟩
  | cons act acts ih =>
    obtain ⟨next,taken⟩ := total state act
    obtain ⟨final,rest⟩ := ih next
    exact ⟨final,(run_cons state final act acts).mpr ⟨next,taken,rest⟩⟩

theorem run_append (state final : S) (first second : List A) :
    run step state (first ++ second) = some final ↔
      ∃ middle, run step state first = some middle ∧ run step middle second = some final := by
  induction first generalizing state with
  | nil => simp
  | cons act acts ih =>
    rw [List.cons_append,run_cons]
    simp only [ih,run_cons]
    constructor
    · intro reached
      obtain ⟨next,taken,middle,before,after⟩ := reached
      exact ⟨middle,⟨next,taken,before⟩,after⟩
    · intro reached
      obtain ⟨middle,⟨next,taken,before⟩,after⟩ := reached
      exact ⟨next,taken,middle,before,after⟩

theorem along_cons (holds : S → A → S → Prop) (state next : S) (act : A) (acts : List A)
    (taken : step state act = some next) :
    Along step holds state (act::acts) ↔ holds state act next ∧ Along step holds next acts := by
  simp [Along,taken]

/-- What holds along a run holds along the rest of it. -/
theorem along_append {holds : S → A → S → Prop} (state middle : S) (first second : List A)
    (reached : run step state first = some middle) (along : Along step holds state (first ++ second)) :
    Along step holds middle second := by
  induction first generalizing state with
  | nil =>
    cases reached
    exact along
  | cons act acts ih =>
    obtain ⟨next,taken,rest⟩ := (run_cons state middle act acts).mp reached
    rw [List.cons_append,along_cons holds state next act (acts ++ second) taken] at along
    exact ih next rest along.2

/-- What holds along a run holds along its beginning. -/
theorem along_stem {holds : S → A → S → Prop} (state : S) (first second : List A)
    (along : Along step holds state (first ++ second)) : Along step holds state first := by
  induction first generalizing state with
  | nil => trivial
  | cons act acts ih =>
    rw [List.cons_append] at along
    unfold Along at along ⊢
    cases taken : step state act with
    | none => trivial
    | some next =>
      rw [taken] at along
      exact ⟨along.1,ih next along.2⟩

instance decidableAlong (holds : S → A → S → Prop) [∀ state act next, Decidable (holds state act next)]
    (state : S) (acts : List A) : Decidable (Along step holds state acts) :=
  match acts with
  | [] => .isTrue trivial
  | act::acts =>
    match taken : step state act with
    | none => .isTrue (by simp [Along,taken])
    | some next =>
      have := decidableAlong holds next acts
      decidable_of_iff _ (along_cons holds state next act acts taken).symm

/-- What one step keeps under `holds`, every run along which `holds` keeps. -/
theorem invariant_along (holds : S → A → S → Prop) (inv : S → Prop)
    (keeps : ∀ state act next, step state act = some next → holds state act next →
      inv state → inv next)
    (state final : S) (acts : List A) (reached : run step state acts = some final)
    (along : Along step holds state acts) (initial : inv state) : inv final := by
  induction acts generalizing state with
  | nil =>
    cases reached
    exact initial
  | cons act acts ih =>
    obtain ⟨next,taken,rest⟩ := (run_cons state final act acts).mp reached
    obtain ⟨first,along⟩ := (along_cons holds state next act acts taken).mp along
    exact ih next rest along (keeps state act next taken first initial)

/-- What holds of every action of a run, whatever the states, holds along it. -/
theorem along_of_forall (holds : S → A → S → Prop) (state : S) (acts : List A)
    (all : ∀ act ∈ acts, ∀ before after, holds before act after) : Along step holds state acts := by
  induction acts generalizing state with
  | nil => trivial
  | cons act acts ih =>
    unfold Along
    split
    · trivial
    · exact ⟨all act List.mem_cons_self _ _,
        ih _ (fun other member => all other (List.mem_cons_of_mem act member))⟩

theorem invariant (inv : S → Prop)
    (keeps : ∀ state act next, step state act = some next → inv state → inv next)
    (state final : S) (acts : List A) (reached : run step state acts = some final)
    (initial : inv state) : inv final :=
  invariant_along (fun _ _ _ => True) inv (fun s a n taken _ => keeps s a n taken)
    state final acts reached (along_of_forall _ state acts (fun _ _ _ _ => trivial)) initial

/-- A property of single steps that follows from an invariant holds along every
run that keeps the invariant, and the run ends in the invariant. -/
theorem along_of_invariant (holds shown : S → A → S → Prop) (inv : S → Prop)
    (keeps : ∀ state act next, step state act = some next → holds state act next →
      inv state → inv next ∧ shown state act next)
    (state final : S) (acts : List A) (reached : run step state acts = some final)
    (along : Along step holds state acts) (initial : inv state) :
    Along step shown state acts ∧ inv final := by
  induction acts generalizing state with
  | nil =>
    cases reached
    exact ⟨trivial,initial⟩
  | cons act acts ih =>
    obtain ⟨next,taken,rest⟩ := (run_cons state final act acts).mp reached
    obtain ⟨first,along⟩ := (along_cons holds state next act acts taken).mp along
    obtain ⟨kept,now⟩ := keeps state act next taken first initial
    obtain ⟨later,ends⟩ := ih next rest along kept
    exact ⟨(along_cons shown state next act acts taken).mpr ⟨now,later⟩,ends⟩

/-- Two properties of single steps that agree under an invariant, which one of them keeps,
hold along the same runs of allowed actions. -/
theorem along_iff_of_allowed (holds shown : S → A → S → Prop) (inv : S → Prop) (allowed : A → Prop)
    (agree : ∀ state act next, allowed act → step state act = some next → inv state →
      (shown state act next ↔ holds state act next))
    (keeps : ∀ state act next, allowed act → step state act = some next → holds state act next →
      inv state → inv next)
    (state : S) (acts : List A) (all : ∀ act ∈ acts, allowed act) (initial : inv state) :
    Along step shown state acts ↔ Along step holds state acts := by
  induction acts generalizing state with
  | nil => exact Iff.rfl
  | cons act acts ih =>
    obtain ⟨may,rest⟩ := List.forall_mem_cons.mp all
    unfold Along
    cases taken : step state act with
    | none => exact Iff.rfl
    | some next =>
      have now := agree state act next may taken initial
      constructor
      · rintro ⟨first,later⟩
        have kept := keeps state act next may taken (now.mp first) initial
        exact ⟨now.mp first,(ih next rest kept).mp later⟩
      · rintro ⟨first,later⟩
        have kept := keeps state act next may taken first initial
        exact ⟨now.mpr first,(ih next rest kept).mpr later⟩

theorem along_iff_of_invariant (holds shown : S → A → S → Prop) (inv : S → Prop)
    (agree : ∀ state act next, step state act = some next → inv state →
      (shown state act next ↔ holds state act next))
    (keeps : ∀ state act next, step state act = some next → holds state act next →
      inv state → inv next)
    (state : S) (acts : List A) (initial : inv state) :
    Along step shown state acts ↔ Along step holds state acts :=
  along_iff_of_allowed holds shown inv (fun _ => True) (fun s a n _ => agree s a n) (fun s a n _ => keeps s a n)
    state acts (fun _ _ => trivial) initial

/-- What the actions of a run emit, in order. -/
def emitted {E : Type v} (step : S → A → Option S) (emit : S → A → List E) : S → List A → List E
  | _,[] => []
  | state,act::acts =>
    match step state act with
    | none => []
    | some next => emit state act ++ emitted step emit next acts

/-- What one step keeps of a state and of what was emitted up to it, every run keeps. -/
theorem invariant_emitted {E : Type v} (emit : S → A → List E) (inv : List E → S → Prop)
    (keeps : ∀ log state act next, step state act = some next → inv log state → inv (log ++ emit state act) next)
    (log : List E) (state final : S) (acts : List A) (reached : run step state acts = some final)
    (initial : inv log state) : inv (log ++ emitted step emit state acts) final := by
  induction acts generalizing log state with
  | nil =>
    cases reached
    simpa [emitted] using initial
  | cons act acts ih =>
    obtain ⟨next,taken,rest⟩ := (run_cons state final act acts).mp reached
    simp only [emitted,taken,← List.append_assoc]
    exact ih _ next rest (keeps log state act next taken initial)

theorem emitted_actions (state final : S) (acts : List A) (reached : run step state acts = some final) :
    emitted step (fun _ act => [act]) state acts = acts := by
  induction acts generalizing state with
  | nil => rfl
  | cons act acts ih =>
    obtain ⟨next,taken,rest⟩ := (run_cons state final act acts).mp reached
    simp only [emitted,taken,ih next rest,List.singleton_append]

/-- What one step keeps of a state and of the actions taken up to it, every run keeps. -/
theorem invariant_history (inv : List A → S → Prop)
    (keeps : ∀ past state act next, step state act = some next → inv past state → inv (past ++ [act]) next)
    (state final : S) (acts : List A) (reached : run step state acts = some final)
    (initial : inv [] state) : inv acts final := by
  have whole := invariant_emitted (fun _ act => [act]) inv keeps [] state final acts reached initial
  rwa [emitted_actions state final acts reached,List.nil_append] at whole

end Warpdrive.Foundation.Execution
