import Warpdrive.Foundation.Execution

/-! What a partial step function can still reach. A goal is within reach of a state when
some run of allowed actions leads to it. A system with a measure of its unfinished work
can finish all of it when every unfinished state can lower the measure. -/
namespace Warpdrive.Foundation.Execution

universe u v

variable {S : Type u} {A : Type v} {step : S → A → Option S}

def CanReach (step : S → A → Option S) (allowed : A → Prop) (goal : S → Prop) (state : S) : Prop :=
  ∃ acts final, (∀ act ∈ acts, allowed act) ∧ run step state acts = some final ∧ goal final

variable {allowed : A → Prop} {goal : S → Prop}

theorem CanReach.here (state : S) (met : goal state) : CanReach step allowed goal state :=
  ⟨[],state,by simp,rfl,met⟩

theorem CanReach.next (state after : S) (act : A) (taken : step state act = some after) (may : allowed act)
    (rest : CanReach step allowed goal after) : CanReach step allowed goal state := by
  obtain ⟨acts,final,all,reached,met⟩ := rest
  exact ⟨act::acts,final,List.forall_mem_cons.mpr ⟨may,all⟩,
    (run_cons state final act acts).mpr ⟨after,taken,reached⟩,met⟩

theorem CanReach.once (state after : S) (act : A) (taken : step state act = some after) (may : allowed act)
    (met : goal after) : CanReach step allowed goal state :=
  .next state after act taken may (.here after met)

theorem CanReach.trans {middle : S → Prop} (state : S) (first : CanReach step allowed middle state)
    (rest : ∀ after, middle after → CanReach step allowed goal after) : CanReach step allowed goal state := by
  obtain ⟨before,between,may,reached,met⟩ := first
  obtain ⟨after,final,all,ended,done⟩ := rest between met
  refine ⟨before ++ after,final,?_,(run_append state final before after).mpr ⟨between,reached,ended⟩,done⟩
  intro act member
  rcases List.mem_append.mp member with early | late
  · exact may act early
  · exact all act late

/-- More actions and a weaker goal leave what was within reach there. -/
theorem CanReach.mono {more : A → Prop} {weaker : S → Prop} (state : S) (reach : CanReach step allowed goal state)
    (admits : ∀ act, allowed act → more act) (implies : ∀ final, goal final → weaker final) :
    CanReach step more weaker state := by
  obtain ⟨acts,final,all,reached,met⟩ := reach
  exact ⟨acts,final,fun act member => admits act (all act member),reached,implies final met⟩

/-- What every allowed step keeps holds where a goal is reached. -/
theorem CanReach.keeping (inv : S → Prop)
    (keeps : ∀ state act next, step state act = some next → allowed act → inv state → inv next)
    (state : S) (initial : inv state) (reach : CanReach step allowed goal state) :
    CanReach step allowed (fun final => inv final ∧ goal final) state := by
  obtain ⟨acts,final,all,reached,met⟩ := reach
  refine ⟨acts,final,all,reached,?_,met⟩
  have along : Along step (fun _ act _ => allowed act) state acts :=
    along_of_forall _ state acts (fun act member _ _ => all act member)
  exact invariant_along (fun _ act _ => allowed act) inv keeps state final acts reached along initial

/-- All work can be finished when every unfinished state can reach one with less of it. -/
theorem CanReach.of_measure (inv : S → Prop) (measure : S → Nat)
    (keeps : ∀ state act next, step state act = some next → allowed act → inv state → inv next)
    (lowers : ∀ state, inv state → 0 < measure state →
      CanReach step allowed (fun next => measure next < measure state) state)
    (state : S) (initial : inv state) :
    CanReach step allowed (fun final => inv final ∧ measure final = 0) state := by
  induction size : measure state using Nat.strongRecOn generalizing state with
  | ind work ih =>
    rcases Nat.eq_zero_or_pos (measure state) with done | unfinished
    · exact .here state ⟨initial,done⟩
    · refine .trans state ((lowers state initial unfinished).keeping inv keeps state initial) ?_
      intro next lower
      have less : measure next < work := by omega
      exact ih (measure next) less next lower.1 rfl

end Warpdrive.Foundation.Execution
