import Mathlib.Data.List.Nodup
import Mathlib.Data.Set.Insert

/-! A reader that follows one source at a time. What waits to be read is a list of turns: a
source lands and becomes the one that is followed, a source leaves, or a source gives an
item, which is taken if that source is followed. `tracked` are the sources that have landed,
`active` those that still give items. The list is orderly when every item of a source that
has landed, or is still to land, comes while that source is followed. -/
namespace Warpdrive.Foundation.Handover

variable {I L : Type} [DecidableEq I]

inductive Turn (I L : Type)
  | lands (id : I)
  | leaves (id : I)
  | event (id : I) (item : L)
  | idle

namespace Turn

def next (recent : Option I) : Turn I L → Option I
  | .lands id => some id
  | .leaves id => if recent = some id then none else recent
  | .event _ _ => recent
  | .idle => recent

/-- The turn once the reader has decided not to follow what is still to land. -/
def mute : Turn I L → Turn I L
  | .lands _ => .idle
  | turn => turn

def landing : Turn I L → Option I
  | .lands id => some id
  | _ => none

def item? : Turn I L → Option (I × L)
  | .event id item => some (id,item)
  | _ => none

omit [DecidableEq I] in
@[simp] theorem landing_eq_some (turn : Turn I L) (id : I) : turn.landing = some id ↔ turn = .lands id := by
  cases turn <;> simp [landing]

omit [DecidableEq I] in
@[simp] theorem item_eq_some (turn : Turn I L) (entry : I × L) :
    turn.item? = some entry ↔ turn = .event entry.1 entry.2 := by
  cases turn <;> simp [item?,Prod.ext_iff]

omit [DecidableEq I] in
@[simp] theorem mute_ne_lands (turn : Turn I L) (id : I) : turn.mute ≠ .lands id := by
  cases turn <;> simp [mute]

omit [DecidableEq I] in
@[simp] theorem mute_eq_event (turn : Turn I L) (id : I) (item : L) :
    turn.mute = .event id item ↔ turn = .event id item := by
  cases turn <;> simp [mute]

omit [DecidableEq I] in
@[simp] theorem item_mute (turn : Turn I L) : turn.mute.item? = turn.item? := by
  cases turn <;> rfl

end Turn

/-- The source that is followed once the turns are read. -/
def recent (start : Option I) (turns : List (Turn I L)) : Option I := turns.foldl Turn.next start

theorem recent_cons (start : Option I) (turn : Turn I L) (rest : List (Turn I L)) :
    recent start (turn::rest) = recent (turn.next start) rest := rfl

theorem recent_append (start : Option I) (first second : List (Turn I L)) :
    recent start (first ++ second) = recent (recent start first) second := List.foldl_append

/-- A source that does not land is followed at the end only if it was at the start. -/
theorem recent_start (turns : List (Turn I L)) (start : Option I) (id : I)
    (silent : .lands id ∉ turns) (follows : recent start turns = some id) : start = some id := by
  induction turns generalizing start with
  | nil => exact follows
  | cons turn rest ih =>
    have before := ih (turn.next start) (fun later => silent (List.mem_cons_of_mem _ later)) follows
    cases turn with
    | lands other => exact absurd (Option.some.inj before ▸ List.mem_cons_self) silent
    | leaves other =>
      simp only [Turn.next] at before
      split at before
      · cases before
      · exact before
    | event other item => exact before
    | idle => exact before

/-- Sources that have landed or are still to land. -/
def Kept (tracked : Set I) (turns : List (Turn I L)) (id : I) : Prop := id ∈ tracked ∨ .lands id ∈ turns

structure Orderly (tracked active : Set I) (start : Option I) (turns : List (Turn I L)) : Prop where
  fresh : ∀ id, .lands id ∈ turns → id ∉ tracked
  once : (turns.filterMap Turn.landing).Nodup
  after : turns.Pairwise (fun first second => ∀ id item, first = .event id item → second ≠ .lands id)
  fair : ∀ before id item rest, turns = before ++ .event id item::rest → Kept tracked turns id →
    recent start before = some id
  rests : ∀ id ∈ active, Kept tracked turns id → recent start turns = some id

/-- The sources that have landed after a turn. -/
def tracks (tracked : Set I) (turn : Turn I L) : Set I := {id | id ∈ tracked ∨ turn = .lands id}

omit [DecidableEq I] in
theorem kept_cons (tracked : Set I) (turn : Turn I L) (rest : List (Turn I L)) (id : I) :
    Kept tracked (turn::rest) id ↔ Kept (tracks tracked turn) rest id := by
  simp only [Kept,tracks,List.mem_cons,Set.mem_setOf_eq,or_assoc,eq_comm]

omit [DecidableEq I] in
theorem kept_append (tracked : Set I) (turns : List (Turn I L)) (turn : Turn I L) (id : I) :
    Kept tracked (turns ++ [turn]) id ↔ Kept tracked turns id ∨ turn = .lands id := by
  simp only [Kept,List.mem_append,List.mem_singleton,or_assoc,eq_comm]

namespace Orderly

variable {tracked active : Set I} {start : Option I} {turns : List (Turn I L)}

/-- A turn is read. -/
theorem shift {turn : Turn I L} (orderly : Orderly tracked active start (turn::turns)) :
    Orderly (tracks tracked turn) active (turn.next start) turns := by
  have once := orderly.once
  refine ⟨?_,?_,(List.pairwise_cons.mp orderly.after).2,?_,?_⟩
  · intro id later held
    rcases held with old | same
    · exact orderly.fresh id (List.mem_cons_of_mem _ later) old
    · subst same
      change (id::turns.filterMap Turn.landing).Nodup at once
      exact (List.nodup_cons.mp once).1 (List.mem_filterMap.mpr ⟨_,later,rfl⟩)
  · exact once.sublist ((List.sublist_cons_self turn turns).filterMap _)
  · intro before id item rest split kept
    have earlier := orderly.fair (turn::before) id item rest (by rw [split,List.cons_append])
      ((kept_cons tracked turn turns id).mpr kept)
    exact earlier
  · intro id given kept
    exact orderly.rests id given ((kept_cons tracked turn turns id).mpr kept)

/-- An item of a source that has landed is taken. -/
theorem taken {id : I} {item : L} (orderly : Orderly tracked active start (.event id item::turns))
    (landed : id ∈ tracked) : start = some id :=
  orderly.fair [] id item turns rfl (.inl landed)

/-- Once an item of a source is read, the source does not land. -/
theorem settled {id : I} {item : L} (orderly : Orderly tracked active start (.event id item::turns)) :
    .lands id ∉ turns := by
  intro later
  exact (List.pairwise_cons.mp orderly.after).1 _ later id item rfl rfl

/-- The reader decides not to follow what is still to land. Before that, a source that has
landed is followed when its items come, so nothing else has landed in between. -/
theorem mute (orderly : Orderly tracked active start turns) :
    Orderly tracked active start (turns.map Turn.mute) := by
  have silent : ∀ (list : List (Turn I L)) (id : I), .lands id ∉ list.map Turn.mute := by
    intro list id member
    obtain ⟨turn,_,same⟩ := List.mem_map.mp member
    exact turn.mute_ne_lands id same
  have same : ∀ (list : List (Turn I L)) (first second : Option I) (id : I), id ∈ tracked →
      (∀ other, .lands other ∈ list → other ∉ tracked) → (first = some id → second = some id) →
      recent first list = some id → recent second (list.map Turn.mute) = some id := by
    intro list
    induction list with
    | nil => exact fun first second id _ _ agree follows => agree follows
    | cons turn rest ih =>
      intro first second id held fresh agree follows
      rw [List.map_cons,recent_cons]
      refine ih (turn.next first) _ id held (fun other later => fresh other (List.mem_cons_of_mem _ later))
        ?_ follows
      cases turn with
      | lands other =>
        intro landed
        exact absurd held (Option.some.inj landed ▸ fresh other List.mem_cons_self)
      | leaves other =>
        intro stays
        simp only [Turn.next] at stays
        split at stays
        · cases stays
        · next apart =>
          have second := agree stays
          change (if _ = some other then none else _) = some id
          rw [second,if_neg]
          rw [stays] at apart
          exact apart
      | event other item => exact agree
      | idle => exact agree
  refine ⟨fun id landing => absurd landing (silent turns id),?_,?_,?_,?_⟩
  · have none : (turns.map Turn.mute).filterMap Turn.landing = [] := by
      rw [List.filterMap_eq_nil_iff]
      intro turn member
      by_contra landing
      obtain ⟨id,found⟩ := Option.ne_none_iff_exists'.mp landing
      exact silent turns id ((turn.landing_eq_some id).mp found ▸ member)
    rw [none]
    exact List.nodup_nil
  · rw [List.pairwise_map]
    exact orderly.after.imp (fun _ id _ _ => Turn.mute_ne_lands _ id)
  · intro before id item rest split kept
    obtain ⟨head,tail,parts,first,last⟩ := List.map_eq_append_iff.mp split
    obtain ⟨turn,others,more,now,_⟩ := List.map_eq_cons_iff.mp last
    rw [Turn.mute_eq_event] at now
    have held : id ∈ tracked := kept.resolve_right (silent turns id)
    rw [more,now] at parts
    have follows := orderly.fair head id item others parts (.inl held)
    rw [← first]
    apply same head start start id held _ (fun same => same) follows
    intro other landing
    apply orderly.fresh other
    rw [parts]
    exact List.mem_append_left _ landing
  · intro id given kept
    have held : id ∈ tracked := kept.resolve_right (silent turns id)
    exact same turns start start id held orderly.fresh (fun same => same) (orderly.rests id given (.inl held))

/-- Active sources give an item. -/
theorem give (orderly : Orderly tracked active start turns) (ids : List I) (item : L)
    (given : ∀ id ∈ ids, id ∈ active) :
    Orderly tracked active start (turns ++ ids.map (fun id => .event id item)) := by
  have silent : ∀ id, .lands id ∉ ids.map (fun id => Turn.event id item) := by simp
  have still : ∀ (list : List I) (first : Option I),
      recent first (list.map (fun id => Turn.event id item)) = first := by
    intro list
    induction list with
    | nil => exact fun _ => rfl
    | cons id rest ih => exact fun first => ih first
  have kept : ∀ id, Kept tracked (turns ++ ids.map (fun id => .event id item)) id → Kept tracked turns id := by
    intro id kept
    rcases kept with held | landing
    · exact .inl held
    · exact .inr ((List.mem_append.mp landing).resolve_right (silent id))
  refine ⟨?_,?_,?_,?_,?_⟩
  · intro id landing
    exact orderly.fresh id ((List.mem_append.mp landing).resolve_right (silent id))
  · have none : (ids.map (fun id => Turn.event id item)).filterMap Turn.landing = [] := by
      simp [List.filterMap_eq_nil_iff,Turn.landing]
    rw [List.filterMap_append,none,List.append_nil]
    exact orderly.once
  · rw [List.pairwise_append]
    refine ⟨orderly.after,?_,?_⟩
    · rw [List.pairwise_map]
      exact List.pairwise_of_forall (by simp)
    · intro first _ second member id other _ same
      exact silent id (same ▸ member)
  · intro before id other rest split held
    rcases List.append_eq_append_iff.mp split with ⟨between,first,second⟩ | ⟨between,first,second⟩
    · obtain ⟨earlier,later,parts,start,last⟩ := List.map_eq_append_iff.mp second
      obtain ⟨source,others,more,now,_⟩ := List.map_eq_cons_iff.mp last
      cases now
      rw [first,recent_append,← start,still]
      apply orderly.rests id _ (kept id held)
      apply given
      rw [parts,more]
      exact List.mem_append_right _ List.mem_cons_self
    · cases between with
      | nil =>
        rw [List.append_nil] at first
        obtain ⟨source,others,more,now,_⟩ := List.map_eq_cons_iff.mp second.symm
        cases now
        rw [← first]
        apply orderly.rests id _ (kept id held)
        apply given
        rw [more]
        exact List.mem_cons_self
      | cons turn others =>
        cases second
        exact orderly.fair before id other others first (kept id held)
  · intro id held keeps
    rw [recent_append,still]
    exact orderly.rests id held (kept id keeps)

/-- The last turn of a list is no item. -/
theorem split_last (turns before rest : List (Turn I L)) (turn : Turn I L) (id : I) (item : L)
    (split : turns ++ [turn] = before ++ .event id item::rest) (other : turn ≠ .event id item) :
    ∃ rest, turns = before ++ .event id item::rest := by
  rcases List.eq_nil_or_concat rest with rfl | ⟨others,last,rfl⟩
  · obtain ⟨_,same⟩ := List.append_inj' split rfl
    exact absurd (List.singleton_inj.mp same) other
  · refine ⟨others,?_⟩
    rw [List.concat_eq_append,← List.cons_append,← List.append_assoc] at split
    exact (List.append_inj' split rfl).1

/-- A turn that is no item comes after all others. -/
theorem extend (orderly : Orderly tracked active start turns) (turn : Turn I L) (remain : Set I)
    (other : ∀ id item, turn ≠ .event id item)
    (new : ∀ id, turn = .lands id → id ∉ tracked ∧ .lands id ∉ turns ∧ ∀ item, .event id item ∉ turns)
    (rests : ∀ id ∈ remain, Kept tracked turns id ∨ turn = .lands id →
      turn.next (recent start turns) = some id) :
    Orderly tracked remain start (turns ++ [turn]) := by
  refine ⟨?_,?_,?_,?_,?_⟩
  · intro id landing
    rcases List.mem_append.mp landing with old | last
    · exact orderly.fresh id old
    · exact (new id (List.mem_singleton.mp last).symm).1
  · rw [List.filterMap_append,List.nodup_append]
    refine ⟨orderly.once,?_,?_⟩
    · cases turn with
      | lands id => exact List.nodup_singleton id
      | _ => exact List.nodup_nil
    · intro id first second last same
      subst same
      obtain ⟨earlier,member,lands⟩ := List.mem_filterMap.mp first
      obtain ⟨later,single,again⟩ := List.mem_filterMap.mp last
      rw [List.mem_singleton.mp single] at again
      obtain rfl := (Turn.landing_eq_some _ _).mp lands
      exact (new id ((Turn.landing_eq_some _ _).mp again)).2.1 member
  · rw [List.pairwise_append]
    refine ⟨orderly.after,List.pairwise_singleton _ _,?_⟩
    intro first member second last id item event same
    rw [List.mem_singleton.mp last] at same
    exact (new id same).2.2 item (event ▸ member)
  · intro before id item rest split kept
    obtain ⟨others,parts⟩ := split_last turns before rest turn id item split (other id item)
    rcases (kept_append tracked turns turn id).mp kept with held | lands
    · exact orderly.fair before id item others parts held
    · refine absurd ?_ ((new id lands).2.2 item)
      rw [parts]
      exact List.mem_append_right _ List.mem_cons_self
  · intro id member kept
    rw [recent_append]
    exact rests id member ((kept_append tracked turns turn id).mp kept)

end Orderly

open Classical in
/-- What was taken of what was given: the items of the turns that were read, as far as their
sources have landed. No item is given twice through sources that are kept. -/
structure Accounted (tracked : Set I) (turns : List (Turn I L)) (given : List (I × L)) (taken : List L) : Prop where
  read : ∃ done, given = done ++ turns.filterMap Turn.item? ∧
    taken = (done.filter (fun entry => decide (entry.1 ∈ tracked))).map Prod.snd ∧
    ∀ entry ∈ done, .lands entry.1 ∉ turns
  single : given.Pairwise (fun first second => first.2 = second.2 →
    ¬(Kept tracked turns first.1 ∧ Kept tracked turns second.1))

namespace Accounted

variable {tracked active : Set I} {start : Option I} {turns : List (Turn I L)}
  {given : List (I × L)} {taken : List L}

omit [DecidableEq I] in
/-- A turn without an item is read. -/
theorem shift {turn : Turn I L} (accounted : Accounted tracked (turn::turns) given taken)
    (plain : turn.item? = none) : Accounted (tracks tracked turn) turns given taken := by
  obtain ⟨done,split,picked,settled⟩ := accounted.read
  rw [List.filterMap_cons_none plain] at split
  refine ⟨⟨done,split,?_,?_⟩,?_⟩
  · rw [picked]
    congr 1
    apply List.filter_congr
    intro entry member
    rw [decide_eq_decide]
    constructor
    · exact .inl
    · intro held
      rcases held with old | same
      · exact old
      · exact absurd (same ▸ List.mem_cons_self) (settled entry member)
  · intro entry member later
    exact settled entry member (List.mem_cons_of_mem _ later)
  · exact accounted.single.imp (fun apart same kept => apart same
      ⟨(kept_cons _ _ _ _).mpr kept.1,(kept_cons _ _ _ _).mpr kept.2⟩)

open Classical in
/-- An item is read and taken if its source has landed. -/
theorem read_item {id : I} {item : L} (accounted : Accounted tracked (.event id item::turns) given taken)
    (settled : .lands id ∉ turns) :
    Accounted tracked turns given (taken ++ if id ∈ tracked then [item] else []) := by
  obtain ⟨done,split,picked,before⟩ := accounted.read
  have kept : ∀ other, Kept tracked turns other → Kept tracked (.event id item::turns) other :=
    fun other kept => kept.imp_right (List.mem_cons_of_mem _)
  refine ⟨⟨done ++ [(id,item)],?_,?_,?_⟩,?_⟩
  · rw [List.append_assoc]
    exact split
  · rw [picked,List.filter_append,List.map_append]
    congr 1
    by_cases landed : id ∈ tracked <;> simp [landed]
  · intro entry member
    rcases List.mem_append.mp member with old | last
    · exact fun later => before entry old (List.mem_cons_of_mem _ later)
    · rw [List.mem_singleton.mp last]
      exact settled
  · exact accounted.single.imp (fun apart same both => apart same ⟨kept _ both.1,kept _ both.2⟩)

omit [DecidableEq I] in
theorem mute (accounted : Accounted tracked turns given taken) :
    Accounted tracked (turns.map Turn.mute) given taken := by
  have silent : ∀ id, .lands id ∉ turns.map Turn.mute := by
    intro id member
    obtain ⟨turn,_,same⟩ := List.mem_map.mp member
    exact turn.mute_ne_lands id same
  obtain ⟨done,split,picked,_⟩ := accounted.read
  refine ⟨⟨done,?_,picked,fun entry _ => silent entry.1⟩,?_⟩
  · rw [split,List.filterMap_map]
    congr 1
    exact List.filterMap_congr (fun turn _ => turn.item_mute.symm)
  · exact accounted.single.imp (fun apart same both => apart same
      ⟨.inl (both.1.resolve_right (silent _)),.inl (both.2.resolve_right (silent _))⟩)

/-- Active sources give a new item. At most one of them is kept, since it is followed. -/
theorem give (accounted : Accounted tracked turns given taken) (orderly : Orderly tracked active start turns)
    (ids : List I) (item : L) (distinct : ids.Nodup) (members : ∀ id ∈ ids, id ∈ active)
    (new : ∀ entry ∈ given, entry.2 ≠ item) :
    Accounted tracked (turns ++ ids.map (fun id => .event id item)) (given ++ ids.map (fun id => (id,item)))
      taken := by
  have kept : ∀ id, Kept tracked (turns ++ ids.map (fun id => .event id item)) id → Kept tracked turns id := by
    intro id kept
    rcases kept with held | landing
    · exact .inl held
    · exact .inr ((List.mem_append.mp landing).resolve_right (by simp))
  obtain ⟨done,split,picked,settled⟩ := accounted.read
  refine ⟨⟨done,?_,picked,?_⟩,?_⟩
  · rw [split,List.filterMap_append,List.filterMap_map,List.append_assoc]
    congr 2
    rw [← List.filterMap_eq_map]
    exact List.filterMap_congr (fun _ _ => rfl)
  · intro entry member landing
    rcases List.mem_append.mp landing with old | later
    · exact settled entry member old
    · simp at later
  · rw [List.pairwise_append]
    refine ⟨accounted.single.imp (fun apart same both => apart same ⟨kept _ both.1,kept _ both.2⟩),?_,?_⟩
    · rw [List.pairwise_map]
      apply distinct.imp_of_mem
      intro first second here there apart _ both
      have one := orderly.rests first (members first here) (kept first both.1)
      have two := orderly.rests second (members second there) (kept second both.2)
      exact apart (Option.some.inj (one.symm.trans two))
    · intro first member second last same _
      obtain ⟨id,_,rfl⟩ := List.mem_map.mp last
      exact new first member same

omit [DecidableEq I] in
/-- A turn that is no item comes after all others. -/
theorem extend (accounted : Accounted tracked turns given taken) (turn : Turn I L)
    (plain : turn.item? = none) (new : ∀ entry ∈ given, turn ≠ .lands entry.1) :
    Accounted tracked (turns ++ [turn]) given taken := by
  obtain ⟨done,split,picked,settled⟩ := accounted.read
  refine ⟨⟨done,?_,picked,?_⟩,?_⟩
  · rw [split,List.filterMap_append,List.filterMap_cons_none plain,List.filterMap_nil,List.append_nil]
  · intro entry member landing
    rcases List.mem_append.mp landing with old | last
    · exact settled entry member old
    · apply new entry _ (List.mem_singleton.mp last).symm
      rw [split]
      exact List.mem_append_left _ member
  · apply accounted.single.imp_of_mem
    intro first second here there apart same both
    have one := ((kept_append tracked turns turn _).mp both.1).resolve_right (new first here)
    have two := ((kept_append tracked turns turn _).mp both.2).resolve_right (new second there)
    exact apart same ⟨one,two⟩

omit [DecidableEq I] in
/-- Nothing is taken twice. -/
theorem taken_nodup (accounted : Accounted tracked turns given taken) : taken.Nodup := by
  obtain ⟨done,split,picked,_⟩ := accounted.read
  have single := accounted.single
  rw [split] at single
  rw [picked,List.Nodup,List.pairwise_map]
  apply ((List.pairwise_append.mp single).1.filter _).imp_of_mem
  intro first second here there apart same
  have one := (List.mem_filter.mp here).2
  have two := (List.mem_filter.mp there).2
  simp only [decide_eq_true_eq] at one two
  exact apart same ⟨.inl one,.inl two⟩

omit [DecidableEq I] in
/-- Once all items are read, what was taken is what sources that landed have given. -/
theorem mem_taken (accounted : Accounted tracked turns given taken)
    (drained : turns.filterMap Turn.item? = []) (item : L) :
    item ∈ taken ↔ ∃ id ∈ tracked, (id,item) ∈ given := by
  obtain ⟨done,split,picked,_⟩ := accounted.read
  rw [drained,List.append_nil] at split
  subst split
  rw [picked]
  constructor
  · intro member
    obtain ⟨entry,here,rfl⟩ := List.mem_map.mp member
    obtain ⟨inside,landed⟩ := List.mem_filter.mp here
    exact ⟨entry.1,by simpa using landed,inside⟩
  · rintro ⟨id,landed,inside⟩
    exact List.mem_map.mpr ⟨(id,item),List.mem_filter.mpr ⟨inside,by simpa using landed⟩,rfl⟩

end Accounted

end Warpdrive.Foundation.Handover
