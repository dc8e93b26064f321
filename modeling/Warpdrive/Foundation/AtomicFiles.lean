import Warpdrive.Foundation.Execution
import Warpdrive.Foundation.Maps

/-! Documents published in a folder. A writer fills a file under a temporary name and renames it to the place
of its document. Writers run side by side, give up, and are all lost in a crash, which may find a file half
written. What lies at a place is whole. -/
namespace Warpdrive.Foundation.AtomicFiles

open Warpdrive.Foundation.Execution

variable {Name Doc Byte : Type}

/-- Where documents go, and which names are for writers only. -/
structure Layout (Name Doc Byte : Type) where
  temporary : Name → Bool
  place : Doc → Name
  render : Doc → List Byte
  place_final : ∀ doc, temporary (place doc) = false

structure Writing (Doc : Type) where
  doc : Doc
  whole : Bool

/-- The files, and the writers by their temporary names. `asked` and `published` are the documents that
writers were made for and those they have renamed. -/
structure Folder (Name Doc Byte : Type) where
  files : HashMap Name (List Byte)
  writers : HashMap Name (Writing Doc)
  asked : List Doc
  published : List Doc

inductive Act (Name Doc : Type)
  | create (temp : Name) (doc : Doc)
  | write (temp : Name) (count : Nat)
  | finish (temp : Name)
  | rename (temp : Name)
  | abandon (temp : Name) (removed : Bool)
  | crash

variable [DecidableEq Name]

namespace Folder

def new : Folder Name Doc Byte := ⟨.new,.new,[],[]⟩

def step (layout : Layout Name Doc Byte) (self : Folder Name Doc Byte) : Act Name Doc → Option (Folder Name Doc Byte)
  | .create temp doc =>
    if layout.temporary temp = true ∧ self.files.get temp = none then
      some {self with
        files := self.files.insert temp []
        writers := self.writers.insert temp ⟨doc,false⟩
        asked := doc::self.asked}
    else none
  | .write temp count =>
    match self.writers.get temp with
    | some ⟨doc,false⟩ => some {self with files := self.files.insert temp ((layout.render doc).take count)}
    | _ => none
  | .finish temp =>
    match self.writers.get temp with
    | some ⟨doc,false⟩ => some {self with
        files := self.files.insert temp (layout.render doc)
        writers := self.writers.insert temp ⟨doc,true⟩}
    | _ => none
  | .rename temp =>
    match self.writers.get temp,self.files.get temp with
    | some ⟨doc,true⟩,some content => some {self with
        files := (self.files.remove temp).insert (layout.place doc) content
        writers := self.writers.remove temp
        published := doc::self.published}
    | _,_ => none
  | .abandon temp removed =>
    match self.writers.get temp with
    | some _ => some {self with
        files := if removed then self.files.remove temp else self.files
        writers := self.writers.remove temp}
    | none => none
  | .crash => some {self with writers := .new}

variable (layout : Layout Name Doc Byte)

inductive Taken (self : Folder Name Doc Byte) : Act Name Doc → Folder Name Doc Byte → Prop
  | create (temp doc) (short : layout.temporary temp = true) (fresh : self.files.get temp = none) :
      Taken self (.create temp doc) {self with
        files := self.files.insert temp []
        writers := self.writers.insert temp ⟨doc,false⟩
        asked := doc::self.asked}
  | write (temp count doc) (writing : self.writers.get temp = some ⟨doc,false⟩) :
      Taken self (.write temp count)
        {self with files := self.files.insert temp ((layout.render doc).take count)}
  | finish (temp doc) (writing : self.writers.get temp = some ⟨doc,false⟩) :
      Taken self (.finish temp) {self with
        files := self.files.insert temp (layout.render doc)
        writers := self.writers.insert temp ⟨doc,true⟩}
  | rename (temp doc content) (written : self.writers.get temp = some ⟨doc,true⟩)
      (found : self.files.get temp = some content) :
      Taken self (.rename temp) {self with
        files := (self.files.remove temp).insert (layout.place doc) content
        writers := self.writers.remove temp
        published := doc::self.published}
  | abandon (temp removed writing) (held : self.writers.get temp = some writing) :
      Taken self (.abandon temp removed) {self with
        files := if removed then self.files.remove temp else self.files
        writers := self.writers.remove temp}
  | crash : Taken self .crash {self with writers := .new}

theorem step_taken (self : Folder Name Doc Byte) (act : Act Name Doc) (next : Folder Name Doc Byte)
    (taken : step layout self act = some next) : Taken layout self act next := by
  cases act with
  | create temp doc =>
    simp only [step,Option.ite_none_right_eq_some,Option.some.injEq] at taken
    obtain ⟨⟨short,fresh⟩,rfl⟩ := taken
    exact .create temp doc short fresh
  | write temp count =>
    simp only [step] at taken
    split at taken
    next doc writing =>
      cases taken
      exact .write temp count doc writing
    next => cases taken
  | finish temp =>
    simp only [step] at taken
    split at taken
    next doc writing =>
      cases taken
      exact .finish temp doc writing
    next => cases taken
  | rename temp =>
    simp only [step] at taken
    split at taken
    next doc content written found =>
      cases taken
      exact .rename temp doc content written found
    next => cases taken
  | abandon temp removed =>
    simp only [step] at taken
    split at taken
    next writing held =>
      cases taken
      exact .abandon temp removed writing held
    next => cases taken
  | crash =>
    cases taken
    exact .crash

structure Intact (folder : Folder Name Doc Byte) : Prop where
  whole : ∀ name content, folder.files.get name = some content → layout.temporary name = false →
    ∃ doc ∈ folder.asked, layout.place doc = name ∧ layout.render doc = content
  temporary : ∀ temp writing, folder.writers.get temp = some writing → layout.temporary temp = true
  asked : ∀ temp writing, folder.writers.get temp = some writing → writing.doc ∈ folder.asked
  written : ∀ temp doc, folder.writers.get temp = some ⟨doc,true⟩ → folder.files.get temp = some (layout.render doc)
  kept : ∀ doc ∈ folder.published, (folder.files.get (layout.place doc)).isSome

theorem intact_new : (new : Folder Name Doc Byte).Intact layout where
  whole := by simp [new]
  temporary := by simp [new]
  asked := by simp [new]
  written := by simp [new]
  kept := by simp [new]

variable {layout} {self next : Folder Name Doc Byte}

/-- What a writer does under its temporary name leaves what is published alone. -/
theorem Intact.at_temporary (intact : self.Intact layout) (temp : Name) (short : layout.temporary temp = true)
    (files : ∀ name, name ≠ temp → next.files.get name = self.files.get name)
    (writers : ∀ name, name ≠ temp → next.writers.get name = self.writers.get name)
    (here : ∀ writing, next.writers.get temp = some writing →
      writing.doc ∈ next.asked ∧ (writing.whole = true → next.files.get temp = some (layout.render writing.doc)))
    (asked : ∀ doc ∈ self.asked, doc ∈ next.asked) (published : next.published = self.published) :
    next.Intact layout := by
  have elsewhere : ∀ name, layout.temporary name = false → next.files.get name = self.files.get name := by
    intro name final
    apply files
    rintro rfl
    exact absurd (short.symm.trans final) (by decide)
  constructor
  case whole =>
    intro name content found final
    rw [elsewhere name final] at found
    obtain ⟨doc,known,rest⟩ := intact.whole name content found final
    exact ⟨doc,asked doc known,rest⟩
  case temporary =>
    intro name writing held
    by_cases same : name = temp
    · exact same ▸ short
    · exact intact.temporary name writing (writers name same ▸ held)
  case asked =>
    intro name writing held
    by_cases same : name = temp
    · subst same
      exact (here writing held).1
    · exact asked _ (intact.asked name writing (writers name same ▸ held))
  case written =>
    intro name doc held
    by_cases same : name = temp
    · subst same
      exact (here ⟨doc,true⟩ held).2 rfl
    · rw [files name same]
      exact intact.written name doc (writers name same ▸ held)
  case kept =>
    intro doc done
    rw [elsewhere _ (layout.place_final doc)]
    exact intact.kept doc (published ▸ done)

/-- A writer that is left after one has gone was there before. -/
theorem remaining_writer (writers : HashMap Name (Writing Doc)) (temp name : Name) (writing : Writing Doc)
    (left : (writers.remove temp).get name = some writing) : writers.get name = some writing := by
  rw [HashMap.get_remove] at left
  split at left
  · cases left
  · exact left

theorem Intact.rename (intact : self.Intact layout) (temp : Name) (doc : Doc)
    (held : self.writers.get temp = some ⟨doc,true⟩) :
    Intact layout {self with
      files := (self.files.remove temp).insert (layout.place doc) (layout.render doc)
      writers := self.writers.remove temp
      published := doc::self.published} := by
  have short := intact.temporary temp _ held
  have apart : ∀ name, layout.temporary name = false → name ≠ temp := by
    rintro name final rfl
    exact absurd (short.symm.trans final) (by decide)
  constructor
  case whole =>
    intro name content found final
    simp only [HashMap.get_insert] at found
    split at found
    next same =>
      exact ⟨doc,intact.asked temp _ held,same.symm,Option.some.inj found⟩
    next differ =>
      rw [HashMap.get_remove_ne _ _ _ (apart name final)] at found
      exact intact.whole name content found final
  case temporary =>
    intro name writing other
    exact intact.temporary name writing (remaining_writer self.writers temp name writing other)
  case asked =>
    intro name writing other
    exact intact.asked name writing (remaining_writer self.writers temp name writing other)
  case written =>
    intro name doc' other
    simp only [HashMap.get_remove] at other
    split at other
    · cases other
    next differ =>
      have short' := intact.temporary name _ other
      have not_place : name ≠ layout.place doc := by
        rintro rfl
        exact absurd (short'.symm.trans (layout.place_final doc)) (by decide)
      rw [HashMap.get_insert_ne _ _ _ _ not_place,HashMap.get_remove_ne _ _ _ differ]
      exact intact.written name doc' other
  case kept =>
    intro doc' done
    simp only [HashMap.get_insert]
    split
    · rfl
    next differ =>
      rcases List.mem_cons.mp done with rfl | before
      · exact absurd rfl differ
      · rw [HashMap.get_remove_ne _ _ _ (apart _ (layout.place_final doc'))]
        exact intact.kept doc' before

theorem step_intact (act : Act Name Doc) (taken : step layout self act = some next) (intact : self.Intact layout) :
    next.Intact layout := by
  cases step_taken layout self act next taken with
  | create temp doc short fresh =>
    refine intact.at_temporary temp short ?_ ?_ ?_ ?_ rfl
    · exact fun name differ => HashMap.get_insert_ne _ _ _ _ differ
    · exact fun name differ => HashMap.get_insert_ne _ _ _ _ differ
    · intro writing held
      rw [HashMap.get_insert_self] at held
      cases held
      exact ⟨List.mem_cons_self,by simp⟩
    · exact fun known member => List.mem_cons_of_mem doc member
  | write temp count doc held =>
    refine intact.at_temporary temp (intact.temporary temp _ held) ?_ (fun name differ => rfl) ?_ (fun _ => id) rfl
    · exact fun name differ => HashMap.get_insert_ne _ _ _ _ differ
    · intro writing other
      cases held.symm.trans other
      exact ⟨intact.asked temp _ held,by simp⟩
  | finish temp doc held =>
    refine intact.at_temporary temp (intact.temporary temp _ held) ?_ ?_ ?_ (fun _ => id) rfl
    · exact fun name differ => HashMap.get_insert_ne _ _ _ _ differ
    · exact fun name differ => HashMap.get_insert_ne _ _ _ _ differ
    · intro writing other
      rw [HashMap.get_insert_self] at other
      cases other
      exact ⟨intact.asked temp ⟨doc,false⟩ held,fun _ => HashMap.get_insert_self _ _ _⟩
  | rename temp doc content held found =>
    cases (intact.written temp doc held).symm.trans found
    exact intact.rename temp doc held
  | abandon temp removed writing held =>
    refine intact.at_temporary temp (intact.temporary temp _ held) ?_ ?_ ?_ (fun _ => id) rfl
    · intro name differ
      cases removed
      · rfl
      · exact HashMap.get_remove_ne _ _ _ differ
    · exact fun name differ => HashMap.get_remove_ne _ _ _ differ
    · intro writing other
      rw [HashMap.get_remove_self] at other
      cases other
  | crash => exact ⟨intact.whole,by simp,by simp,by simp,intact.kept⟩

/-- A document that was published lies at its place as a whole, or one that was asked for with the same place. -/
theorem Intact.published (intact : self.Intact layout) (doc : Doc) (done : doc ∈ self.published) :
    ∃ other ∈ self.asked, layout.place other = layout.place doc ∧
      self.files.get (layout.place doc) = some (layout.render other) := by
  obtain ⟨content,found⟩ := Option.isSome_iff_exists.mp (intact.kept doc done)
  obtain ⟨other,known,same,rendered⟩ := intact.whole _ content found (layout.place_final doc)
  exact ⟨other,known,same,rendered ▸ found⟩

/-- A document that a writer is still at, or has published. -/
def Holds (self : Folder Name Doc Byte) (doc : Doc) : Prop :=
  doc ∈ self.published ∨ ∃ temp whole, self.writers.get temp = some ⟨doc,whole⟩

theorem step_asked (act : Act Name Doc) (taken : step layout self act = some next) (doc : Doc)
    (known : doc ∈ next.asked) : doc ∈ self.asked ∨ ∃ temp, act = .create temp doc := by
  cases step_taken layout self act next taken with
  | create temp asked =>
    rcases List.mem_cons.mp known with rfl | before
    · exact .inr ⟨temp,rfl⟩
    · exact .inl before
  | write => exact .inl known
  | finish => exact .inl known
  | rename => exact .inl known
  | abandon => exact .inl known
  | crash => exact .inl known

theorem step_holds (act : Act Name Doc) (taken : step layout self act = some next) (doc : Doc)
    (held : next.Holds doc) : self.Holds doc ∨ ∃ temp, act = .create temp doc := by
  cases step_taken layout self act next taken with
  | create temp asked =>
    rcases held with done | ⟨name,whole,writing⟩
    · exact .inl (.inl done)
    · rw [HashMap.get_insert] at writing
      split at writing
      · cases writing
        exact .inr ⟨temp,rfl⟩
      · exact .inl (.inr ⟨name,whole,writing⟩)
  | write => exact .inl held
  | finish temp asked writer =>
    rcases held with done | ⟨name,whole,writing⟩
    · exact .inl (.inl done)
    · rw [HashMap.get_insert] at writing
      split at writing
      · cases writing
        exact .inl (.inr ⟨temp,false,writer⟩)
      · exact .inl (.inr ⟨name,whole,writing⟩)
  | rename temp asked content writer found =>
    rcases held with done | ⟨name,whole,writing⟩
    · rcases List.mem_cons.mp done with rfl | before
      · exact .inl (.inr ⟨temp,true,writer⟩)
      · exact .inl (.inl before)
    · exact .inl (.inr ⟨name,whole,remaining_writer self.writers temp name _ writing⟩)
  | abandon temp removed writer =>
    rcases held with done | ⟨name,whole,writing⟩
    · exact .inl (.inl done)
    · exact .inl (.inr ⟨name,whole,remaining_writer self.writers temp name _ writing⟩)
  | crash =>
    rcases held with done | ⟨name,whole,writing⟩
    · exact .inl (.inl done)
    · simp at writing

end Folder
end Warpdrive.Foundation.AtomicFiles
