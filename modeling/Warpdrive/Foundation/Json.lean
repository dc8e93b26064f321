import Mathlib.Data.List.Basic

/-! JSON values and the shapes that derived serializers give to records, enumerations and maps. An untagged
enumeration is read by the first of its alternatives that takes the value, so what an earlier one takes no
later one is given. -/
namespace Warpdrive.Foundation

universe u v w

inductive Json
  | null
  | bool (value : Bool)
  | integer (value : Int)
  | float (digits : String)
  | string (text : String)
  | array (items : List Json)
  | object (members : List (String × Json))

namespace Json

/-- The values that a record gives under a name. -/
def fields (self : Json) (name : String) : List Json :=
  match self with
  | .object members => (members.filter (fun member => member.1 = name)).map Prod.snd
  | _ => []

/-- A field of a record, which has to name it once. -/
def field {A : Type u} (read : Json → Option A) (name : String) (self : Json) : Option A :=
  match self.fields name with
  | [value] => read value
  | _ => none

/-- A field with a default for where it is missing. -/
def defaultField {A : Type u} (read : Json → Option A) (name : String) (default : A) (self : Json) : Option A :=
  match self.fields name with
  | [] => some default
  | [value] => read value
  | _ => none

/-- A variant without data. -/
def unit {A : Type u} (value : A) (name : String) (self : Json) : Option A :=
  match self with
  | .string text => if text = name then some value else none
  | _ => none

/-- The data of an externally tagged variant. -/
def variant {A : Type u} (read : Json → Option A) (name : String) (self : Json) : Option A :=
  match self with
  | .object [(tag,body)] => if tag = name then read body else none
  | _ => none

/-- What the first alternative reads that takes the value: of an untagged enumeration, or of the variants of a
tagged one. -/
def firstOf {A : Type u} (alternatives : List (Json → Option A)) (self : Json) : Option A :=
  alternatives.findSome? (fun read => read self)

@[simp] theorem firstOf_nil {A : Type u} (self : Json) : firstOf ([] : List (Json → Option A)) self = none := rfl

@[simp] theorem firstOf_cons {A : Type u} (read : Json → Option A) (rest : List (Json → Option A)) (self : Json) :
    firstOf (read::rest) self = (read self).or (firstOf rest self) := by
  unfold firstOf
  rw [List.findSome?_cons]
  cases read self <;> rfl

/-- The members of a map with their keys, one after the other. -/
def members {K : Type u} {V : Type v} (readKey : String → Option K) (readValue : Json → Option V) :
    List (String × Json) → Option (List (K × V))
  | [] => some []
  | (name,value)::rest =>
    (readKey name).bind (fun key => (readValue value).bind (fun value =>
      (members readKey readValue rest).map (fun rest => (key,value)::rest)))

/-- `json` is an object with a member more. -/
def extend (self : Json) (name : String) (value : Json) : Json :=
  match self with
  | .object members => .object (members ++ [(name,value)])
  | other => other

theorem field_eq_some {A : Type u} (read : Json → Option A) (name : String) (self : Json) (value : A) :
    self.field read name = some value ↔ ∃ json, self.fields name = [json] ∧ read json = some value := by
  unfold field
  split
  next json only => simp [only]
  next others =>
    constructor
    · intro none
      cases none
    · rintro ⟨json,only,_⟩
      exact absurd only (others json)

theorem variant_object {A : Type u} (read : Json → Option A) (name tag : String) (body : Json) :
    (object [(tag,body)]).variant read name = if tag = name then read body else none := rfl

theorem variant_string {A : Type u} (read : Json → Option A) (name text : String) :
    (string text).variant read name = none := rfl

theorem variant_eq_some {A : Type u} (read : Json → Option A) (name : String) (self : Json) (value : A) :
    self.variant read name = some value ↔ ∃ body, self = .object [(name,body)] ∧ read body = some value := by
  unfold variant
  split
  next tag body =>
    by_cases same : tag = name <;> simp [same]
  next others =>
    constructor
    · intro none
      cases none
    · rintro ⟨body,only,_⟩
      exact absurd only (others name body)

section members

variable {K : Type u} {V : Type v} {W : Type w} {readKey : String → Option K} {readValue : Json → Option V}

theorem members_map (keyText : K → String) (writeValue : W → Json) (back : W → V) (entries : List (K × W))
    (keys : ∀ entry ∈ entries, readKey (keyText entry.1) = some entry.1)
    (values : ∀ entry ∈ entries, readValue (writeValue entry.2) = some (back entry.2)) :
    members readKey readValue (entries.map (fun entry => (keyText entry.1,writeValue entry.2))) =
      some (entries.map (fun entry => (entry.1,back entry.2))) := by
  induction entries with
  | nil => rfl
  | cons entry entries ih =>
    obtain ⟨key,laterKeys⟩ := List.forall_mem_cons.mp keys
    obtain ⟨value,laterValues⟩ := List.forall_mem_cons.mp values
    have rest := ih laterKeys laterValues
    simp [members,key,value,rest]

theorem members_read (items : List (String × Json)) (pairs : List (K × V))
    (taken : members readKey readValue items = some pairs) :
    ∀ pair ∈ pairs, ∃ json, readValue json = some pair.2 := by
  induction items generalizing pairs with
  | nil =>
    cases taken
    simp
  | cons item items ih =>
    simp only [members,Option.bind_eq_some_iff,Option.map_eq_some_iff] at taken
    obtain ⟨key,_,value,found,rest,later,rfl⟩ := taken
    intro pair member
    rcases List.mem_cons.mp member with rfl | member
    · exact ⟨item.2,found⟩
    · exact ih rest later pair member

end members
end Json

/-- A type whose values come back from what is written for them. -/
structure Codec (A : Type u) where
  write : A → Json
  read : Json → Option A
  read_write : ∀ value, read (write value) = some value

namespace Codec

variable {A : Type u}

/-- Values that are written as strings. -/
def ofText (text : A → String) (parse : String → Option A) (parse_text : ∀ value, parse (text value) = some value) :
    Codec A where
  write value := .string (text value)
  read
    | .string text => parse text
    | _ => none
  read_write := parse_text

def text : Codec String := ofText id some (fun _ => rfl)

def bool : Codec Bool where
  write := .bool
  read
    | .bool value => some value
    | _ => none
  read_write _ := rfl

/-- Natural numbers below a bound. -/
def below (bound : Nat) : Codec {n : Nat // n < bound} where
  write n := .integer n.1
  read
    | .integer value => if within : 0 ≤ value ∧ value.toNat < bound then some ⟨value.toNat,within.2⟩ else none
    | _ => none
  read_write n := by
    simp [n.2]

/-- The values of a codec that satisfy a condition. -/
def subtype (codec : Codec A) (p : A → Prop) [DecidablePred p] : Codec {value : A // p value} where
  write value := codec.write value.1
  read json := (codec.read json).bind (fun value => if holds : p value then some ⟨value,holds⟩ else none)
  read_write value := by
    simp [codec.read_write,value.2]

/-- A codec for a type whose values correspond to those of another. -/
def equiv {B : Type v} (codec : Codec A) (forth : B → A) (back : A → B) (back_forth : ∀ value, back (forth value) = value) :
    Codec B where
  write value := codec.write (forth value)
  read json := (codec.read json).map back
  read_write value := by
    simp [codec.read_write,back_forth]

def readAll (read : Json → Option A) : List Json → Option (List A)
  | [] => some []
  | json::rest => (read json).bind (fun value => (readAll read rest).map (fun values => value::values))

def list (codec : Codec A) : Codec (List A) where
  write values := .array (values.map codec.write)
  read
    | .array items => readAll codec.read items
    | _ => none
  read_write values := by
    induction values with
    | nil => rfl
    | cons value values ih =>
      simp only [List.map_cons,readAll,codec.read_write,Option.bind_some]
      simp only at ih
      rw [ih,Option.map_some]

/-- An optional value, which is null where it is missing. -/
def option (codec : Codec A) (present : ∀ value, codec.write value ≠ .null) : Codec (Option A) where
  write
    | none => .null
    | some value => codec.write value
  read
    | .null => some none
    | json => (codec.read json).map some
  read_write value := by
    cases value with
    | none => rfl
    | some value =>
      simp only
      split
      next null => exact absurd null (present value)
      next => rw [codec.read_write,Option.map_some]

end Codec
end Warpdrive.Foundation
