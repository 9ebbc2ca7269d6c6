import RoomBridge.Json.Number

/-!
# JSON values

Values have no duplicate members: `Value.ofMembers` keeps the members of an object in the order of
their names, and of two members with one name the later.
-/

namespace RoomBridge.Json

inductive Value
  | null
  | bool (value : Bool)
  | number (value : Number)
  | string (value : String)
  | array (items : List Value)
  | object (members : List (String × Value))
  deriving Repr

namespace Value

/-- Puts a member where its name belongs, in the place of one of the same name. -/
def insertMember (name : String) (value : Value) :
    List (String × Value) → List (String × Value)
  | [] => [(name, value)]
  | (k, v) :: rest =>
    if name < k then (name, value) :: (k, v) :: rest
    else if name = k then (name, value) :: rest
    else (k, v) :: insertMember name value rest

/-- The object with some members, the later of two with one name. -/
def ofMembers (members : List (String × Value)) : Value :=
  object (members.foldl (fun sorted (k, v) => insertMember k v sorted) [])

/-- A member of an object. -/
def member? (value : Value) (name : String) : Option Value :=
  match value with
  | object members => members.lookup name
  | _ => none

theorem lookup_member_cons (key name : String) (value : Value) (members : List (String × Value)) :
    ((name, value) :: members).lookup key =
      if key = name then some value else members.lookup key := by
  by_cases h : key = name
  · simp [h]
  · simp [List.lookup_cons, h, beq_false_of_ne h]

/-- A member that was put in is found by its name, and the others as before. -/
theorem lookup_insertMember (key name : String) (value : Value) (members : List (String × Value)) :
    (insertMember name value members).lookup key =
      if key = name then some value else members.lookup key := by
  induction members with
  | nil => exact lookup_member_cons key name value []
  | cons p members ih =>
    obtain ⟨k, v⟩ := p
    unfold insertMember
    split
    · exact lookup_member_cons key name value _
    · split
      · rename_i hsame
        rw [lookup_member_cons, lookup_member_cons, hsame]
        split <;> rfl
      · rename_i hother
        rw [lookup_member_cons, lookup_member_cons, ih]
        by_cases hkey : key = k
        · have hne : key ≠ name := fun h => hother (h.symm.trans hkey)
          rw [if_pos hkey, if_neg hne, if_pos hkey]
        · rw [if_neg hkey, if_neg hkey]

/-- The last member with a name is found by it. -/
theorem member?_ofMembers {name : String} {value : Value} (before : List (String × Value))
    {after : List (String × Value)} (h : ∀ p ∈ after, p.1 ≠ name) :
    (ofMembers (before ++ (name, value) :: after)).member? name = some value := by
  have hafter : ∀ sorted : List (String × Value), sorted.lookup name = some value →
      (after.foldl (fun sorted (k, v) => insertMember k v sorted) sorted).lookup name =
        some value := by
    induction after with
    | nil => exact fun sorted hsorted => hsorted
    | cons p after ih =>
      rw [List.forall_mem_cons] at h
      intro sorted hsorted
      refine ih h.2 _ ?_
      rw [lookup_insertMember, if_neg h.1.symm, hsorted]
  unfold ofMembers member?
  rw [List.foldl_append, List.foldl_cons]
  refine hafter _ ?_
  rw [lookup_insertMember, if_pos rfl]

end Value

end RoomBridge.Json
