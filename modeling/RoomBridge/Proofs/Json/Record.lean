import Mathlib.Data.List.Basic
import Mathlib.Logic.Function.Basic
import RoomBridge.Json.Record

/-!
# The given fields of an object

The fields that an object gives are found by their names, wherever their members stand and whatever
the other members hold.

* `Record.Gives` : what an object gives under each name;
* `Record.Gives.perm`, `Record.gives_cons`, `Record.gives_cons_other` : the members in any order,
  one that is a field, one that is not;
* `Record.not_gives_doubled` : with two members for one field an object gives nothing.
-/

namespace RoomBridge.Json

theorem mapM_eq_some_iff {α β : Type} {f : α → Option β} {l : List α} {l' : List β} :
    l.mapM f = some l' ↔ (∀ a ∈ l, (f a).isSome = true) ∧ l' = l.filterMap f := by
  induction l generalizing l' with
  | nil => exact ⟨fun h => ⟨nofun, (Option.some.inj h).symm⟩, fun h => congrArg some h.2.symm⟩
  | cons a l ih =>
    rw [List.mapM_cons, List.forall_mem_cons]
    cases ha : f a with
    | none => simp
    | some b =>
      simp only [Option.bind_eq_bind, Option.bind_some, Option.bind_eq_some_iff, ih,
        Option.pure_def, Option.some.injEq, Option.isSome_some, true_and,
        List.filterMap_cons_some ha]
      constructor
      · rintro ⟨_, ⟨hall, rfl⟩, rfl⟩
        exact ⟨hall, rfl⟩
      · rintro ⟨hall, rfl⟩
        exact ⟨_, ⟨hall, rfl⟩, rfl⟩

theorem lookup_eq_some_iff_mem {α : Type} {l : List (String × α)} {key : String} {a : α}
    (h : (l.map Prod.fst).Nodup) : l.lookup key = some a ↔ (key, a) ∈ l := by
  induction l with
  | nil => simp
  | cons p l ih =>
    obtain ⟨name, b⟩ := p
    obtain ⟨hfresh, hnodup⟩ := List.nodup_cons.mp h
    rw [List.lookup_cons, List.mem_cons, Prod.mk.injEq]
    cases hkey : key == name with
    | true =>
      obtain rfl : key = name := eq_of_beq hkey
      have hmem : (key, a) ∉ l := fun hmem => hfresh (List.mem_map.mpr ⟨_, hmem, rfl⟩)
      simp [hmem, eq_comm]
    | false => simp [ne_of_beq_false hkey, ih hnodup]

theorem lookup_perm {α : Type} {l l' : List (String × α)} (hperm : l.Perm l')
    (h : (l.map Prod.fst).Nodup) (key : String) : l'.lookup key = l.lookup key := by
  have h' : (l'.map Prod.fst).Nodup := (hperm.map Prod.fst).nodup_iff.mp h
  ext a
  rw [lookup_eq_some_iff_mem h, lookup_eq_some_iff_mem h', hperm.mem_iff]

namespace Record

variable {names : List String} {members members' : List (Bytes × Tree)}
  {given given' : List (String × Tree)} {look : String → Option Tree} {written : Bytes}
  {name : String} {t : Tree}

/-- A member with its name as a text. -/
def named? (m : Bytes × Tree) : Option (String × Tree) := (text? m.1).map fun name => (name, m.2)

/-- The fields among some members. -/
def fieldsOf (names : List String) (members : List (Bytes × Tree)) : List (String × Tree) :=
  (members.filterMap named?).filter fun (name, _) => names.contains name

theorem ofMembers?_eq_some_iff :
    ofMembers? names members = some given ↔ (∀ m ∈ members, (named? m).isSome = true) ∧
      ((fieldsOf names members).map Prod.fst).Nodup ∧ given = fieldsOf names members := by
  have hnamed : ∀ named, members.mapM (fun m => (text? m.1).map fun name => (name, m.2)) =
      some named ↔ (∀ m ∈ members, (named? m).isSome = true) ∧ named = members.filterMap named? :=
    fun named => mapM_eq_some_iff
  simp only [ofMembers?, Option.bind_eq_some_iff, hnamed, Option.ite_none_right_eq_some,
    Option.some.injEq]
  constructor
  · rintro ⟨_, ⟨hall, rfl⟩, hnodup, rfl⟩
    exact ⟨hall, hnodup, rfl⟩
  · rintro ⟨hall, hnodup, rfl⟩
    exact ⟨_, ⟨hall, rfl⟩, hnodup, rfl⟩

theorem fieldsOf_cons (hname : text? written = some name) (hmem : name ∈ names) :
    fieldsOf names ((written, t) :: members) = (name, t) :: fieldsOf names members := by
  simp [fieldsOf, named?, hname, hmem]

theorem fieldsOf_cons_other (hname : text? written = some name) (hmem : name ∉ names) :
    fieldsOf names ((written, t) :: members) = fieldsOf names members := by
  simp [fieldsOf, named?, hname, hmem]

theorem fieldsOf_perm (hperm : members.Perm members') :
    (fieldsOf names members).Perm (fieldsOf names members') :=
  (hperm.filterMap _).filter _

/-- What an object gives under each name of a field. -/
def Gives (names : List String) (members : List (Bytes × Tree)) (look : String → Option Tree) :
    Prop :=
  ∃ given, ofMembers? names members = some given ∧ look = (given.lookup ·)

theorem Gives.perm (h : Gives names members look) (hperm : members.Perm members') :
    Gives names members' look := by
  obtain ⟨_, hgiven, rfl⟩ := h
  obtain ⟨hall, hnodup, rfl⟩ := ofMembers?_eq_some_iff.mp hgiven
  have hfields : (fieldsOf names members).Perm (fieldsOf names members') := fieldsOf_perm hperm
  have hall' : ∀ m ∈ members', (named? m).isSome = true := fun m hm =>
    hall m (hperm.mem_iff.mpr hm)
  have hnodup' := (hfields.map Prod.fst).nodup_iff.mp hnodup
  refine ⟨_, ofMembers?_eq_some_iff.mpr ⟨hall', hnodup', rfl⟩, ?_⟩
  funext key
  exact (lookup_perm hfields hnodup key).symm

theorem gives_cons_other (hname : text? written = some name) (hmem : name ∉ names) :
    Gives names ((written, t) :: members) look ↔ Gives names members look := by
  have hnamed : (named? (written, t)).isSome = true := by simp [named?, hname]
  simp only [Gives, ofMembers?_eq_some_iff, fieldsOf_cons_other hname hmem, List.forall_mem_cons,
    hnamed, true_and]

theorem gives_cons (hname : text? written = some name) (hmem : name ∈ names) :
    Gives names ((written, t) :: members) look ↔
      ∃ rest, Gives names members rest ∧ rest name = none ∧
        look = Function.update rest name (some t) := by
  have hnamed : (named? (written, t)).isSome = true := by simp [named?, hname]
  simp only [Gives, ofMembers?_eq_some_iff, fieldsOf_cons hname hmem, List.forall_mem_cons,
    hnamed, true_and, List.map_cons, List.nodup_cons]
  have hnone : (fieldsOf names members).lookup name = none ↔
      name ∉ (fieldsOf names members).map Prod.fst := by
    simp only [List.lookup_eq_none_iff, bne_iff_ne, List.mem_map, not_exists, not_and]
    exact forall_congr' fun p => forall_congr' fun _ => ne_comm
  have hlookup : (fun key => ((name, t) :: fieldsOf names members).lookup key) =
      Function.update ((fieldsOf names members).lookup ·) name (some t) := by
    funext key
    rw [List.lookup_cons, Function.update_apply]
    cases hkey : key == name with
    | true => simp [eq_of_beq hkey]
    | false => simp [ne_of_beq_false hkey]
  constructor
  · rintro ⟨_, ⟨hall, ⟨hfresh, hnodup⟩, rfl⟩, rfl⟩
    exact ⟨_, ⟨_, ⟨hall, hnodup, rfl⟩, rfl⟩, hnone.mpr hfresh, hlookup⟩
  · rintro ⟨_, ⟨_, ⟨hall, hnodup, rfl⟩, rfl⟩, hfresh, rfl⟩
    exact ⟨_, ⟨hall, ⟨hnone.mp hfresh, hnodup⟩, rfl⟩, hlookup.symm⟩

theorem not_gives_doubled {before between after : List (Bytes × Tree)} {again : Bytes} {t' : Tree}
    (hname : text? written = some name) (hagain : text? again = some name) (hmem : name ∈ names) :
    ¬ Gives names (before ++ (written, t) :: (between ++ (again, t') :: after)) look := by
  intro hgives
  -- The two members are brought to the front.
  have hperm : (before ++ (written, t) :: (between ++ (again, t') :: after)).Perm
      ((written, t) :: (again, t') :: (before ++ (between ++ after))) := by
    refine List.perm_middle.trans (.cons _ ?_)
    refine (List.Perm.append_left before List.perm_middle).trans List.perm_middle
  obtain ⟨rest, hrest, hfresh, -⟩ := (gives_cons hname hmem).mp (hgives.perm hperm)
  obtain ⟨_, -, -, rfl⟩ := (gives_cons hagain hmem).mp hrest
  rw [Function.update_self] at hfresh
  cases hfresh

end Record

end RoomBridge.Json
