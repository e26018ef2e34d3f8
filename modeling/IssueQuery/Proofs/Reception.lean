import IssueQuery.Proofs.Ascending
import IssueQuery.Proofs.Spelling

namespace IssueQuery.Json

/-! What reading yields.

Whatever a text says, the whole numbers read from it fit into 64 bits, and a value of free
form comes in its sorted form.
-/

section Parts

variable {property : Number → Prop}

@[simp] theorem eachNumber_null : EachNumber property .null := .null

@[simp] theorem eachNumber_bool (value : Bool) : EachNumber property (.bool value) := .bool value

@[simp] theorem eachNumber_string (value : String) : EachNumber property (.string value) :=
  .string value

@[simp] theorem eachNumber_number_iff (value : Number) :
    EachNumber property (.number value) ↔ property value := by
  refine ⟨fun each => ?_, .number⟩
  cases each
  assumption

@[simp] theorem eachNumber_array_iff (items : List Json) :
    EachNumber property (.array items) ↔ ∀ item ∈ items, item.EachNumber property := by
  refine ⟨fun each => ?_, .array⟩
  cases each
  assumption

@[simp] theorem eachNumber_object_iff (members : List (String × Json)) :
    EachNumber property (.object members) ↔ ∀ member ∈ members, member.2.EachNumber property := by
  refine ⟨fun each => ?_, .object⟩
  cases each
  assumption

theorem eachNumber_ofOption {α : Type} {encode : α → Json} {value : Option α}
    (each : ∀ content, value = some content → (encode content).EachNumber property) :
    (ofOption encode value).EachNumber property := by
  cases value with
  | none => exact .null
  | some content => exact each content rfl

end Parts

def Number.Bounded : Number → Prop
  | .int value => -Int.pow 2 63 ≤ value ∧ value < Int.pow 2 64
  | .float _ => True

def Number.IsWhole : Number → Prop
  | .int _ => True
  | .float _ => False

theorem EachNumber.fits {value : Json} (bounded : value.EachNumber Number.Bounded)
    (whole : value.EachNumber Number.IsWhole) : value.EachNumber Number.Fits := by
  induction bounded with
  | null => exact .null
  | bool value => exact .bool value
  | @number value bounded =>
      cases whole with
      | number whole =>
          cases value with
          | int value => exact .number bounded
          | float value => exact whole.elim
  | string value => exact .string value
  | array _ ih =>
      cases whole with
      | array each => exact .array fun item member => ih item member (each item member)
  | object _ ih =>
      cases whole with
      | object each => exact .object fun member listed => ih member listed (each member listed)

namespace Source

/-- Whether each readable number in a tree has a property. -/
inductive EachNumber (property : Number → Prop) : Source → Prop
  | null : EachNumber property .null
  | bool (value : Bool) : EachNumber property (.bool value)
  | number {value : Number} (holds : property value) : EachNumber property (.number value)
  | string (value : String) : EachNumber property (.string value)
  | array {items : List Source} (each : ∀ item ∈ items, EachNumber property item) :
      EachNumber property (.array items)
  | object {members : List (Option String × Source)}
      (each : ∀ member ∈ members, EachNumber property member.2) :
      EachNumber property (.object members)
  | unreadable : EachNumber property .unreadable

theorem NumberLiteral.bounded_of_value? {literal : NumberLiteral} {number : Number}
    (given : literal.value? = some number) : number.Bounded := by
  unfold NumberLiteral.value? at given
  split at given
  · simp only at given
    split at given
    · rename_i small
      cases given
      have below := small.2
      rw [Text.natPow_two_64] at below
      rw [Number.Bounded, Text.intPow_two_63, Text.intPow_two_64]
      omega
    · split at given
      · rename_i small
        cases given
        have below := small.2.2
        rw [Text.natPow_two_63] at below
        rw [Number.Bounded, Text.intPow_two_63, Text.intPow_two_64]
        omega
      · obtain ⟨_, _, rfl⟩ := Option.map_eq_some_iff.mp given
        trivial
  · obtain ⟨_, _, rfl⟩ := Option.map_eq_some_iff.mp given
    trivial

def BoundsValues (fuel : Nat) : Prop :=
  ∀ {room : Nat} {characters rest : List Char} {value : Source},
    readValue? fuel room characters = some (value, rest) → value.EachNumber Number.Bounded

def BoundsItems (fuel : Nat) : Prop :=
  ∀ {room : Nat} {characters rest : List Char} {items : List Source},
    readItems? fuel room characters = some (items, rest) →
      ∀ item ∈ items, item.EachNumber Number.Bounded

def BoundsMembers (fuel : Nat) : Prop :=
  ∀ {room : Nat} {characters rest : List Char} {members : List (Option String × Source)},
    readMembers? fuel room characters = some (members, rest) →
      ∀ member ∈ members, member.2.EachNumber Number.Bounded

theorem boundsValues_succ {fuel : Nat} (items : BoundsItems fuel)
    (members : BoundsMembers fuel) : BoundsValues (fuel + 1) := by
  intro room characters rest value read
  rw [readValue?] at read
  split at read
  · obtain ⟨⟨text, remaining⟩, -, same⟩ := Option.map_eq_some_iff.mp read
    cases same
    cases text with
    | none => exact .unreadable
    | some text => exact .string text
  · split at read
    · cases read
      split
      · exact .unreadable
      · exact .array (by simp)
    · obtain ⟨⟨found, remaining⟩, readItems, same⟩ := Option.map_eq_some_iff.mp read
      cases same
      split
      · exact .unreadable
      · exact .array (items readItems)
  · split at read
    · cases read
      split
      · exact .unreadable
      · exact .object (by simp)
    · obtain ⟨⟨found, remaining⟩, readMembers, same⟩ := Option.map_eq_some_iff.mp read
      cases same
      split
      · exact .unreadable
      · exact .object (members readMembers)
  · obtain ⟨_, -, same⟩ := Option.map_eq_some_iff.mp read
    cases same
    exact .null
  · obtain ⟨_, -, same⟩ := Option.map_eq_some_iff.mp read
    cases same
    exact .bool true
  · obtain ⟨_, -, same⟩ := Option.map_eq_some_iff.mp read
    cases same
    exact .bool false
  · obtain ⟨⟨literal, remaining⟩, -, same⟩ := Option.map_eq_some_iff.mp read
    cases same
    cases given : literal.value? with
    | none => exact .unreadable
    | some number => exact .number (NumberLiteral.bounded_of_value? given)

theorem boundsItems_succ {fuel : Nat} (values : BoundsValues fuel) (items : BoundsItems fuel) :
    BoundsItems (fuel + 1) := by
  intro room characters rest found read
  rw [readItems?] at read
  split at read
  · cases read
  · rename_i first afterItem readFirst
    have firstBounded := values readFirst
    split at read
    · cases read
      exact fun item member => List.mem_singleton.mp member ▸ firstBounded
    · obtain ⟨⟨others, remaining⟩, readOthers, same⟩ := Option.map_eq_some_iff.mp read
      cases same
      exact List.forall_mem_cons.mpr ⟨firstBounded, items readOthers⟩
    · cases read

theorem boundsMembers_succ {fuel : Nat} (values : BoundsValues fuel)
    (members : BoundsMembers fuel) : BoundsMembers (fuel + 1) := by
  intro room characters rest found read
  rw [readMembers?] at read
  split at read
  · split at read
    · cases read
    · split at read
      · split at read
        · cases read
        · rename_i readFirst
          have first := values readFirst
          split at read
          · cases read
            exact fun member listed => List.mem_singleton.mp listed ▸ first
          · obtain ⟨⟨others, remaining⟩, readOthers, same⟩ := Option.map_eq_some_iff.mp read
            cases same
            exact List.forall_mem_cons.mpr ⟨first, members readOthers⟩
          · cases read
      · cases read
  · cases read

theorem bounds (fuel : Nat) : BoundsValues fuel ∧ BoundsItems fuel ∧ BoundsMembers fuel := by
  induction fuel with
  | zero => exact ⟨nofun, nofun, nofun⟩
  | succ fuel ih =>
      obtain ⟨values, items, members⟩ := ih
      exact ⟨boundsValues_succ items members, boundsItems_succ values items,
        boundsMembers_succ values members⟩

theorem bounded_of_ofText? {text : String} {source : Source}
    (read : ofText? text = some source) : source.EachNumber Number.Bounded := by
  simp only [ofText?] at read
  split at read
  · rename_i readValue
    split at read
    · cases read
      exact (bounds _).1 readValue
    · cases read
  · cases read

section FreeForm

variable {property : Number → Prop}

mutual

theorem eachNumber_of_toJson? : {source : Source} → {value : Json} →
    source.EachNumber property → source.toJson? = some value → value.EachNumber property
  | .null, _, _, rfl => .null
  | .bool _, _, _, rfl => .bool _
  | .number _, _, .number holds, rfl => .number holds
  | .string _, _, _, rfl => .string _
  | .array items, value, .array each, given => by
      obtain ⟨values, read, rfl⟩ := Option.map_eq_some_iff.mp given
      exact .array (eachNumber_of_itemsToJson? each read)
  | .object members, value, .object each, given => by
      obtain ⟨values, read, rfl⟩ := Option.map_eq_some_iff.mp given
      refine .object fun member listed => ?_
      exact eachNumber_of_membersToJson? each read member (mem_of_mem_sortMembers listed)

theorem eachNumber_of_itemsToJson? : {items : List Source} → {values : List Json} →
    (∀ item ∈ items, item.EachNumber property) → itemsToJson? items = some values →
      ∀ value ∈ values, value.EachNumber property
  | [], _, _, rfl => nofun
  | item :: rest, values, each, given => by
      obtain ⟨first, others⟩ := List.forall_mem_cons.mp each
      rw [itemsToJson?] at given
      split at given
      · rename_i readFirst readOthers
        cases given
        exact List.forall_mem_cons.mpr ⟨eachNumber_of_toJson? first readFirst,
          eachNumber_of_itemsToJson? others readOthers⟩
      · cases given

theorem eachNumber_of_membersToJson? : {members : List (Option String × Source)} →
    {values : List (String × Json)} → (∀ member ∈ members, member.2.EachNumber property) →
      membersToJson? members = some values → ∀ value ∈ values, value.2.EachNumber property
  | [], _, _, rfl => nofun
  | (some name, member) :: rest, values, each, given => by
      obtain ⟨first, others⟩ := List.forall_mem_cons.mp each
      rw [membersToJson?] at given
      split at given
      · rename_i readFirst readOthers
        cases given
        exact List.forall_mem_cons.mpr ⟨eachNumber_of_toJson? first readFirst,
          eachNumber_of_membersToJson? others readOthers⟩
      · cases given

end

end FreeForm

mutual

/-- What a tree stands for is in sorted form. -/
theorem sorted_of_toJson? : {source : Source} → {value : Json} →
    source.toJson? = some value → value.sorted = value
  | .null, _, rfl => rfl
  | .bool _, _, rfl => rfl
  | .number _, _, rfl => rfl
  | .string _, _, rfl => rfl
  | .array items, value, given => by
      obtain ⟨values, read, rfl⟩ := Option.map_eq_some_iff.mp given
      rw [sorted, sortedItems_of_itemsToJson? read]
  | .object members, value, given => by
      obtain ⟨values, read, rfl⟩ := Option.map_eq_some_iff.mp given
      rw [sorted, sortedMembers_eq_map, ← sortMembers_map, ← sortedMembers_eq_map,
        sortedMembers_of_membersToJson? read,
        sortMembers_of_ascending (ascending_sortMembers values)]

theorem sortedItems_of_itemsToJson? : {items : List Source} → {values : List Json} →
    itemsToJson? items = some values → sortedItems values = values
  | [], _, rfl => rfl
  | item :: rest, values, given => by
      rw [itemsToJson?] at given
      split at given
      · rename_i readFirst readOthers
        cases given
        rw [sortedItems, sorted_of_toJson? readFirst, sortedItems_of_itemsToJson? readOthers]
      · cases given

theorem sortedMembers_of_membersToJson? : {members : List (Option String × Source)} →
    {values : List (String × Json)} → membersToJson? members = some values →
      sortedMembers values = values
  | [], _, rfl => rfl
  | (some name, member) :: rest, values, given => by
      rw [membersToJson?] at given
      split at given
      · rename_i readFirst readOthers
        cases given
        rw [sortedMembers, sorted_of_toJson? readFirst, sortedMembers_of_membersToJson? readOthers]
      · cases given

end

theorem eq_null_of_toJson? {source : Source} (given : source.toJson? = some .null) :
    source = .null := by
  cases source with
  | null => rfl
  | array items =>
      obtain ⟨_, -, same⟩ := Option.map_eq_some_iff.mp given
      cases same
  | object members =>
      obtain ⟨_, -, same⟩ := Option.map_eq_some_iff.mp given
      cases same
  | _ => cases given

end Source

end IssueQuery.Json
