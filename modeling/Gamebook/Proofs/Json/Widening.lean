import Gamebook.Json.Reading

/-!
# Values with more in them

A program that writes reports may come to know more than the one that reads them, and then the
objects of a report have members that the reader has never heard of.  `Widened` says that one value
is another with such members added, in any of its objects and at any depth.

## Which names are new

Whether a name is known to a reader is a matter of the object that it stands in: `groups` is a field
of a loop and none of a report.  But a value that was written as a whole has in each object every
field that is asked for there.  So a member can only be new under a name that the object does not
have, and that is what `Widened` asks for, without knowing the reader.

## What a reader has to do

`Reads read value result` says that a reader takes a value, and everything that widens it, for the
same thing.  It goes from the parts of a value to the whole: an array is read through its items
(`Reads.array`), and an object through its fields (`fields?_of_widened`), because a member that was
added is not looked up under the name of a field.
-/

namespace Gamebook.Json.Value

mutual

/-- A value and one with further members in some of its objects. -/
inductive Widened : Value → Value → Prop where
  /-- Nothing is added. -/
  | refl (value : Value) : Widened value value
  /-- Something is added in the items of an array. -/
  | array {items wider : List Value} : WidenedItems items wider →
    Widened (.array items) (.array wider)
  /-- Something is added to the members of an object or in them. -/
  | object {members wider : List (String × Value)} :
    WidenedMembers (members.map (·.1)) members wider → Widened (.object members) (.object wider)

/-- Items and as many that widen them. -/
inductive WidenedItems : List Value → List Value → Prop where
  | nil : WidenedItems [] []
  | cons {item wider : Value} {items more : List Value} :
    Widened item wider → WidenedItems items more → WidenedItems (item :: items) (wider :: more)

/-- Members, and members that widen them with further ones among them under names that are none of
those given. -/
inductive WidenedMembers :
    (names : List String) → List (String × Value) → List (String × Value) → Prop where
  | nil {names : List String} : WidenedMembers names [] []
  /-- A member stays under its name. -/
  | keep {names : List String} {name : String} {value wider : Value}
      {members more : List (String × Value)} : Widened value wider →
    WidenedMembers names members more →
    WidenedMembers names ((name, value) :: members) ((name, wider) :: more)
  /-- A member is added under a new name. -/
  | add {names : List String} {name : String} (value : Value) {members more : List (String × Value)} :
    name ∉ names → WidenedMembers names members more →
    WidenedMembers names members ((name, value) :: more)

end

/-! ### What widens an array or an object -/

theorem widenedItems_refl : ∀ items : List Value, WidenedItems items items
  | [] => .nil
  | item :: items => .cons (.refl item) (widenedItems_refl items)

theorem widenedMembers_refl (names : List String) :
    ∀ members : List (String × Value), WidenedMembers names members members
  | [] => .nil
  | (_, value) :: members => .keep (.refl value) (widenedMembers_refl names members)

theorem exists_of_array_widened {items : List Value} {wide : Value}
    (widened : (Value.array items).Widened wide) :
    ∃ wider, wide = .array wider ∧ WidenedItems items wider := by
  cases widened with
  | refl => exact ⟨items, rfl, widenedItems_refl items⟩
  | array inner => exact ⟨_, rfl, inner⟩

theorem exists_of_object_widened {members : List (String × Value)} {wide : Value}
    (widened : (Value.object members).Widened wide) :
    ∃ wider, wide = .object wider ∧ WidenedMembers (members.map (·.1)) members wider := by
  cases widened with
  | refl => exact ⟨members, rfl, widenedMembers_refl _ members⟩
  | object inner => exact ⟨_, rfl, inner⟩

/-! ### Looking up members -/

/-- The last member of a name counts. -/
theorem member?_cons (name : String) (member : String × Value) (members : List (String × Value)) :
    member? name (member :: members) =
      (member? name members).or (if member.1 = name then some member.2 else none) := by
  rw [member?, List.reverse_cons, List.find?_append, Option.map_or]
  by_cases same : member.1 = name
  · simp [member?, same]
  · simp [member?, same]

theorem rel_or {a b c d : Option Value} (first : Option.Rel Widened a b)
    (second : Option.Rel Widened c d) : Option.Rel Widened (a.or c) (b.or d) := by
  cases first with
  | some widened => exact .some widened
  | none => exact second

/-- **Under a name that was there before, a member is found exactly if it was**, and it widens the
one that was found. -/
theorem rel_member? {names : List String} {name : String} (old : name ∈ names) :
    ∀ {members wider : List (String × Value)}, WidenedMembers names members wider →
      Option.Rel Widened (member? name members) (member? name wider)
  | _, _, .nil => .none
  | _, _, @WidenedMembers.keep _ first _ _ _ _ here below => by
    rw [member?_cons, member?_cons]
    refine rel_or (rel_member? old below) ?_
    by_cases same : first = name
    · rw [if_pos same, if_pos same]
      exact .some here
    · rw [if_neg same, if_neg same]
      exact .none
  | _, _, @WidenedMembers.add _ first value _ more new below => by
    have other : first ≠ name := fun same => new (same ▸ old)
    rw [member?_cons name (first, value) more, if_neg other, Option.or_none]
    exact rel_member? old below

theorem mem_names_of_member?_eq_some {members : List (String × Value)} {name : String} {value : Value}
    (found : member? name members = some value) : name ∈ members.map (·.1) := by
  obtain ⟨member, first, -⟩ := Option.map_eq_some_iff.1 found
  have same : member.1 = name := by simpa using List.find?_some first
  exact List.mem_map.2 ⟨member, List.mem_reverse.1 (List.mem_of_find?_eq_some first), same⟩

/-- **A field is found among more members**, perhaps widened. -/
theorem exists_member?_of_widened {members wider : List (String × Value)}
    (widened : WidenedMembers (members.map (·.1)) members wider) {name : String} {value : Value}
    (found : member? name members = some value) :
    ∃ wide, member? name wider = some wide ∧ value.Widened wide := by
  have related := rel_member? (mem_names_of_member?_eq_some found) widened
  rw [found] at related
  cases h : member? name wider with
  | none =>
    rw [h] at related
    cases related
  | some wide =>
    rw [h] at related
    cases related with
    | some inner => exact ⟨wide, rfl, inner⟩

/-- **All fields of a record** are found among more members. -/
theorem fields?_of_widened {members : List (String × Value)} {wide : Value}
    (widened : (Value.object members).Widened wide) (names : List String) {values : List Value}
    (found : fields? names (.object members) = some values) :
    ∃ more, fields? names wide = some more ∧ WidenedItems values more := by
  obtain ⟨wider, rfl, inner⟩ := exists_of_object_widened widened
  induction names generalizing values with
  | nil =>
    obtain rfl : [] = values := Option.some.inj found
    exact ⟨[], rfl, .nil⟩
  | cons name names ih =>
    simp only [fields?, List.mapM_cons, Option.bind_eq_bind, Option.bind_eq_some_iff,
      Option.pure_def, Option.some.injEq] at found ih ⊢
    obtain ⟨value, first, rest, found, rfl⟩ := found
    obtain ⟨wide, first', item⟩ := exists_member?_of_widened inner first
    obtain ⟨more, found', items⟩ := ih found
    exact ⟨wide :: more, ⟨wide, first', more, found', rfl⟩, .cons item items⟩

/-! ### Reading a value and all that widen it -/

/-- A reader takes a value, and everything that widens it, for one thing. -/
def Reads {α : Type} (read : Value → Option α) (value : Value) (result : α) : Prop :=
  ∀ wide, value.Widened wide → read wide = some result

section Reads

variable {α β : Type} {read : Value → Option α} {value : Value} {result : α}

theorem Reads.self (reads : Reads read value result) : read value = some result :=
  reads value (.refl value)

theorem reads_text? (text : String) : Reads text? (.string text) text := by
  rintro _ ⟨⟩
  rfl

theorem reads_count? {n : Nat} (fits : n ≤ largestCount) : Reads count? (count n) n := by
  rintro _ ⟨⟩
  exact count?_count fits

theorem reads_word? (word : String) : Reads word? (.string word) word := by
  rintro _ ⟨⟩
  rfl

/-- A reader may go on with what it has read. -/
theorem Reads.bind (reads : Reads read value result) {next : α → Option β} {final : β}
    (goesOn : next result = some final) : Reads (fun value => (read value).bind next) value final := by
  intro wide widened
  show (read wide).bind next = some final
  rw [reads wide widened, Option.bind_some, goesOn]

theorem mapM_of_widenedItems {write : α → Value} {results : List α}
    (reads : ∀ result ∈ results, Reads read (write result) result) {wider : List Value}
    (widened : WidenedItems (results.map write) wider) : wider.mapM read = some results := by
  induction results generalizing wider with
  | nil =>
    cases widened
    rfl
  | cons result results ih =>
    obtain ⟨here, below⟩ := List.forall_mem_cons.1 reads
    cases widened with
    | cons item items =>
      rw [List.mapM_cons, here _ item, ih below items]
      rfl

/-- **An array is read through its items.** -/
theorem Reads.array {write : α → Value} {results : List α}
    (reads : ∀ result ∈ results, Reads read (write result) result) :
    Reads (fun value => value.items?.bind (·.mapM read)) (.array (results.map write)) results := by
  intro wide widened
  obtain ⟨wider, rfl, items⟩ := exists_of_array_widened widened
  exact mapM_of_widenedItems reads items

theorem reads_texts? (texts : List String) : Reads texts? (strings texts) texts := by
  intro wide widened
  obtain ⟨wider, rfl, items⟩ := exists_of_array_widened widened
  exact mapM_of_widenedItems (fun text _ => reads_text? text) items

end Reads

end Gamebook.Json.Value
